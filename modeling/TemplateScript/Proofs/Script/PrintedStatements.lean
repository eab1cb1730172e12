import TemplateScript.Proofs.Script.PrintedExpressions

namespace TemplateScript

open Lexeme Printer TemplateScript.Parser
open TemplateScript.Parser.Grammar hiding expression statement

section Lines

def unlines (lines : List String) : List Char := lines.flatMap fun line => line.toList ++ ['\n']

lemma unlines_cons (line : String) (lines : List String) :
    unlines (line :: lines) = line.toList ++ '\n' :: unlines lines := by
  simp [unlines]

lemma unlines_append (lines more : List String) : unlines (lines ++ more) = unlines lines ++ unlines more := by
  simp [unlines]

lemma joinWith_newline {lines : List String} (h : lines ≠ []) :
    (joinWith "\n" lines).toList ++ ['\n'] = unlines lines := by
  obtain ⟨line, lines, rfl⟩ := List.exists_cons_of_ne_nil h
  rw [joinWith_cons, unlines]
  clear h
  induction lines generalizing line with
  | nil => simp
  | cons next lines ih =>
    rw [List.flatMap_cons (x := line), ← ih next]
    simp

lemma indent_blank (tabs : Nat) : ∀ c ∈ (indent tabs).toList, c = ' ' ∨ c = '\n' := by
  induction tabs with
  | zero => simp [indent]
  | succ tabs ih =>
    intro c hc
    simp only [indent, String.toList_append, List.mem_append] at hc
    rcases hc with hc | hc
    · simp at hc
      exact .inl hc
    · exact ih c hc

end Lines

section Statements

variable {g : Grammar} {n : Nat} {cs r : List Char} {s : Stmt}

lemma importStatement_eq_none (h : keyword "import" cs = none) : importStatement cs = none := by
  simp [importStatement, h]

lemma declaration_eq_none (h1 : keyword "const" cs = none) (h2 : keyword "let" cs = none) :
    g.declaration cs = none := by
  simp [declaration, bindingKind, h1, h2]

lemma branch_eq_none (h : keyword "if" cs = none) : g.branch cs = none := by
  rw [branch, h]
  rfl

lemma loop_eq_none (h : keyword "for" cs = none) : g.loop cs = none := by
  rw [loop, h]
  rfl

lemma leave_eq_none (h : keyword "return" cs = none) : g.leave cs = none := by simp [leave, h]

def Wordless (cs : List Char) : Prop := ∀ s ∈ statementWords, keyword s cs = none

lemma wordless_cons {c : Char} (hsolid : isSolid c) (hc : isNameStart c = false) (cs : List Char) :
    Wordless (c :: cs) := by
  intro s _
  refine keyword_eq_none ?_
  rw [next?_cons hsolid]
  rintro d ⟨⟩
  exact hc

lemma statementOf_wordless (h : Wordless cs) : g.statementOf n cs =
    (((g.block n cs).map fun (body, cs) => (some (body.map .block), cs)) <|>
      ((g.expression cs).map fun (value, cs) => (some (value.map .expression), semicolon cs)) <|>
      (symbol ";" cs).map fun cs => (none, cs)) := by
  simp only [statementOf, importStatement_eq_none (h _ (by decide)),
    declaration_eq_none (h _ (by decide)) (h _ (by decide)), branch_eq_none (h _ (by decide)),
    loop_eq_none (h _ (by decide)), leave_eq_none (h _ (by decide)), Option.map_none, Option.map_map]
  rfl

lemma blind_block (g : Grammar) (n : Nat) : Blind (g.block n) := by
  intro c cs hc
  simp only [block, blind_symbol _ c cs hc]

lemma blind_statement (n : Nat) : Blind (grammar n).statement := by
  cases n with
  | zero => exact fun _ _ _ => rfl
  | succ n =>
    intro c cs hc
    simp only [grammar, statementOf, importStatement, declaration, bindingKind, branch, loop, leave,
      blind_keyword _ c cs hc, blind_block _ _ c cs hc, blind_expression n c cs hc, blind_symbol _ c cs hc]

lemma statement_eq_none (h : ∀ c ∈ next? cs, isOpening c = false ∧ c ≠ ';') (n : Nat) :
    (grammar n).statement cs = none := by
  cases n with
  | zero => rfl
  | succ n =>
    have hwords : Wordless cs := by
      refine fun s _ => keyword_eq_none fun c hc => ?_
      have := (h c hc).1
      simp only [isOpening, Bool.or_eq_false_iff] at this
      exact this.1.1
    have h1 : symbol "\x7b" cs = none := by
      refine symbol_eq_none (c := '{') rfl fun hnext => ?_
      have := (h _ hnext).1
      simp [isOpening] at this
    have h2 : symbol ";" cs = none := symbol_eq_none (c := ';') rfl fun hnext => (h _ hnext).2 rfl
    have h3 : (grammar n).expression cs = none := expression_eq_none fun c hc => (h c hc).1
    refine (statementOf_wordless hwords).trans ?_
    simp [block, h1, h2, h3]

end Statements

section Lists

variable {n k tabs : Nat} {r close : List Char} {s : Stmt} {ss : List Stmt}

structure ClosesBlock (close : List Char) : Prop where
  stops : ∀ n, (grammar n).statement close = none
  notElse : keyword "else" close = none

/-- Statements that are read back, one after the other. Line feeds after the last one may be left. -/
structure Stmt.ListReadable (ss : List Stmt) : Prop where
  reads : ∀ n k tabs close, (unlines (statements tabs ss)).length ≤ n → (unlines (statements tabs ss)).length ≤ k →
    ClosesBlock close → ∃ blanks, (∀ c ∈ blanks, c = ' ' ∨ c = '\n') ∧
      Reader.many (grammar n).statement k (unlines (statements tabs ss) ++ close) =
        some ((Stmt.rereadAll ss).map (some <| .ok ·), blanks ++ close)
  notElse : ∀ tabs close, keyword "else" close = none → keyword "else" (unlines (statements tabs ss) ++ close) = none

structure Stmt.Readable (s : Stmt) : Prop where
  wellFormed : s.WellFormed
  reads : ∀ n tabs r, (unlines (statement false tabs s)).length ≤ n → keyword "else" r = none →
    (grammar n).statement (unlines (statement false tabs s) ++ r) = some (some (.ok s.reread), '\n' :: r)
  notElse : ∀ tabs r, keyword "else" (unlines (statement false tabs s) ++ r) = none

lemma Reader.many_newline {α : Type} {p : Reader α} (hp : Blind p) {cs : List Char} {as : List α}
    (h : Reader.many p k cs = some (as, r)) :
    ∃ blanks, (∀ c ∈ blanks, c = ' ' ∨ c = '\n') ∧ Reader.many p k ('\n' :: cs) = some (as, blanks ++ r) := by
  cases k with
  | zero =>
    cases h
    exact ⟨['\n'], by simp, rfl⟩
  | succ k =>
    cases hcs : p cs with
    | none =>
      rw [Reader.many, hcs] at h
      cases h
      refine ⟨['\n'], by simp, ?_⟩
      rw [Reader.many, hp.newline, hcs]
      rfl
    | some result =>
      refine ⟨[], by simp, ?_⟩
      rw [List.nil_append, ← h, Reader.many, Reader.many, hp.newline, hcs]

lemma Stmt.listReadable_nil : Stmt.ListReadable [] where
  reads n k tabs close _ _ hclose := by
    refine ⟨[], by simp, ?_⟩
    cases k <;> simp [statements, unlines, Reader.many, hclose.stops, Stmt.rereadAll]
  notElse tabs close hclose := by simpa [statements, unlines] using hclose

lemma statement_ne_nil (tabs : Nat) (s : Stmt) : statement false tabs s ≠ [] := by
  cases s with
  | leave value => cases value <;> simp [statement]
  | _ => simp [statement]

lemma unlines_pos {lines : List String} (h : lines ≠ []) : 0 < (unlines lines).length := by
  obtain ⟨line, lines, rfl⟩ := List.exists_cons_of_ne_nil h
  simp [unlines_cons]

lemma Stmt.listReadable_cons (hs : s.Readable) (h : Stmt.ListReadable ss) : Stmt.ListReadable (s :: ss) where
  reads n k tabs close hn hk hclose := by
    rw [statements, unlines_append, List.length_append] at hn hk
    have hpos := unlines_pos (statement_ne_nil tabs s)
    obtain ⟨k, rfl⟩ : ∃ j, k = j + 1 := ⟨k - 1, by omega⟩
    obtain ⟨blanks, hblanks, hread⟩ := h.reads n k tabs close (by omega) (by omega) hclose
    obtain ⟨more, hmore, hline⟩ := Reader.many_newline (blind_statement n) hread
    have hfirst := hs.reads n tabs _ (by omega) (h.notElse tabs close hclose.notElse)
    rw [statements, unlines_append, List.append_assoc]
    refine ⟨more ++ blanks, ?_, ?_⟩
    · intro c hc
      exact (List.mem_append.1 hc).elim (hmore c) (hblanks c)
    · rw [Reader.many, hfirst]
      simp only [hline, Option.map_some, Stmt.rereadAll, List.map_cons, List.append_assoc]
  notElse tabs close _ := by
    rw [statements, unlines_append, List.append_assoc]
    exact hs.notElse tabs _

lemma statement_close (n : Nat) (r : List Char) : (grammar n).statement ('}' :: r) = none := by
  refine statement_eq_none ?_ n
  rw [next?_cons rfl]
  rintro c ⟨⟩
  exact ⟨rfl, by decide⟩

lemma closesBlock_brace {blanks : List Char} (hblanks : ∀ c ∈ blanks, c = ' ' ∨ c = '\n') (r : List Char) :
    ClosesBlock (blanks ++ '}' :: r) where
  stops n := by
    rw [(blind_statement n).append hblanks]
    exact statement_close n r
  notElse := by
    rw [(blind_keyword _).append hblanks]
    refine keyword_eq_none ?_
    rw [next?_cons rfl]
    rintro c ⟨⟩
    rfl

lemma closesBlock_nil : ClosesBlock [] where
  stops n := statement_eq_none (by simp [next?, skip]) n
  notElse := rfl

lemma filterMap_map_some {α : Type} (vs : List α) : (vs.map some).filterMap id = vs := by
  rw [List.filterMap_map]
  exact List.filterMap_some

lemma block_read (h : Stmt.ListReadable ss) {blanks : List Char} (hblanks : ∀ c ∈ blanks, c = ' ' ∨ c = '\n')
    (hlen : (unlines (statements tabs ss)).length ≤ n) (r : List Char) :
    (grammar n).block (n + 1) ('{' :: '\n' :: (unlines (statements tabs ss) ++ (blanks ++ '}' :: r))) =
      some (.ok (Stmt.rereadAll ss), r) := by
  obtain ⟨more, hmore, hread⟩ :=
    h.reads n (n + 1) tabs (blanks ++ '}' :: r) hlen (by omega) (closesBlock_brace hblanks r)
  obtain ⟨line, hlines, hread⟩ := Reader.many_newline (blind_statement n) hread
  have h1 (cs : List Char) : symbol "\x7b" ('{' :: cs) = some cs := rfl
  have h2 : symbol "\x7d" (line ++ (more ++ (blanks ++ '}' :: r))) = some r := by
    rw [(blind_symbol _).append hlines, (blind_symbol _).append hmore, (blind_symbol _).append hblanks]
    rfl
  simp only [block, h1, hread, h2, Option.bind_eq_bind, Option.bind_some]
  rw [show ((Stmt.rereadAll ss).map fun s => some (Except.ok s : Checked Stmt)) =
    ((Stmt.rereadAll ss).map Except.ok).map some by simp, filterMap_map_some, sequence_map_ok]
  rfl

lemma statement_block (h : Stmt.ListReadable ss) {blanks : List Char} (hblanks : ∀ c ∈ blanks, c = ' ' ∨ c = '\n')
    (hlen : (unlines (statements tabs ss)).length < n) (r : List Char) :
    (grammar n).statement ('{' :: '\n' :: (unlines (statements tabs ss) ++ (blanks ++ '}' :: r))) =
      some (some (.ok (.block (Stmt.rereadAll ss))), r) := by
  obtain ⟨n, rfl⟩ : ∃ k, n = k + 1 := ⟨n - 1, by omega⟩
  refine (statementOf_wordless (wordless_cons rfl rfl _)).trans ?_
  rw [block_read h hblanks (by omega)]
  rfl

end Lists

section Forms

variable {n tabs : Nat} {r : List Char} {s : Stmt} {ss : List Stmt} {e : Expr} {name : String}

lemma Stmt.readable_of_text (hwf : s.WellFormed) (text : Nat → List Char)
    (htext : ∀ tabs, unlines (statement false tabs s) = (indent tabs).toList ++ text tabs)
    (hreads : ∀ n tabs r, (text tabs).length ≤ n → keyword "else" r = none →
      (grammar n).statement (text tabs ++ r) = some (some (.ok s.reread), '\n' :: r))
    (helse : ∀ tabs r, keyword "else" (text tabs ++ r) = none) : s.Readable where
  wellFormed := hwf
  reads n tabs r hn hr := by
    rw [htext, List.length_append] at hn
    rw [htext, List.append_assoc, (blind_statement n).append (indent_blank tabs)]
    exact hreads n tabs r (by omega) hr
  notElse tabs r := by
    rw [htext, List.append_assoc, (blind_keyword _).append (indent_blank tabs)]
    exact helse tabs r

lemma Stmt.readable_block (hwf : Stmt.AllWellFormed ss) (h : Stmt.ListReadable ss) : (Stmt.block ss).Readable := by
  refine Stmt.readable_of_text hwf
    (fun tabs => '{' :: '\n' :: (unlines (statements (tabs + 1) ss) ++ ((indent tabs).toList ++ ['}', '\n']))) ?_ ?_ ?_
  · intro tabs
    simp [statement, unlines]
  · intro n tabs r hn _
    simp only [List.length_cons, List.length_append] at hn
    simp only [List.cons_append, List.append_assoc, List.nil_append]
    exact statement_block h (indent_blank tabs) (by omega) _
  · intro tabs r
    exact keyword_eq_none (by rw [List.cons_append, next?_cons rfl]; simp [isNameStart])

lemma apart_space (cs : List Char) : Apart (' ' :: cs) := apart_cons rfl (by decide) cs

lemma semicolon_read (cs : List Char) : semicolon (';' :: cs) = cs := rfl

lemma Stmt.readable_importModule (hname : isIdentifier name) (path : String) :
    (Stmt.importModule name path).Readable := by
  refine Stmt.readable_of_text hname
    (fun _ => "import".toList ++ ' ' :: '*' :: ' ' ::
      ("as".toList ++ ' ' :: (name.toList ++ ' ' ::
        ("from".toList ++ ' ' :: ((Text.quote path).toList ++ [';', '\n']))))) ?_ ?_ ?_
  · intro tabs
    simp [statement, unlines]
  · intro n tabs r hn _
    obtain ⟨n, rfl⟩ : ∃ k, n = k + 1 := ⟨n - 1, by simp at hn; omega⟩
    have h1 (cs : List Char) : keyword "import" ("import".toList ++ ' ' :: cs) = some (' ' :: cs) :=
      keyword_append rfl (apart_space cs)
    have h2 (cs : List Char) : symbol "*" (' ' :: '*' :: ' ' :: cs) = some (' ' :: cs) := rfl
    have h3 (cs : List Char) : keyword "as" (' ' :: ("as".toList ++ ' ' :: cs)) = some (' ' :: cs) :=
      ((blind_keyword _).space _).trans (keyword_append rfl (apart_space cs))
    have h4 (cs : List Char) : identifier (' ' :: (name.toList ++ ' ' :: cs)) = some (name, ' ' :: cs) :=
      (blind_identifier.space _).trans (identifier_append hname (apart_space cs))
    have h5 (cs : List Char) : keyword "from" (' ' :: ("from".toList ++ ' ' :: cs)) = some (' ' :: cs) :=
      ((blind_keyword _).space _).trans (keyword_append rfl (apart_space cs))
    have h6 (cs : List Char) :
        stringLiteral (' ' :: ((Text.quote path).toList ++ cs)) = some ((path, Text.quote path), cs) :=
      (blind_stringLiteral.space _).trans (stringLiteral_append (Literal.literalHere_string path none trivial) cs)
    change (grammar n).statementOf (n + 1) _ = _
    simp only [statementOf, List.append_assoc, List.cons_append, List.nil_append, importStatement, h1, h2, h3, h4, h5,
      h6, Option.bind_eq_bind, Option.bind_some, semicolon_read, Option.pure_def, Option.map_some]
    rfl
  · intro tabs r
    simp only [List.append_assoc]
    exact keyword_of_ne rfl (apart_space _) (by decide)

lemma bindingKind_read (kind : Binding) (cs : List Char) :
    bindingKind (kind.name.toList ++ ' ' :: cs) = some (kind, ' ' :: cs) := by
  obtain _ | _ := kind
  · have h1 : keyword "const" ("const".toList ++ ' ' :: cs) = some (' ' :: cs) := keyword_append rfl (apart_space cs)
    simp only [bindingKind, Binding.name, h1]
    rfl
  · have h1 : keyword "const" ("let".toList ++ ' ' :: cs) = none := keyword_of_ne rfl (apart_space cs) (by decide)
    have h2 : keyword "let" ("let".toList ++ ' ' :: cs) = some (' ' :: cs) := keyword_append rfl (apart_space cs)
    simp only [bindingKind, Binding.name, h1, h2]
    rfl

lemma isName_binding (kind : Binding) : isName kind.name := by cases kind <;> rfl

lemma Stmt.readable_declare (kind : Binding) (hname : isIdentifier name) (h : e.Readable) :
    (Stmt.declare kind name e).Readable := by
  have hkind (s : String) (hs : ∀ kind : Binding, kind.name ≠ s) (cs : List Char) :
      keyword s (kind.name.toList ++ ' ' :: cs) = none :=
    keyword_of_ne (isName_binding kind) (apart_space cs) (hs kind)
  refine Stmt.readable_of_text ⟨hname, h.wellFormed⟩
    (fun tabs => kind.name.toList ++ ' ' :: (name.toList ++ ' ' :: '=' :: ' ' :: (e.text tabs ++ [';', '\n']))) ?_ ?_ ?_
  · intro tabs
    simp [statement, unlines, Expr.expression_arrowLevel, Expr.text]
  · intro n tabs r hn _
    simp only [List.length_cons, List.length_append] at hn
    obtain ⟨n, rfl⟩ : ∃ k, n = k + 1 := ⟨n - 1, by omega⟩
    have h1 (cs : List Char) : identifier (' ' :: (name.toList ++ ' ' :: cs)) = some (name, ' ' :: cs) :=
      (blind_identifier.space _).trans (identifier_append hname (apart_space cs))
    have h2 (cs : List Char) : symbol "=" (' ' :: '=' :: ' ' :: cs) = some (' ' :: cs) := rfl
    have h3 (cs : List Char) :
        (grammar n).expression (' ' :: (e.text tabs ++ ';' :: cs)) = some (.ok e.reread, ';' :: cs) :=
      ((blind_expression n).space _).trans (h.expression tabs (by omega) (free_cons rfl rfl rfl cs))
    change (grammar n).statementOf (n + 1) _ = _
    simp only [statementOf, List.append_assoc, List.cons_append, List.nil_append,
      importStatement_eq_none (hkind "import" (by rintro ⟨⟩ <;> decide) _), declaration, bindingKind_read, h1, h2, h3,
      Option.bind_eq_bind, Option.bind_some, semicolon_read, Option.pure_def, Option.map_some]
    rfl
  · intro tabs r
    simp only [List.append_assoc, List.cons_append]
    exact hkind "else" (by rintro ⟨⟩ <;> decide) _

lemma Expr.Readable.wordless_protect (h : e.Readable) (tabs : Nat) (hr : Apart r) :
    Wordless ((protect (Printer.expression 0 tabs e)).toList ++ r) := by
  rw [protect_expression]
  split
  · exact wordless_cons rfl rfl _
  · by_cases hplace : e.place = .whole
    · obtain ⟨params, body, rfl⟩ := Expr.eq_arrow hplace
      rw [Expr.text_arrow]
      exact wordless_cons rfl rfl _
    · exact fun s hs => (e.leads tabs h.wellFormed hplace r hr).keyword_eq_none hs

lemma Stmt.readable_expression (h : e.Readable) : (Stmt.expression e).Readable := by
  refine Stmt.readable_of_text h.wellFormed
    (fun tabs => (protect (Printer.expression 0 tabs e)).toList ++ [';', '\n']) ?_ ?_ ?_
  · intro tabs
    simp [statement, unlines]
  · intro n tabs r hn _
    simp only [List.length_cons, List.length_append] at hn
    obtain ⟨n, rfl⟩ : ∃ k, n = k + 1 := ⟨n - 1, by omega⟩
    have hread := h.protected tabs (n := n) (r := ';' :: '\n' :: r) (by omega) (free_cons rfl rfl rfl _)
    rw [List.append_assoc, List.cons_append, List.cons_append, List.nil_append]
    refine (statementOf_wordless (h.wordless_protect tabs (apart_cons rfl (by decide) _))).trans ?_
    simp only [Grammar.block, h.symbol_protect, hread]
    rfl
  · intro tabs r
    rw [List.append_assoc]
    exact h.wordless_protect tabs (apart_cons rfl (by decide) _) _ (by decide)

lemma keyword_return {s : String} (hs : "return" ≠ s) {cs : List Char} (hcs : Apart cs) :
    keyword s ("return".toList ++ cs) = none :=
  keyword_of_ne rfl hcs hs

lemma statementOf_return {g : Grammar} {cs : List Char} (hcs : Apart cs)
    (h : g.leave ("return".toList ++ cs) = some (.ok s, r)) :
    g.statementOf n ("return".toList ++ cs) = some (some (.ok s), r) := by
  simp only [statementOf, importStatement_eq_none (keyword_return (s := "import") (by decide) hcs),
    declaration_eq_none (keyword_return (s := "const") (by decide) hcs) (keyword_return (s := "let") (by decide) hcs),
    branch_eq_none (keyword_return (s := "if") (by decide) hcs),
    loop_eq_none (keyword_return (s := "for") (by decide) hcs), h]
  rfl

lemma Stmt.readable_return : (Stmt.leave none).Readable := by
  refine Stmt.readable_of_text trivial (fun _ => "return".toList ++ [';', '\n']) ?_ ?_ ?_
  · intro tabs
    simp [statement, unlines]
  · intro n tabs r hn _
    obtain ⟨n, rfl⟩ : ∃ k, n = k + 1 := ⟨n - 1, by simp at hn; omega⟩
    have hapart : Apart (';' :: '\n' :: r) := apart_cons rfl (by decide) _
    have h1 : keyword "return" ("return".toList ++ ';' :: '\n' :: r) = some (';' :: '\n' :: r) :=
      keyword_append rfl hapart
    have h2 : symbol ";" (';' :: '\n' :: r) = some ('\n' :: r) := rfl
    change (grammar n).statementOf (n + 1) ("return".toList ++ ';' :: '\n' :: r) = _
    refine statementOf_return hapart ?_
    simp only [Grammar.leave, h1, h2, Option.bind_eq_bind, Option.bind_some]
    rfl
  · intro tabs r
    exact keyword_return (by decide) (apart_cons rfl (by decide) _)

lemma Stmt.readable_leave (h : e.Readable) : (Stmt.leave (some e)).Readable := by
  refine Stmt.readable_of_text h.wellFormed
    (fun tabs => "return".toList ++ ' ' :: (e.text tabs ++ [';', '\n'])) ?_ ?_ ?_
  · intro tabs
    simp [statement, unlines, Expr.text]
  · intro n tabs r hn _
    simp only [List.length_cons, List.length_append] at hn
    obtain ⟨n, rfl⟩ : ∃ k, n = k + 1 := ⟨n - 1, by omega⟩
    simp only [List.append_assoc, List.cons_append, List.nil_append]
    have h1 (cs : List Char) : keyword "return" ("return".toList ++ ' ' :: cs) = some (' ' :: cs) :=
      keyword_append rfl (apart_space cs)
    have h2 (cs : List Char) : symbol ";" (' ' :: (e.text tabs ++ cs)) = none :=
      ((blind_symbol _).space _).trans (Expr.symbol_text h.wellFormed tabs cs rfl rfl)
    have h3 (cs : List Char) : symbol "\x7d" (' ' :: (e.text tabs ++ cs)) = none :=
      ((blind_symbol _).space _).trans (Expr.symbol_text h.wellFormed tabs cs rfl rfl)
    have h4 (cs : List Char) :
        (grammar n).expression (' ' :: (e.text tabs ++ ';' :: cs)) = some (.ok e.reread, ';' :: cs) :=
      ((blind_expression n).space _).trans (h.expression tabs (by omega) (free_cons rfl rfl rfl cs))
    change (grammar n).statementOf (n + 1) _ = _
    refine statementOf_return (apart_space _) ?_
    simp only [Grammar.leave, h1, h2, h3, h4, Option.bind_eq_bind, Option.bind_some]
    rfl
  · intro tabs r
    rw [List.append_assoc]
    exact keyword_return (by decide) (apart_space _)

lemma statement_braces (h : Stmt.ListReadable s.parts) (tabs : Nat)
    (hlen : (unlines (statement true (tabs + 1) s)).length < n) (r : List Char) :
    (grammar n).statement (' ' :: '{' :: '\n' :: (unlines (statement true (tabs + 1) s) ++
      ((indent tabs).toList ++ '}' :: r))) = some (some (.ok (.block (Stmt.rereadAll s.parts))), r) := by
  rw [statement_body] at hlen ⊢
  rw [(blind_statement n).space]
  exact statement_block h (indent_blank tabs) hlen r

lemma Stmt.asBody_reread (s : Stmt) : s.reread.asBody = .block (Stmt.rereadAll s.parts) := by
  cases s with
  | branch test consequent alternate => cases alternate <;> rfl
  | leave value => cases value <;> rfl
  | _ => rfl

lemma Stmt.readable_forOf (hname : isIdentifier name) (h : e.Readable) (hwf : s.WellFormed)
    (hs : Stmt.ListReadable s.parts) : (Stmt.forOf name e s).Readable := by
  have hfor (w : String) (hw : "for" ≠ w) (cs : List Char) : keyword w ("for".toList ++ ' ' :: cs) = none :=
    keyword_of_ne rfl (apart_space cs) hw
  refine Stmt.readable_of_text ⟨hname, h.wellFormed, hwf⟩
    (fun tabs => "for".toList ++ ' ' :: '(' :: ("const".toList ++ ' ' :: (name.toList ++ ' ' :: ("of".toList ++ ' ' ::
      (e.text tabs ++ ')' :: ' ' :: '{' :: '\n' :: (unlines (statement true (tabs + 1) s) ++
        ((indent tabs).toList ++ ['}', '\n']))))))) ?_ ?_ ?_
  · intro tabs
    simp [statement, unlines, Expr.text]
  · intro n tabs r hn _
    simp only [List.length_cons, List.length_append] at hn
    obtain ⟨n, rfl⟩ : ∃ k, n = k + 1 := ⟨n - 1, by omega⟩
    have h1 (cs : List Char) : keyword "for" ("for".toList ++ ' ' :: cs) = some (' ' :: cs) :=
      keyword_append rfl (apart_space cs)
    have h2 (cs : List Char) : symbol "(" (' ' :: '(' :: cs) = some cs := rfl
    have h3 (cs : List Char) : bindingKind ("const".toList ++ ' ' :: cs) = some (.constant, ' ' :: cs) :=
      bindingKind_read .constant cs
    have h4 (cs : List Char) : identifier (' ' :: (name.toList ++ ' ' :: cs)) = some (name, ' ' :: cs) :=
      (blind_identifier.space _).trans (identifier_append hname (apart_space cs))
    have h5 (cs : List Char) : keyword "of" (' ' :: ("of".toList ++ ' ' :: cs)) = some (' ' :: cs) :=
      ((blind_keyword _).space _).trans (keyword_append rfl (apart_space cs))
    have h6 (cs : List Char) :
        (grammar n).expression (' ' :: (e.text tabs ++ ')' :: cs)) = some (.ok e.reread, ')' :: cs) :=
      ((blind_expression n).space _).trans (h.expression tabs (by omega) (free_cons rfl rfl rfl cs))
    have h7 (cs : List Char) : symbol ")" (')' :: cs) = some cs := rfl
    have h8 := statement_braces (n := n) hs tabs (by omega) ('\n' :: r)
    change (grammar n).statementOf (n + 1) _ = _
    simp only [statementOf, List.append_assoc, List.cons_append, List.nil_append,
      importStatement_eq_none (hfor "import" (by decide) _),
      declaration_eq_none (hfor "const" (by decide) _) (hfor "let" (by decide) _),
      branch_eq_none (hfor "if" (by decide) _), loop, h1, h2, h3, h4, h5, h6, h7, h8, Option.bind_eq_bind,
      Option.bind_some, Option.pure_def, Option.map_some]
    rw [Stmt.reread, Stmt.asBody_reread]
    rfl
  · intro tabs r
    simp only [List.append_assoc, List.cons_append]
    exact hfor "else" (by decide) _

lemma otherwise_some (tabs : Nat) (s : Stmt) : ∃ text,
    unlines (otherwise tabs (some s)) = (indent tabs).toList ++ '}' :: ' ' :: ("else".toList ++ ' ' :: text) ∧
    unlines (statement false tabs s.asAlternate) = (indent tabs).toList ++ text := by
  by_cases hs : ∃ test consequent alternate, s = .branch test consequent alternate
  · obtain ⟨test, consequent, alternate, rfl⟩ := hs
    refine ⟨"if (".toList ++ (expression 0 tabs test).toList ++ ") \x7b\n".toList ++
      unlines (statement true (tabs + 1) consequent ++ otherwise tabs alternate), ?_, ?_⟩
    · simp [otherwise, unlines]
    · simp [Stmt.asAlternate, statement, unlines]
  · have hne : ∀ test consequent alternate, s = .branch test consequent alternate → False :=
      fun test consequent alternate heq => hs ⟨test, consequent, alternate, heq⟩
    refine ⟨"\x7b\n".toList ++ unlines (statement true (tabs + 1) s ++ [indent tabs ++ "\x7d"]), ?_, ?_⟩
    · rw [otherwise.eq_3 _ _ hne]
      simp [unlines]
    · rw [Stmt.asAlternate.eq_2 _ hne, Stmt.asBody, statement, statement_body]
      simp [unlines]

lemma statementOf_branch (h : e.Readable) (hs : Stmt.ListReadable s.parts) (tabs : Nat)
    (alternate : Option (Checked Stmt)) {cs : List Char}
    (hlen : (e.text tabs).length + (unlines (statement true (tabs + 1) s)).length < n)
    (halternate : ((keyword "else" cs).bind (grammar n).statement).getD (none, cs) = (alternate, r)) :
    (grammar n).branch ("if".toList ++ ' ' :: '(' :: (e.text tabs ++ ')' :: ' ' :: '{' :: '\n' ::
      (unlines (statement true (tabs + 1) s) ++ ((indent tabs).toList ++ '}' :: cs)))) =
      some ((do
        let alternate ← match alternate with
          | some s => s.map some
          | none => .ok none
        return .branch e.reread s.reread.asBody alternate), r) := by
  have h1 (cs : List Char) : keyword "if" ("if".toList ++ ' ' :: cs) = some (' ' :: cs) :=
    keyword_append rfl (apart_space cs)
  have h2 (cs : List Char) : symbol "(" (' ' :: '(' :: cs) = some cs := rfl
  have h3 (cs : List Char) : (grammar n).expression (e.text tabs ++ ')' :: cs) = some (.ok e.reread, ')' :: cs) :=
    h.expression tabs (by omega) (free_cons rfl rfl rfl cs)
  have h4 (cs : List Char) : symbol ")" (')' :: cs) = some cs := rfl
  have h5 := statement_braces (n := n) hs tabs (by omega) cs
  simp only [branch, h1, h2, h3, h4, h5, Option.bind_eq_bind, Option.bind_some]
  rw [halternate, Stmt.asBody_reread]
  cases alternate <;> rfl

lemma keyword_if {w : String} (hw : "if" ≠ w) (cs : List Char) : keyword w ("if".toList ++ ' ' :: cs) = none :=
  keyword_of_ne rfl (apart_space cs) hw

lemma statementOf_if {g : Grammar} {cs : List Char} (h : g.branch ("if".toList ++ ' ' :: cs) = some (.ok s, r)) :
    g.statementOf n ("if".toList ++ ' ' :: cs) = some (some (.ok s), r) := by
  simp only [statementOf, importStatement_eq_none (keyword_if (w := "import") (by decide) cs),
    declaration_eq_none (keyword_if (w := "const") (by decide) cs) (keyword_if (w := "let") (by decide) cs), h]
  rfl

lemma Stmt.readable_if (h : e.Readable) (hwf : s.WellFormed) (hs : Stmt.ListReadable s.parts) :
    (Stmt.branch e s none).Readable := by
  refine Stmt.readable_of_text ⟨h.wellFormed, hwf⟩
    (fun tabs => "if".toList ++ ' ' :: '(' :: (e.text tabs ++ ')' :: ' ' :: '{' :: '\n' ::
      (unlines (statement true (tabs + 1) s) ++ ((indent tabs).toList ++ ['}', '\n'])))) ?_ ?_ ?_
  · intro tabs
    simp [statement, otherwise, unlines, Expr.text]
  · intro n tabs r hn helse
    simp only [List.length_cons, List.length_append] at hn
    obtain ⟨n, rfl⟩ : ∃ k, n = k + 1 := ⟨n - 1, by omega⟩
    simp only [List.append_assoc, List.cons_append, List.nil_append]
    change (grammar n).statementOf (n + 1) _ = _
    refine statementOf_if ?_
    rw [statementOf_branch h hs tabs none (by omega) (r := '\n' :: r), Stmt.reread]
    · rfl
    · rw [(blind_keyword _).newline, helse]
      rfl
  · intro tabs r
    simp only [List.append_assoc, List.cons_append]
    exact keyword_if (by decide) _

lemma Stmt.reread_asAlternate (s : Stmt) : s.asAlternate.reread = s.reread.asAlternate := by
  cases s with
  | branch test consequent alternate => cases alternate <;> rfl
  | leave value => cases value <;> rfl
  | _ => rfl

lemma Stmt.wellFormed_parts (h : s.WellFormed) : Stmt.AllWellFormed s.parts := by
  cases s with
  | block ss =>
    rw [Stmt.WellFormed] at h
    exact h
  | _ => exact ⟨h, trivial⟩

lemma Stmt.readable_asAlternate (h : s.Readable) (hs : Stmt.ListReadable s.parts) : s.asAlternate.Readable := by
  cases s with
  | branch => exact h
  | _ => exact Stmt.readable_block (Stmt.wellFormed_parts h.wellFormed) hs

lemma Stmt.readable_ifElse (h : e.Readable) (hwf : s.WellFormed) (hs : Stmt.ListReadable s.parts) {alternate : Stmt}
    (hawf : alternate.WellFormed) (ha : alternate.asAlternate.Readable) :
    (Stmt.branch e s (some alternate)).Readable := by
  choose text htext halternate using fun tabs => otherwise_some tabs alternate
  refine Stmt.readable_of_text ⟨h.wellFormed, hwf, hawf⟩
    (fun tabs => "if".toList ++ ' ' :: '(' :: (e.text tabs ++ ')' :: ' ' :: '{' :: '\n' ::
      (unlines (statement true (tabs + 1) s) ++
        ((indent tabs).toList ++ '}' :: ' ' :: ("else".toList ++ ' ' :: text tabs))))) ?_ ?_ ?_
  · intro tabs
    rw [statement, unlines_cons, unlines_append, htext]
    simp [Expr.text]
  · intro n tabs r hn helse
    simp only [List.length_cons, List.length_append] at hn
    obtain ⟨n, rfl⟩ : ∃ k, n = k + 1 := ⟨n - 1, by omega⟩
    have hread := ha.reads n tabs r (by rw [halternate, List.length_append]; omega) helse
    rw [halternate, List.append_assoc, (blind_statement n).append (indent_blank tabs)] at hread
    simp only [List.append_assoc, List.cons_append]
    change (grammar n).statementOf (n + 1) _ = _
    refine statementOf_if ?_
    rw [statementOf_branch h hs tabs (some (.ok alternate.asAlternate.reread)) (by omega) (r := '\n' :: r),
      Stmt.reread, Stmt.reread_asAlternate]
    · rfl
    · have hkeyword : keyword "else" (' ' :: ("else".toList ++ ' ' :: (text tabs ++ r))) =
          some (' ' :: (text tabs ++ r)) :=
        ((blind_keyword _).space _).trans (keyword_append rfl (apart_space _))
      rw [hkeyword, Option.bind_some, (blind_statement n).space, hread]
      rfl
  · intro tabs r
    simp only [List.append_assoc, List.cons_append]
    exact keyword_if (by decide) _

end Forms

lemma Body.readable_block {ss : List Stmt} (hwf : Stmt.AllWellFormed ss) (h : Stmt.ListReadable ss) :
    (Body.block ss).Readable where
  wellFormed := hwf
  reads n tabs r hlen hr := by
    cases ss with
    | nil =>
      rw [function]
      have h1 (cs : List Char) : symbol "\x7b" ('{' :: cs) = some cs := rfl
      have h2 : symbol "\x7d" ('}' :: r) = some r := rfl
      change functionBody (grammar n) (n + 1) ('{' :: '}' :: r) = _
      simp only [functionBody, Grammar.block, h1, Reader.many, statement_close, h2, Option.bind_eq_bind,
        Option.bind_some]
      rfl
    | cons s ss =>
      have hne : statements (tabs + 1) (s :: ss) ≠ [] := by
        rw [statements]
        simp [statement_ne_nil]
      have htext : (function tabs (.block (s :: ss))).toList = '{' :: '\n' ::
          (unlines (statements (tabs + 1) (s :: ss)) ++ ((indent tabs).toList ++ ['}'])) := by
        rw [← joinWith_newline hne]
        simp [function]
      rw [htext] at hlen ⊢
      simp only [List.length_cons, List.length_append] at hlen
      have hblock : (grammar n).block (n + 1) ('{' :: '\n' :: (unlines (statements (tabs + 1) (s :: ss)) ++
          ((indent tabs).toList ++ '}' :: r))) = some (.ok (Stmt.rereadAll (s :: ss)), r) :=
        block_read h (indent_blank tabs) (by omega) r
      simp only [List.cons_append, List.append_assoc, List.nil_append, functionBody, hblock]
      rfl

end TemplateScript
