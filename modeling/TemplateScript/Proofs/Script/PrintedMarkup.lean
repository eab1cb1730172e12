import TemplateScript.Proofs.Script.PrintedExpressions

namespace TemplateScript

open Lexeme Printer TemplateScript.Parser TemplateScript.Parser.Grammar

section Tags

lemma intercalate_dot (cs : List Char) (css : List (List Char)) :
    ['.'].intercalate (cs :: css) = cs ++ css.flatMap ('.' :: ·) := by
  induction css generalizing cs with
  | nil => simp
  | cons ds css ih => rw [List.intercalate_cons_cons, ih ds]; simp

lemma text_foldl_member (tabs : Nat) (names : List (List Char)) (e : Expr) (he : e.place = .postfixed) :
    (names.foldl (fun e name => Expr.member e (String.ofList name)) e).text tabs = 
      e.text tabs ++ names.flatMap ('.' :: ·) := by
  induction names generalizing e with
  | nil => simp
  | cons name names ih =>
    rw [List.foldl_cons, ih _ rfl, Expr.text_member, Expr.operandText_eq, if_neg (by rw [he]; exact Nat.lt_irrefl _)]
    simp

lemma text_memberChain (tabs : Nat) (path : String) : (memberChain path).text tabs = path.toList := by
  have hjoin : ['.'].intercalate (path.toList.splitOn '.') = path.toList := List.intercalate_splitOn '.'
  rw [memberChain]
  cases hsplit : path.toList.splitOn '.' with
  | nil =>
    rw [hsplit] at hjoin
    simp [Expr.text, Printer.expression, ← hjoin]
  | cons root names =>
    rw [hsplit, intercalate_dot] at hjoin
    simp only
    rw [text_foldl_member tabs names _ rfl, ← hjoin]
    simp [Expr.text, Printer.expression]

lemma toList_tag_classifyTag (tabs : Nat) (name : String) : (tag tabs (classifyTag name)).toList = name.toList := by
  rw [classifyTag]
  split
  · next path hname =>
    rw [tag, String.toList_append, hname]
    change _ ++ (memberChain _).text tabs = _
    rw [text_memberChain]
    simp
  · next cs hname =>
    split
    · exact text_memberChain tabs name
    · rfl

lemma isSolid_of_isTagStart {c : Char} (h : isTagStart c) : isSolid c := by
  by_contra hc
  simp only [isSolid, Bool.and_eq_true, bne_iff_ne, not_and_or, not_not] at hc
  rcases hc with (((rfl | rfl) | rfl) | rfl) | rfl <;> exact absurd h (by decide)

lemma isTagName_head {name : String} (h : isTagName name) :
    ∃ c cs, name.toList = c :: cs ∧ (c = '$' ∨ isTagStart c) := by
  rw [isTagName] at h
  split at h
  · next cs hs => exact ⟨'$', cs, hs, .inl rfl⟩
  · cases hs : name.toList with
    | nil => simp [hs, isWord] at h
    | cons c cs =>
      rw [hs, isWord, Bool.and_eq_true] at h
      exact ⟨c, cs, rfl, .inr h.1⟩

lemma isSolid_of_isTagName {name : String} (h : isTagName name) :
    ∃ c cs, name.toList = c :: cs ∧ isSolid c ∧ c ≠ '*' ∧ c ≠ '>' := by
  obtain ⟨c, cs, hs, rfl | hc⟩ := isTagName_head h
  · exact ⟨'$', cs, hs, rfl, by decide, by decide⟩
  · refine ⟨c, cs, hs, isSolid_of_isTagStart hc, ?_, ?_⟩ <;> rintro rfl <;> exact absurd hc (by decide)

lemma tagName_append {name : String} {rest : List Char} (h : isTagName name) (hrest : Breaks isTagChar rest) :
    tagName (name.toList ++ rest) = some (name, rest) := by
  have htag := h
  rw [isTagName] at h
  split at h
  · next cs hs =>
    have hword := word_append (s := String.ofList cs) (by rwa [String.toList_ofList]) hrest
    rw [String.toList_ofList] at hword
    rw [tagName, hs, List.cons_append, skip_cons rfl]
    simp only [hword, Option.map_some]
    rw [← String.ofList_toList (s := name), hs]
    simp
  · next hdollar =>
    obtain ⟨c, cs, hs, hsolid, -⟩ := isSolid_of_isTagName htag
    have hword := word_append h hrest
    rw [tagName, hs, List.cons_append, skip_cons hsolid, ← List.cons_append, ← hs]
    split
    · next ds hds =>
      rw [hs] at hds
      exact absurd (hs.trans (congrArg (· :: cs) (List.cons.inj hds).1)) (hdollar cs)
    · exact hword

end Tags

section Attributes

structure EndsAttribute (cs : List Char) : Prop where
  breaks : Breaks isTagChar cs
  value : symbol "=" cs = none

structure ClosesAttributes (cs : List Char) : Prop extends EndsAttribute cs where
  none : ∀ g : Grammar, g.markupAttribute cs = none

variable {n tabs : Nat} {r : List Char} {name : String}

lemma isSolid_of_isAttributeName (h : isAttributeName name) :
    ∃ c cs, name.toList = c :: cs ∧ isSolid c ∧ c ≠ '=' ∧ c ≠ '{' := by
  rw [isAttributeName] at h
  cases hs : name.toList with
  | nil => simp [hs, isWord] at h
  | cons c cs =>
    rw [hs, isWord, Bool.and_eq_true] at h
    refine ⟨c, cs, rfl, ?_, ?_, ?_⟩
    · by_contra hc
      simp only [isSolid, Bool.and_eq_true, bne_iff_ne, not_and_or, not_not] at hc
      rcases hc with (((rfl | rfl) | rfl) | rfl) | rfl <;> exact absurd h.1 (by decide)
    · rintro rfl
      exact absurd h.1 (by decide)
    · rintro rfl
      exact absurd h.1 (by decide)

lemma attributeName_append (h : isAttributeName name) (hr : Breaks isTagChar r) :
    attributeName (name.toList ++ r) = some (name, r) := by
  obtain ⟨c, cs, hs, hsolid, -⟩ := isSolid_of_isAttributeName h
  rw [attributeName, hs, List.cons_append, skip_cons hsolid, ← List.cons_append, ← hs]
  exact word_append h hr

def attributeValueOf (g : Grammar) : Reader (Checked Expr) := fun cs =>
  (do
    let ((value, source), cs) ← stringLiteral cs
    return (.ok (.literal (.string value (some source))), cs)) <|> do
    let cs ← symbol "\x7b" cs
    let (value, cs) ← g.expression cs
    let cs ← symbol "\x7d" cs
    return (value, cs)

lemma markupAttribute_name {g : Grammar} (h : isAttributeName name) (hr : EndsAttribute r) :
    g.markupAttribute (' ' :: (name.toList ++ r)) = some (.ok (.named name none), r) := by
  obtain ⟨c, cs, hs, hsolid, -, hbrace⟩ := isSolid_of_isAttributeName h
  have h1 : symbol "\x7b" (name.toList ++ r) = none := by
    refine symbol_eq_none (c := '{') rfl ?_
    rw [hs, List.cons_append, next?_cons hsolid]
    exact fun heq => hbrace (Option.some.inj heq)
  simp [markupAttribute, (blind_symbol _).space, blind_attributeName.space, h1, attributeName_append h hr.breaks,
    hr.value]

lemma markupAttribute_value {g : Grammar} (h : isAttributeName name) {cs : List Char} {value : Expr}
    (hvalue : attributeValueOf g cs = some (.ok value, r)) :
    g.markupAttribute (' ' :: (name.toList ++ '=' :: cs)) = some (.ok (.named name (some value)), r) := by
  obtain ⟨c, ds, hs, hsolid, -, hbrace⟩ := isSolid_of_isAttributeName h
  have h1 : symbol "\x7b" (name.toList ++ '=' :: cs) = none := by
    refine symbol_eq_none (c := '{') rfl ?_
    rw [hs, List.cons_append, next?_cons hsolid]
    exact fun heq => hbrace (Option.some.inj heq)
  have h2 : attributeName (name.toList ++ '=' :: cs) = some (name, '=' :: cs) := by
    refine attributeName_append h ?_
    rintro c ⟨⟩
    rfl
  have h3 : symbol "=" ('=' :: cs) = some cs := rfl
  simp only [attributeValueOf, Option.bind_eq_bind] at hvalue
  simp only [markupAttribute, (blind_symbol _).space, blind_attributeName.space, h1, h2, h3, hvalue,
    Option.bind_eq_bind, Option.bind_some, Option.bind_none]
  rfl

lemma attributeValue_read {value : Expr} (h : value.Readable) (tabs : Nat)
    (hlen : (attributeValue value (Printer.expression 0 tabs value)).toList.length < n) (r : List Char) :
    attributeValueOf (grammar n) ((attributeValue value (Printer.expression 0 tabs value)).toList ++ r) =
      some (.ok value.reread, r) := by
  by_cases hstring : ∃ s source, value = .literal (.string s source)
  · obtain ⟨s, source, rfl⟩ := hstring
    have hwf := h.wellFormed
    simp only [Expr.WellFormed] at hwf
    have hread := stringLiteral_append (Literal.literalHere_string s source hwf) r
    simp only [attributeValueOf, attributeValue, hread]
    rfl
  · have htext : attributeValue value (Printer.expression 0 tabs value) = "\x7b" ++ Printer.expression 0 tabs value ++
        "\x7d" := by
      rw [attributeValue]
      exact fun s source hs => hstring ⟨s, source, hs⟩
    have hlist : ("\x7b" ++ Printer.expression 0 tabs value ++ "\x7d").toList = '{' :: (value.text tabs ++ ['}']) := by
      simp [Expr.text]
    rw [htext, hlist] at hlen ⊢
    simp only [List.length_cons, List.length_append] at hlen
    rw [List.cons_append, List.append_assoc]
    have h1 (cs : List Char) : stringLiteral ('{' :: cs) = none := stringLiteral_eq_none (by rw [next?_cons rfl]; simp)
    have h2 (cs : List Char) : symbol "\x7b" ('{' :: cs) = some cs := rfl
    have h3 : symbol "\x7d" ('}' :: r) = some r := rfl
    have hread := h.expression tabs (n := n) (r := '}' :: r) (by omega) (free_cons rfl rfl rfl r)
    simp [attributeValueOf, h1, h2, hread, h3]

lemma markupAttribute_spread {source : Expr} (h : source.Readable) (tabs : Nat) (hlen : (source.text tabs).length < n)
    (r : List Char) : (grammar n).markupAttribute (' ' :: '{' :: '.' :: '.' :: '.' :: (source.text tabs ++ '}' :: r)) =
      some (.ok (.spread source.reread), r) := by
  have h1 (cs : List Char) : symbol "\x7b" (' ' :: '{' :: cs) = some cs := rfl
  have h2 (cs : List Char) : symbol "..." ('.' :: '.' :: '.' :: cs) = some cs := rfl
  have h3 : symbol "\x7d" ('}' :: r) = some r := rfl
  have hread := h.expression tabs (n := n) (r := '}' :: r) hlen (free_cons rfl rfl rfl r)
  simp [markupAttribute, h1, h2, hread, h3, Except.map]

def MarkupAttribute.Readable (parts : List MarkupAttribute) : Prop :=
  ∀ n m tabs close, (markupAttributes tabs parts).toList.length < n → (markupAttributes tabs parts).toList.length ≤ m →
    ClosesAttributes close →
    Reader.many (grammar n).markupAttribute m ((markupAttributes tabs parts).toList ++ close) =
      some ((MarkupAttribute.rereadAll parts).map .ok, close)

lemma endsAttribute_space {c : Char} {cs : List Char} (hsolid : isSolid c) (hc : c ≠ '=') :
    EndsAttribute (' ' :: c :: cs) where
  breaks := by
    rintro d ⟨⟩
    rfl
  value := by
    refine symbol_eq_none (c := '=') rfl ?_
    rw [next?_space, next?_cons hsolid]
    exact fun heq => hc (Option.some.inj heq)

lemma endsAttribute_attributes {parts : List MarkupAttribute} (h : MarkupAttribute.AllWellFormed parts) (tabs : Nat)
    {close : List Char} (hclose : EndsAttribute close) :
    EndsAttribute ((markupAttributes tabs parts).toList ++ close) := by
  cases parts with
  | nil => simpa [markupAttributes] using hclose
  | cons part parts =>
    cases part with
    | spread source =>
      simp only [markupAttributes, String.toList_append]
      exact endsAttribute_space (c := '{') rfl (by decide)
    | named name value =>
      have hname : isAttributeName name := by
        cases value with
        | none => exact (by simpa only [MarkupAttribute.AllWellFormed] using h : _ ∧ _).1
        | some value => exact (by simpa only [MarkupAttribute.AllWellFormed] using h : _ ∧ _).1
      obtain ⟨c, cs, hs, hsolid, hc, -⟩ := isSolid_of_isAttributeName hname
      cases value with
      | none =>
        simp only [markupAttributes, String.toList_append, hs]
        exact endsAttribute_space hsolid hc
      | some value =>
        simp only [markupAttributes_named, String.toList_append, hs]
        exact endsAttribute_space hsolid hc

lemma many_succ {α : Type} {p : Reader α} {m : Nat} {cs rest close : List Char} {a : α} {as : List α}
    (h : p cs = some (a, rest)) (hrest : Reader.many p m rest = some (as, close)) :
    Reader.many p (m + 1) cs = some (a :: as, close) := by
  simp [Reader.many, h, hrest]

lemma MarkupAttribute.readable_nil : MarkupAttribute.Readable [] := by
  intro n m tabs close _ _ hclose
  cases m <;> simp [markupAttributes, Reader.many, hclose.none, MarkupAttribute.rereadAll]

section Step

variable {parts : List MarkupAttribute}

lemma MarkupAttribute.readable_name (hname : isAttributeName name) (hwf : MarkupAttribute.AllWellFormed parts)
    (h : MarkupAttribute.Readable parts) : MarkupAttribute.Readable (.named name none :: parts) := by
  intro n m tabs close hn hm hclose
  have htext : (markupAttributes tabs (.named name none :: parts)).toList =
      ' ' :: (name.toList ++ (markupAttributes tabs parts).toList) := by
    simp [markupAttributes]
  rw [htext] at hn hm ⊢
  simp only [List.length_cons, List.length_append] at hn hm
  obtain ⟨m, rfl⟩ : ∃ k, m = k + 1 := ⟨m - 1, by omega⟩
  rw [List.cons_append, List.append_assoc]
  refine many_succ (markupAttribute_name hname ?_) (h n m tabs close (by omega) (by omega) hclose)
  exact endsAttribute_attributes hwf tabs hclose.toEndsAttribute

lemma MarkupAttribute.readable_named (hname : isAttributeName name) {value : Expr} (hvalue : value.Readable)
    (h : MarkupAttribute.Readable parts) : MarkupAttribute.Readable (.named name (some value) :: parts) := by
  intro n m tabs close hn hm hclose
  have htext : (markupAttributes tabs (.named name (some value) :: parts)).toList = ' ' :: (name.toList ++ '=' ::
      ((attributeValue value (Printer.expression 0 tabs value)).toList ++ (markupAttributes tabs parts).toList)) := by
    simp [markupAttributes_named]
  rw [htext] at hn hm ⊢
  simp only [List.length_cons, List.length_append] at hn hm
  obtain ⟨m, rfl⟩ : ∃ k, m = k + 1 := ⟨m - 1, by omega⟩
  simp only [List.cons_append, List.append_assoc]
  refine many_succ (markupAttribute_value hname ?_) (h n m tabs close (by omega) (by omega) hclose)
  exact attributeValue_read hvalue tabs (by omega) _

lemma MarkupAttribute.readable_spread {source : Expr} (hsource : source.Readable) (h : MarkupAttribute.Readable parts) :
    MarkupAttribute.Readable (.spread source :: parts) := by
  intro n m tabs close hn hm hclose
  have htext : (markupAttributes tabs (.spread source :: parts)).toList =
      ' ' :: '{' :: '.' :: '.' :: '.' :: (source.text tabs ++ '}' :: (markupAttributes tabs parts).toList) := by
    simp [markupAttributes, Expr.text]
  rw [htext] at hn hm ⊢
  simp only [List.length_cons, List.length_append] at hn hm
  obtain ⟨m, rfl⟩ : ∃ k, m = k + 1 := ⟨m - 1, by omega⟩
  simp only [List.cons_append, List.append_assoc]
  exact many_succ (markupAttribute_spread hsource tabs (by omega) _) (h n m tabs close (by omega) (by omega) hclose)

end Step

end Attributes

section Children

variable {g : Grammar} {n m k tabs : Nat} {r cs : List Char}

def isTextChar (c : Char) : Bool := c != '<' && c != '{'

def child (g : Grammar) (m : Nat) : Reader (Checked Markup) :=
  fun cs => g.markup m cs <|> g.container cs <|> Grammar.text cs

/-- Markup that can be written down and is read back. A tree is read wherever it stands, and text up to other markup. -/
structure Markup.Readable (node : Markup) : Prop where
  wellFormed : node.WellFormed
  reads : ∀ n m tabs r, (Printer.markup tabs node).toList.length ≤ n → (Printer.markup tabs node).toList.length ≤ m →
    (node.isText → Breaks isTextChar r) →
    child (grammar n) m ((Printer.markup tabs node).toList ++ r) = some (.ok node.reread, r)
  tree : node.isTree → ∀ n m tabs r, (Printer.markup tabs node).toList.length ≤ n →
    (Printer.markup tabs node).toList.length ≤ m →
    (grammar n).markup m ((Printer.markup tabs node).toList ++ r) = some (.ok node.reread, r)

lemma child_eq (g : Grammar) (m : Nat) : child g m = fun cs => g.markup m cs <|> g.container cs <|> Grammar.text cs :=
  rfl

lemma child_of_markup {node : Markup} (h : g.markup m cs = some (.ok node, r)) : child g m cs = some (.ok node, r) := by
  simp [child, h]

lemma Markup.readable_text {value : String} (h : (Markup.text value).WellFormed) : (Markup.text value).Readable where
  wellFormed := h
  tree htree := by simp [Markup.isTree] at htree
  reads n m tabs r _ _ hr := by
    obtain ⟨hne, hchars⟩ := h
    have hbreaks := hr rfl
    have hall : ∀ c ∈ value.toList, isTextChar c := by
      intro c hc
      obtain ⟨h1, h2⟩ := hchars c hc
      simp [isTextChar, h1, h2]
    obtain ⟨c, cs, hs⟩ := List.exists_cons_of_ne_nil (l := value.toList) (by simpa using hne)
    have hc := hchars c (by simp [hs])
    have h1 : (grammar n).markup m (value.toList ++ r) = none := by
      refine markup_eq_none ?_ _ _
      rw [hs, List.cons_append]
      exact fun heq => hc.1 (Option.some.inj heq)
    have h2 : strip? ['{'] (value.toList ++ r) = none := by
      rw [hs, List.cons_append, strip?, if_neg hc.2.symm]
    have h3 : Grammar.text (value.toList ++ r) = some (.ok (.text value), r) := by
      have htake : (value.toList ++ r).takeWhile (fun c => c != '<' && c != '{') = value.toList :=
        takeWhile_append_breaks hall hbreaks
      have hdrop : (value.toList ++ r).dropWhile (fun c => c != '<' && c != '{') = r :=
        dropWhile_append_breaks hall hbreaks
      simp only [Grammar.text, htake, hdrop]
      rw [if_neg (by simp [hs]), String.ofList_toList]
    simp only [Printer.markup, child, h1, Grammar.container, h2, h3]
    rfl

lemma child_container {value : Checked Markup} (h : g.container ('{' :: cs) = some (value, r)) :
    child g m ('{' :: cs) = some (value, r) := by
  have h1 : g.markup m ('{' :: cs) = none := markup_eq_none (by simp) g m
  simp [child, h1, h]

lemma Markup.readable_braces : (Markup.container none).Readable where
  wellFormed := trivial
  tree htree := by simp [Markup.isTree] at htree
  reads n m tabs r _ _ _ := by
    rw [Printer.markup]
    change child _ _ ('{' :: '}' :: r) = _
    refine child_container ?_
    have h1 : strip? ['{'] ('{' :: '}' :: r) = some ('}' :: r) := rfl
    have h2 : symbol "\x7d" ('}' :: r) = some r := rfl
    have h3 : (grammar n).expression ('}' :: r) = none := expression_eq_none (by rw [next?_cons rfl]; rintro c ⟨⟩; rfl)
    simp [Grammar.container, h1, h2, h3, Markup.reread]

lemma Markup.readable_container {value : Expr} (h : value.Readable) : (Markup.container (some value)).Readable where
  wellFormed := h.wellFormed
  tree htree := by simp [Markup.isTree] at htree
  reads n m tabs r hn _ _ := by
    have htext : (Printer.markup tabs (.container (some value))).toList = '{' :: (value.text tabs ++ ['}']) := by
      simp [Printer.markup, Expr.text]
    rw [htext] at hn ⊢
    simp only [List.length_cons, List.length_append] at hn
    rw [List.cons_append, List.append_assoc]
    refine child_container ?_
    have h1 (cs : List Char) : strip? ['{'] ('{' :: cs) = some cs := rfl
    have h2 : symbol "\x7d" ('}' :: r) = some r := rfl
    have h3 := h.expression tabs (n := n) (r := '}' :: r) (by omega) (free_cons rfl rfl rfl r)
    simp [Grammar.container, h1, h2, h3, Markup.reread, Except.map]

def Markup.ListReadable (nodes : List Markup) : Prop :=
  ∀ n m k tabs close, (markups tabs nodes).toList.length ≤ n → (markups tabs nodes).toList.length ≤ m →
    (markups tabs nodes).toList.length ≤ k → Breaks isTextChar close → (∀ g m, child g m close = none) →
    Reader.many (child (grammar n) m) k ((markups tabs nodes).toList ++ close) =
      some ((Markup.rereadAll nodes).map .ok, close)

lemma Markup.listReadable_nil : Markup.ListReadable [] := by
  intro n m k tabs close _ _ _ _ hclose
  cases k <;> simp [markups, Reader.many, hclose, Markup.rereadAll]

lemma Markup.head_markup {node : Markup} (h : node.WellFormed) (tabs : Nat) :
    ∃ c cs, (Printer.markup tabs node).toList = c :: cs ∧ (node.isText = false → isTextChar c = false) := by
  cases node with
  | text value =>
    simp only [Markup.WellFormed] at h
    obtain ⟨c, cs, hs⟩ := List.exists_cons_of_ne_nil (l := value.toList) (by simpa using h.1)
    exact ⟨c, cs, by rwa [Printer.markup], by simp [Markup.isText]⟩
  | container value =>
    cases value with
    | none => exact ⟨'{', _, by rw [Printer.markup]; rfl, fun _ => rfl⟩
    | some value =>
      exact ⟨'{', _, by rw [Printer.markup, String.toList_append, String.toList_append]; rfl, fun _ => rfl⟩
  | fragment children =>
    exact ⟨'<', _, by rw [Printer.markup, String.toList_append, String.toList_append]; rfl, fun _ => rfl⟩
  | element name attributes children selfClosing =>
    simp only [Printer.markup]
    split
    · exact ⟨'<', _, by simp only [String.toList_append]; rfl, fun _ => rfl⟩
    · exact ⟨'<', _, by simp only [String.toList_append]; rfl, fun _ => rfl⟩

lemma Markup.listReadable_cons {node : Markup} {nodes : List Markup} (hwf : Markup.AllWellFormed (node :: nodes))
    (hnode : node.Readable) (hnodes : Markup.ListReadable nodes) : Markup.ListReadable (node :: nodes) := by
  intro n m k tabs close hn hm hk hclose hnone
  rw [markups, String.toList_append] at hn hm hk ⊢
  simp only [Markup.AllWellFormed] at hwf
  obtain ⟨c, cs, hs, -⟩ := Markup.head_markup hnode.wellFormed tabs
  have hpos : 0 < (Printer.markup tabs node).toList.length := by simp [hs]
  rw [List.length_append] at hn hm hk
  obtain ⟨k, rfl⟩ : ∃ j, k = j + 1 := ⟨k - 1, by omega⟩
  rw [List.append_assoc]
  refine many_succ (hnode.reads n m tabs _ (by omega) (by omega) fun htext => ?_)
    (hnodes n m k tabs close (by omega) (by omega) (by omega) hclose hnone)
  -- The next child is no text, so it begins with a bracket or a brace.
  cases nodes with
  | nil => simpa [markups] using hclose
  | cons next nodes =>
    obtain ⟨-, hnext, hrest⟩ := hwf
    simp only [Markup.AllWellFormed] at hrest
    obtain ⟨d, ds, hds, hd⟩ := Markup.head_markup hrest.1 tabs
    rw [markups, String.toList_append, hds]
    rintro c ⟨⟩
    exact hd (by simpa using hnext htext next rfl)

end Children

section Elements

variable {n m tabs : Nat} {r cs : List Char}

lemma child_close {c : Char} (h1 : c ≠ '/') (h2 : c ≠ '*') (cs : List Char) (g : Grammar) (m : Nat) :
    child g m ('<' :: '/' :: c :: cs) = none := by
  have hmarkup : g.markup m ('<' :: '/' :: c :: cs) = none := by
    cases m with
    | zero => rfl
    | succ m =>
      have h3 : strip? ['<', '>'] ('<' :: '/' :: c :: cs) = none := rfl
      have h4 : strip? ['<'] ('<' :: '/' :: c :: cs) = some ('/' :: c :: cs) := rfl
      have h5 : tagName ('/' :: c :: cs) = none := by
        rw [tagName, skip_slash h1 h2]
        rfl
      simp [Grammar.markup, h3, h4, h5]
  have htext : Grammar.text ('<' :: '/' :: c :: cs) = none := rfl
  have hcontainer : strip? ['{'] ('<' :: '/' :: c :: cs) = none := rfl
  simp [child, hmarkup, Grammar.container, hcontainer, htext]

lemma breaks_isTextChar_close (cs : List Char) : Breaks isTextChar ('<' :: cs) := by
  rintro c ⟨⟩
  rfl

lemma Markup.readable_fragment {nodes : List Markup} (hwf : Markup.AllWellFormed nodes)
    (h : Markup.ListReadable nodes) : (Markup.fragment nodes).Readable := by
  have htree (n m tabs : Nat) (r : List Char) (hn : (Printer.markup tabs (.fragment nodes)).toList.length ≤ n)
      (hm : (Printer.markup tabs (.fragment nodes)).toList.length ≤ m) :
      (grammar n).markup m ((Printer.markup tabs (.fragment nodes)).toList ++ r) =
        some (.ok (Markup.fragment nodes).reread, r) := by
    have htext : (Printer.markup tabs (.fragment nodes)).toList =
        '<' :: '>' :: ((markups tabs nodes).toList ++ ['<', '/', '>']) := by
      simp [Printer.markup]
    rw [htext] at hn hm ⊢
    simp only [List.length_cons, List.length_append] at hn hm
    obtain ⟨m, rfl⟩ : ∃ k, m = k + 1 := ⟨m - 1, by omega⟩
    have hchildren := h n m (m + 1) tabs ('<' :: '/' :: '>' :: r) (by omega) (by omega) (by omega)
      (breaks_isTextChar_close _) (child_close (by decide) (by decide) r)
    have h1 (cs : List Char) : strip? ['<', '>'] ('<' :: '>' :: cs) = some cs := rfl
    have h2 : strip? ['<', '/', '>'] ('<' :: '/' :: '>' :: r) = some r := rfl
    rw [child_eq] at hchildren
    simp only [List.cons_append, List.append_assoc, List.nil_append, Grammar.markup, h1, hchildren, Option.bind_eq_bind,
      Option.bind_some, Option.pure_def, h2, sequence_map_ok]
    rfl
  exact
    { wellFormed := hwf
      tree := fun _ => htree
      reads := fun n m tabs r hn hm _ => child_of_markup (htree n m tabs r hn hm) }

section Element

variable {g : Grammar} {name : String} {attributes : List MarkupAttribute} {nodes : List Markup}

lemma strip?_tag (h : isTagName name) (cs : List Char) : strip? ['<', '>'] ('<' :: (name.toList ++ cs)) = none := by
  obtain ⟨c, ds, hs, -, -, hc⟩ := isSolid_of_isTagName h
  rw [hs, List.cons_append, strip?, if_pos rfl, strip?, if_neg hc.symm]

lemma markup_complete (hname : isTagName name) (hcs : Breaks isTagChar cs)
    (hattributes : Reader.many g.markupAttribute (m + 1) cs = some (attributes.map .ok, ' ' :: '/' :: '>' :: r)) :
    g.markup (m + 1) ('<' :: (name.toList ++ cs)) = some (.ok (.element (classifyTag name) attributes [] true), r) := by
  have h1 (cs : List Char) : strip? ['<'] ('<' :: cs) = some cs := rfl
  have h2 : tagEnd (' ' :: '/' :: '>' :: r) = some (true, r) := rfl
  simp only [Grammar.markup, strip?_tag hname, h1, tagName_append hname hcs, hattributes, h2, sequence_map_ok,
    Option.bind_eq_bind, Option.bind_some]
  rfl

lemma closingTag_read (hname : isTagName name) (r : List Char) :
    ∃ k, closingTag ('<' :: '/' :: (name.toList ++ '>' :: r)) = some ((name, k), r) := by
  obtain ⟨c, ds, hs, hsolid, hc, -⟩ := isSolid_of_isTagName hname
  have hslash : c ≠ '/' := by
    rintro rfl
    simp [isSolid] at hsolid
  have h1 (cs : List Char) : strip? ['<'] ('<' :: cs) = some cs := rfl
  have h2 : symbol "/" ('/' :: (name.toList ++ '>' :: r)) = some (name.toList ++ '>' :: r) := by
    rw [symbol, hs, List.cons_append, skip_slash hslash hc]
    rfl
  have h3 : skip (name.toList ++ '>' :: r) = name.toList ++ '>' :: r := by
    rw [hs, List.cons_append, skip_cons hsolid]
  have h4 : tagName (name.toList ++ '>' :: r) = some (name, '>' :: r) := by
    refine tagName_append hname ?_
    rintro c ⟨⟩
    rfl
  have h5 : symbol ">" ('>' :: r) = some r := rfl
  exact ⟨_, by simp [closingTag, h1, h2, h3, h4, h5]; rfl⟩

lemma markup_open {body : List Char} (hname : isTagName name) (hcs : Breaks isTagChar cs)
    (hattributes : Reader.many g.markupAttribute (m + 1) cs = some (attributes.map .ok, '>' :: body))
    (hnodes : Reader.many (child g m) (m + 1) body = some (nodes.map .ok, '<' :: '/' :: (name.toList ++ '>' :: r))) :
    g.markup (m + 1) ('<' :: (name.toList ++ cs)) =
      some (.ok (.element (classifyTag name) attributes nodes false), r) := by
  obtain ⟨k, hclosing⟩ := closingTag_read hname r
  have h1 (cs : List Char) : strip? ['<'] ('<' :: cs) = some cs := rfl
  have h2 : tagEnd ('>' :: body) = some (false, body) := rfl
  rw [child_eq] at hnodes
  simp only [Grammar.markup, strip?_tag hname, h1, tagName_append hname hcs, hattributes, h2, hnodes, hclosing,
    sequence_map_ok, Option.bind_eq_bind, Option.bind_some, Option.pure_def, Bool.false_eq_true, if_false, if_true]
  rfl

lemma closesAttributes_complete (r : List Char) : ClosesAttributes (' ' :: '/' :: '>' :: r) where
  breaks := by
    rintro c ⟨⟩
    rfl
  value := rfl
  none _ := rfl

lemma closesAttributes_open (r : List Char) : ClosesAttributes ('>' :: r) where
  breaks := by
    rintro c ⟨⟩
    rfl
  value := rfl
  none _ := rfl

lemma Markup.readable_element {t : Tag} (ht : t.WellFormed) (hawf : MarkupAttribute.AllWellFormed attributes)
    (ha : MarkupAttribute.Readable attributes) (hnwf : Markup.AllWellFormed nodes) (hn : Markup.ListReadable nodes)
    {selfClosing : Bool} (hclosing : selfClosing → nodes = []) :
    (Markup.element t attributes nodes selfClosing).Readable := by
  obtain ⟨name, hname, rfl⟩ := ht
  have htag (tabs : Nat) : (Printer.tag tabs (classifyTag name)).toList = name.toList :=
    toList_tag_classifyTag tabs name
  have htree (n m tabs : Nat) (r : List Char)
      (hlen : (Printer.markup tabs (.element (classifyTag name) attributes nodes selfClosing)).toList.length ≤ n)
      (hm : (Printer.markup tabs (.element (classifyTag name) attributes nodes selfClosing)).toList.length ≤ m) :
      (grammar n).markup m ((Printer.markup tabs (.element (classifyTag name) attributes nodes selfClosing)).toList ++
        r) = some (.ok (Markup.element (classifyTag name) attributes nodes selfClosing).reread, r) := by
    cases selfClosing with
    | true =>
      obtain rfl := hclosing rfl
      have htext : (Printer.markup tabs (.element (classifyTag name) attributes [] true)).toList =
          '<' :: (name.toList ++ ((markupAttributes tabs attributes).toList ++ [' ', '/', '>'])) := by
        simp [Printer.markup, htag]
      rw [htext] at hlen hm ⊢
      simp only [List.length_cons, List.length_append] at hlen hm
      obtain ⟨m, rfl⟩ : ∃ k, m = k + 1 := ⟨m - 1, by omega⟩
      have hclose := closesAttributes_complete r
      simp only [List.cons_append, List.append_assoc, List.nil_append]
      exact markup_complete hname (endsAttribute_attributes hawf tabs hclose.toEndsAttribute).breaks
        (ha n (m + 1) tabs _ (by omega) (by omega) hclose)
    | false =>
      have htext : (Printer.markup tabs (.element (classifyTag name) attributes nodes false)).toList =
          '<' :: (name.toList ++ ((markupAttributes tabs attributes).toList ++ '>' ::
            ((markups tabs nodes).toList ++ '<' :: '/' :: (name.toList ++ ['>'])))) := by
        simp [Printer.markup, htag]
      rw [htext] at hlen hm ⊢
      simp only [List.length_cons, List.length_append] at hlen hm
      obtain ⟨m, rfl⟩ : ∃ k, m = k + 1 := ⟨m - 1, by omega⟩
      simp only [List.cons_append, List.append_assoc, List.nil_append]
      obtain ⟨c, ds, hs, hsolid, hc, -⟩ := isSolid_of_isTagName hname
      have hslash : c ≠ '/' := by
        rintro rfl
        simp [isSolid] at hsolid
      have hclose := closesAttributes_open ((markups tabs nodes).toList ++ '<' :: '/' :: (name.toList ++ '>' :: r))
      refine markup_open hname (endsAttribute_attributes hawf tabs hclose.toEndsAttribute).breaks
        (ha n (m + 1) tabs _ (by omega) (by omega) hclose) ?_
      refine hn n m (m + 1) tabs _ (by omega) (by omega) (by omega) (breaks_isTextChar_close _) ?_
      rw [hs, List.cons_append]
      exact child_close hslash hc _
  exact
    { wellFormed := ⟨⟨name, hname, rfl⟩, hawf, hnwf, hclosing⟩
      tree := fun _ => htree
      reads := fun n m tabs r hn hm _ => child_of_markup (htree n m tabs r hn hm) }

end Element

lemma Expr.readable_markup {node : Markup} (htree : node.isTree) (h : node.Readable) : (Expr.markup node).Readable where
  wellFormed := ⟨htree, h.wellFormed⟩
  reads n tabs hlen := by
    refine reads_primary fun r _ => ?_
    have htext : (Expr.markup node).text tabs = (Printer.markup tabs node).toList := by
      rw [Expr.text, Printer.expression]
    rw [htext] at hlen ⊢
    have hread := h.tree htree n (n + 1) tabs r hlen (by omega)
    obtain ⟨cs, hs⟩ : ∃ cs, (Printer.markup tabs node).toList ++ r = '<' :: cs := by
      refine List.head?_eq_some_iff.1 ?_
      by_contra hhead
      rw [markup_eq_none hhead] at hread
      simp at hread
    rw [hs] at hread ⊢
    exact primary_markup hread

end Elements

end TemplateScript
