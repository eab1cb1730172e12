import TemplateScript.Proofs.Script.PrintedMarkup
import TemplateScript.Proofs.Script.PrintedStatements

namespace TemplateScript

open Lexeme Printer TemplateScript.Parser

lemma Stmt.Readable.parts {s : Stmt} (h : s.Readable) (hs : s.parts = [s]) :
    s.Readable ∧ Stmt.ListReadable s.parts := by
  rw [hs]
  exact ⟨h, Stmt.listReadable_cons h Stmt.listReadable_nil⟩

mutual

lemma Expr.readable : (e : Expr) → e.WellFormed → e.Readable
  | .identifier _, h => Expr.readable_identifier h
  | .literal _, h => Expr.readable_literal h
  | .array parts, h => Expr.readable_array h (Item.readable parts h)
  | .object parts, h => Expr.readable_object h (Property.readable parts h)
  | .member base _, h => Expr.readable_member (Expr.readable base h.1) h.2
  | .index base index, h => Expr.readable_index (Expr.readable base h.1) (Expr.readable index h.2)
  | .call callee arguments, h => Expr.readable_call (Expr.readable callee h.1) h.2 (Item.readable arguments h.2)
  | .not operand, h => Expr.readable_not (Expr.readable operand h)
  | .binary op left right, h => Expr.readable_binary op (Expr.readable left h.1) (Expr.readable right h.2)
  | .conditional test consequent alternate, h =>
    Expr.readable_conditional (Expr.readable test h.1) (Expr.readable consequent h.2.1)
      (Expr.readable alternate h.2.2)
  | .arrow _ body, h => Expr.readable_arrow h.1 (Body.readable body h.2)
  | .markup node, h => Expr.readable_markup h.1 (Markup.readable node h.2)

lemma Item.readable : (parts : List Item) → Item.AllWellFormed parts → Item.Readable parts
  | [], _ => Item.readable_nil
  | .single value :: parts, h => Item.readable_single (Expr.readable value h.1) (Item.readable parts h.2)
  | .spread source :: parts, h => Item.readable_spread (Expr.readable source h.1) (Item.readable parts h.2)

lemma Property.readable : (parts : List Property) → Property.AllWellFormed parts → Property.Readable parts
  | [], _ => Property.readable_nil
  | .keyed _ value :: parts, h => Property.readable_keyed (Expr.readable value h.1) (Property.readable parts h.2)
  | .spread source :: parts, h => Property.readable_spread (Expr.readable source h.1) (Property.readable parts h.2)

lemma Body.readable : (body : Body) → body.WellFormed → body.Readable
  | .expression value, h => Body.readable_expression (Expr.readable value h)
  | .block ss, h => Body.readable_block h (Stmt.listReadable ss h)

lemma Stmt.readable : (s : Stmt) → s.WellFormed → s.Readable ∧ Stmt.ListReadable s.parts
  | .importModule _ path, h => (Stmt.readable_importModule h path).parts rfl
  | .declare kind _ value, h => (Stmt.readable_declare kind h.1 (Expr.readable value h.2)).parts rfl
  | .expression value, h => (Stmt.readable_expression (Expr.readable value h)).parts rfl
  | .branch test consequent none, h =>
    (Stmt.readable_if (Expr.readable test h.1) h.2 (Stmt.readable consequent h.2).2).parts rfl
  | .branch test consequent (some alternate), h => by
    simp only [Stmt.WellFormed] at h
    obtain ⟨halternate, hparts⟩ := Stmt.readable alternate h.2.2
    exact (Stmt.readable_ifElse (Expr.readable test h.1) h.2.1 (Stmt.readable consequent h.2.1).2 h.2.2
      (Stmt.readable_asAlternate halternate hparts)).parts rfl
  | .block ss, h => by
    simp only [Stmt.WellFormed] at h
    have hss := Stmt.listReadable ss h
    exact ⟨Stmt.readable_block h hss, hss⟩
  | .forOf _ source body, h =>
    (Stmt.readable_forOf h.1 (Expr.readable source h.2.1) h.2.2 (Stmt.readable body h.2.2).2).parts rfl
  | .leave none, _ => Stmt.readable_return.parts rfl
  | .leave (some value), h => (Stmt.readable_leave (Expr.readable value h)).parts rfl

lemma Stmt.listReadable : (ss : List Stmt) → Stmt.AllWellFormed ss → Stmt.ListReadable ss
  | [], _ => Stmt.listReadable_nil
  | s :: ss, h => Stmt.listReadable_cons (Stmt.readable s h.1).1 (Stmt.listReadable ss h.2)

lemma Markup.readable : (node : Markup) → node.WellFormed → node.Readable
  | .element _ attributes children _, h => by
    simp only [Markup.WellFormed] at h
    obtain ⟨htag, hattributes, hchildren, hclosing⟩ := h
    exact Markup.readable_element htag hattributes (MarkupAttribute.readable attributes hattributes) hchildren
      (Markup.listReadable children hchildren) hclosing
  | .text _, h => Markup.readable_text h
  | .container none, _ => Markup.readable_braces
  | .container (some value), h => Markup.readable_container (Expr.readable value h)
  | .fragment children, h => Markup.readable_fragment h (Markup.listReadable children h)

lemma Markup.listReadable : (nodes : List Markup) → Markup.AllWellFormed nodes → Markup.ListReadable nodes
  | [], _ => Markup.listReadable_nil
  | node :: nodes, h => by
    have h' := h
    simp only [Markup.AllWellFormed] at h'
    exact Markup.listReadable_cons h (Markup.readable node h'.1) (Markup.listReadable nodes h'.2.2)

lemma MarkupAttribute.readable : (parts : List MarkupAttribute) → MarkupAttribute.AllWellFormed parts →
    MarkupAttribute.Readable parts
  | [], _ => MarkupAttribute.readable_nil
  | .named _ none :: parts, h => MarkupAttribute.readable_name h.1 h.2 (MarkupAttribute.readable parts h.2)
  | .named _ (some value) :: parts, h =>
    MarkupAttribute.readable_named h.1 (Expr.readable value h.2.1) (MarkupAttribute.readable parts h.2.2)
  | .spread source :: parts, h =>
    MarkupAttribute.readable_spread (Expr.readable source h.1) (MarkupAttribute.readable parts h.2)

end

lemma readAll_eq_ok {α : Type} {p : Nat → Reader (Checked α)} {source : String} {value : α} {blanks : List Char}
    (hblanks : ∀ c ∈ blanks, c = ' ' ∨ c = '\n')
    (h : p (depth source.toList) source.toList = some (.ok value, blanks)) : readAll p source = .ok value := by
  have hskip : skip blanks = [] := by simpa [skip] using (blind_skip id).append hblanks []
  simp only [readAll, h, hskip]
  rfl

lemma Expr.parse_eq {e : Expr} (h : e.WellFormed) : Expr.parse e.print = .ok e.reread := by
  have hread := (Expr.readable e h).expression 0 (n := depth e.print.toList) (r := []) ?_ free_nil
  · rw [List.append_nil] at hread
    exact readAll_eq_ok (by simp) hread
  · change e.print.toList.length < 2 * e.print.toList.length + 2
    omega

lemma Program.toList_print (p : Program) :
    p.print.toList = unlines (statements 0 p) ∨ p.print.toList = '\n' :: unlines (statements 0 p) := by
  cases p with
  | nil => exact .inr (by simp [Program.print, statements, joinWith, unlines])
  | cons s ss =>
    have hne : statements 0 (s :: ss) ≠ [] := by
      rw [statements]
      simp [statement_ne_nil]
    refine .inl ?_
    rw [← joinWith_newline hne, Program.print, String.toList_append]
    rfl

lemma Program.many_statement {p : Program} (h : p.WellFormed) {n : Nat} (hn : p.print.toList.length ≤ n) :
    ∃ blanks, (∀ c ∈ blanks, c = ' ' ∨ c = '\n') ∧
      Reader.many (grammar n).statement n p.print.toList = some (p.reread.map (some <| .ok ·), blanks) := by
  have hread (hlen : (unlines (statements 0 p)).length ≤ n) :=
    (Stmt.listReadable p h).reads n n 0 [] hlen hlen closesBlock_nil
  simp only [List.append_nil] at hread
  rcases p.toList_print with htext | htext
  · rw [htext] at hn ⊢
    exact hread hn
  · rw [htext] at hn ⊢
    obtain ⟨blanks, hblanks, hlines⟩ := hread (Nat.le_of_succ_le hn)
    obtain ⟨more, hmore, hline⟩ := Reader.many_newline (blind_statement n) hlines
    exact ⟨more ++ blanks, fun c hc => (List.mem_append.1 hc).elim (hmore c) (hblanks c), hline⟩

lemma Program.parse_eq {p : Program} (h : p.WellFormed) : Program.parse p.print = .ok p.reread := by
  have hdepth : p.print.toList.length ≤ depth p.print.toList := by
    rw [depth]
    omega
  obtain ⟨blanks, hblanks, hread⟩ := Program.many_statement h hdepth
  refine readAll_eq_ok hblanks ?_
  simp only [hread, Option.map_some]
  rw [show (p.reread.map fun s => some (Except.ok s : Checked Stmt)) = (p.reread.map Except.ok).map some by simp,
    filterMap_map_some, sequence_map_ok]

/-- Printing and reading are inverse, on programs and on expressions. -/
theorem parse_print :
    (∀ p : Program, p.WellFormed → Program.parse p.print = .ok p.reread ∧ p.reread.print = p.print) ∧
    ∀ e : Expr, e.WellFormed → Expr.parse e.print = .ok e.reread ∧ e.reread.print = e.print := by
  refine ⟨fun p h => ⟨Program.parse_eq h, ?_⟩, fun e h => ⟨Expr.parse_eq h, e.print_reread 0 0⟩⟩
  rw [Program.print, Program.print, Stmt.print_rereadAll]

def nestedProgram : Program :=
  [.branch (.not (.binary .and (.identifier "a") (.identifier "b"))) (.expression (.object []))
      (some (.branch (.identifier "c") (.leave (some (.arrow ["x"] (.expression (.object []))))) (some (.leave none)))),
    .expression (.markup (.element (.component (.member (.identifier "Card") "Body"))
      [.named "kind" (some (.string "q\"\n"))]
      [.text "t ", .container (some (.call (.arrow [] (.block [])) [])), .fragment []] false))]

theorem parse_print_nested : nestedProgram.WellFormed ∧
    nestedProgram.print = "if (!(a && b)) \x7b\n  (\x7b\x7d);\n\x7d else if (c) \x7b\n  return (x) => (\x7b\x7d);\n\x7d else " ++
      "\x7b\n  return;\n\x7d\n<Card.Body kind=\"q\\\"\\n\">t \x7b(() => \x7b\x7d)()\x7d<></></Card.Body>;\n" ∧
    Program.parse nestedProgram.print = .ok nestedProgram.reread ∧
    nestedProgram.reread.print = nestedProgram.print := by
  have h : nestedProgram.WellFormed := by
    have htag : Tag.WellFormed (.component (.member (.identifier "Card") "Body")) := ⟨"Card.Body", rfl, rfl⟩
    simp only [nestedProgram, Program.WellFormed, Stmt.AllWellFormed, Stmt.WellFormed, Expr.WellFormed, Expr.string,
      Item.AllWellFormed, Property.AllWellFormed, Body.WellFormed, Markup.WellFormed, Markup.AllWellFormed,
      MarkupAttribute.AllWellFormed, Literal.WellFormed, htag, true_and, and_true]
    have hnames : isIdentifier "a" ∧ isIdentifier "b" ∧ isIdentifier "c" ∧ isIdentifier "x" ∧ isAttributeName "kind" := by
      decide
    simp [hnames, Markup.isTree, Markup.isText]
  exact ⟨h, by decide +kernel, parse_print.1 _ h⟩

end TemplateScript
