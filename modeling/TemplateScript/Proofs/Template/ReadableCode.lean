import TemplateScript.Proofs.Script.ReadPrograms
import TemplateScript.Proofs.Script.RoundTrip
import TemplateScript.Proofs.Template.CompiledCode

/-!
Compiled programs can be written down and read again. The names in tags have a wider shape than other names, and they
become names of the compiled program; apart from those, what was read compiles to what can be read.
-/

namespace TemplateScript

open Lexeme

def Vocabulary.lexical : Vocabulary where
  refers _ name := isIdentifier name
  binds name := isIdentifier name
  tracks _ := false
  member name := isName name
  literal := Literal.WellFormed

lemma isIdentifier_of_isTemporary {name : String} (h : isTemporary name) : isIdentifier name := by
  have hreserved : ∀ word ∈ reserved, word.toList.head? ≠ some '_' := by decide
  unfold isTemporary at h
  split at h
  · next letter digit digits hname =>
    simp only [Bool.and_eq_true] at h
    rw [isIdentifier_iff]
    refine ⟨?_, fun hmem => hreserved name hmem (by rw [hname]; rfl)⟩
    have hdigits : digits.all isNameChar :=
      List.all_eq_true.2 fun d hd => isNameChar_of_isDigit (List.all_eq_true.1 h.2 d hd)
    simp [isName, isWord, hname, isNameStart, hdigits, isNameChar, Char.isAlphanum, h.1.1, h.1.2]
  · cases h

lemma Vocabulary.lexical_suits {c : Config} (h : isIdentifier c.support) : Vocabulary.lexical.Suits c where
  support _ := h
  refers h := isIdentifier_of_isTemporary h.isTemporary
  binds hname := isIdentifier_of_isTemporary hname
  member hname := hname
  string _ := trivial
  bool _ := trivial
  null := trivial
  undefined := trivial

section WellFormed

open Vocabulary (lexical)

mutual

lemma Expr.wellFormed_of_within : (e : Expr) → ∀ scope, e.Within lexical scope → e.WellFormed
  | .identifier _, scope, h => by
    rw [Expr.Within] at h
    rw [Expr.WellFormed]
    exact h
  | .literal _, scope, h => by
    rw [Expr.Within] at h
    rw [Expr.WellFormed]
    exact h
  | .array parts, scope, h => by
    rw [Expr.Within] at h
    rw [Expr.WellFormed]
    exact Item.wellFormed_of_within parts scope h
  | .object parts, scope, h => by
    rw [Expr.Within] at h
    rw [Expr.WellFormed]
    exact Property.wellFormed_of_within parts scope h
  | .member object _, scope, h => by
    rw [Expr.Within] at h
    rw [Expr.WellFormed]
    exact ⟨object.wellFormed_of_within scope h.1, h.2⟩
  | .index object index, scope, h => by
    rw [Expr.Within] at h
    rw [Expr.WellFormed]
    exact ⟨object.wellFormed_of_within scope h.1, index.wellFormed_of_within scope h.2⟩
  | .call callee arguments, scope, h => by
    rw [Expr.Within] at h
    rw [Expr.WellFormed]
    exact ⟨callee.wellFormed_of_within scope h.1, Item.wellFormed_of_within arguments scope h.2⟩
  | .not operand, scope, h => by
    rw [Expr.Within] at h
    rw [Expr.WellFormed]
    exact operand.wellFormed_of_within scope h
  | .binary _ left right, scope, h => by
    rw [Expr.Within] at h
    rw [Expr.WellFormed]
    exact ⟨left.wellFormed_of_within scope h.1, right.wellFormed_of_within scope h.2⟩
  | .conditional test consequent alternate, scope, h => by
    rw [Expr.Within] at h
    rw [Expr.WellFormed]
    exact ⟨test.wellFormed_of_within scope h.1, consequent.wellFormed_of_within scope h.2.1,
      alternate.wellFormed_of_within scope h.2.2⟩
  | .arrow _ body, scope, h => by
    rw [Expr.Within] at h
    rw [Expr.WellFormed]
    exact ⟨h.1, body.wellFormed_of_within _ h.2⟩
  | .markup _, scope, h => by
    rw [Expr.Within] at h
    exact h.elim

lemma Item.wellFormed_of_within : (parts : List Item) → ∀ scope, Item.AllWithin lexical scope parts →
    Item.AllWellFormed parts
  | [], scope, _ => by simp [Item.AllWellFormed]
  | .single value :: parts, scope, h => by
    rw [Item.AllWithin] at h
    rw [Item.AllWellFormed]
    exact ⟨value.wellFormed_of_within scope h.1, Item.wellFormed_of_within parts scope h.2⟩
  | .spread source :: parts, scope, h => by
    rw [Item.AllWithin] at h
    rw [Item.AllWellFormed]
    exact ⟨source.wellFormed_of_within scope h.1, Item.wellFormed_of_within parts scope h.2⟩

lemma Property.wellFormed_of_within : (parts : List Property) → ∀ scope, Property.AllWithin lexical scope parts →
    Property.AllWellFormed parts
  | [], scope, _ => by simp [Property.AllWellFormed]
  | .keyed _ value :: parts, scope, h => by
    rw [Property.AllWithin] at h
    rw [Property.AllWellFormed]
    exact ⟨value.wellFormed_of_within scope h.1, Property.wellFormed_of_within parts scope h.2⟩
  | .spread source :: parts, scope, h => by
    rw [Property.AllWithin] at h
    rw [Property.AllWellFormed]
    exact ⟨source.wellFormed_of_within scope h.1, Property.wellFormed_of_within parts scope h.2⟩

lemma Body.wellFormed_of_within : (body : Body) → ∀ scope, body.Within lexical scope → body.WellFormed
  | .expression value, scope, h => by
    rw [Body.Within] at h
    rw [Body.WellFormed]
    exact value.wellFormed_of_within scope h
  | .block ss, scope, h => by
    rw [Body.Within] at h
    rw [Body.WellFormed]
    exact Stmt.allWellFormed_of_within ss _ h

lemma Stmt.wellFormed_of_within : (s : Stmt) → ∀ scope, s.Within lexical scope → s.WellFormed
  | .importModule _ _, scope, h => by
    rw [Stmt.Within] at h
    rw [Stmt.WellFormed]
    exact h
  | .declare _ _ value, scope, h => by
    rw [Stmt.Within] at h
    rw [Stmt.WellFormed]
    exact ⟨h.1, value.wellFormed_of_within scope h.2⟩
  | .expression value, scope, h => by
    rw [Stmt.Within] at h
    rw [Stmt.WellFormed]
    exact value.wellFormed_of_within scope h
  | .branch test consequent none, scope, h => by
    rw [Stmt.Within] at h
    rw [Stmt.WellFormed]
    exact ⟨test.wellFormed_of_within scope h.1, consequent.wellFormed_of_within scope h.2⟩
  | .branch test consequent (some alternate), scope, h => by
    rw [Stmt.Within] at h
    rw [Stmt.WellFormed]
    exact ⟨test.wellFormed_of_within scope h.1, consequent.wellFormed_of_within scope h.2.1,
      alternate.wellFormed_of_within scope h.2.2⟩
  | .block ss, scope, h => by
    rw [Stmt.Within] at h
    rw [Stmt.WellFormed]
    exact Stmt.allWellFormed_of_within ss _ h
  | .forOf _ source body, scope, h => by
    rw [Stmt.Within] at h
    rw [Stmt.WellFormed]
    exact ⟨h.1, source.wellFormed_of_within scope h.2.1, body.wellFormed_of_within _ h.2.2⟩
  | .leave none, scope, _ => by simp [Stmt.WellFormed]
  | .leave (some value), scope, h => by
    rw [Stmt.Within] at h
    rw [Stmt.WellFormed]
    exact value.wellFormed_of_within scope h

lemma Stmt.allWellFormed_of_within : (ss : List Stmt) → ∀ scope, Stmt.AllWithin lexical scope ss → Stmt.AllWellFormed ss
  | [], scope, _ => by simp [Stmt.AllWellFormed]
  | s :: ss, scope, h => by
    rw [Stmt.AllWithin] at h
    rw [Stmt.AllWellFormed]
    exact ⟨s.wellFormed_of_within scope h.1, Stmt.allWellFormed_of_within ss scope h.2⟩

end

end WellFormed

def Number.isFinite : Number → Bool
  | .finite .. => true
  | _ => false

def Tag.IsRead (tag : Tag) : Prop := ∀ x ∈ tag.subterms, x.IsRead

lemma Subterm.IsRead.allows {x : Subterm} (h : x.IsRead) (hfinite : ∀ n, x = .expression (.literal (.number n)) → n.isFinite)
    (scope : List String) : Vocabulary.lexical.Allows scope x := by
  unfold Vocabulary.Allows
  split
  · exact h
  · next value =>
    cases value with
    | finite units exact => exact h
    | _ => exact absurd (hfinite _ rfl) (by simp [Number.isFinite])
  · exact h
  · exact fun name hname => ⟨h name hname, rfl⟩
  · exact h
  · exact ⟨h, rfl⟩
  · exact ⟨h, rfl⟩
  · trivial

lemma Vocabulary.lexical_allows {x : Subterm} {outer : List String} (h : Vocabulary.lexical.Allows outer x)
    (inner : List String) : Vocabulary.lexical.Allows inner x := by
  unfold Vocabulary.Allows at *
  split at h <;> exact h

/-- If the numbers of a program that was read are finite and the names in its tags are names of the language, then the text
of the compiled program is read as the compiled program. -/
theorem Program.parse_print_compile {source : String} {p q : Program} {c : Config} (hparse : Program.parse source = .ok p)
    (hfinite : ∀ n, Subterm.expression (.literal (.number n)) ∈ p.subterms → n.isFinite)
    (htags : ∀ tag attributes children closed,
      Subterm.markup (.element tag attributes children closed) ∈ p.subterms → tag.IsRead)
    (hsupport : isIdentifier c.support) (hcompile : p.compile c = .ok q) : Program.parse q.print = .ok q.reread := by
  have hread : ∀ x ∈ p.subterms, x.IsRead := by
    intro x hx
    rcases Program.asRead_of_parse hparse x hx with h | ⟨tag, attributes, children, closed, -, helement, h⟩
    · exact h
    · exact htags tag attributes children closed helement x h
  have hallows : ∀ x ∈ p.subterms, ∀ scope, Vocabulary.lexical.Allows scope x :=
    fun x hx => (hread x hx).allows fun n hn => hfinite n (hn ▸ hx)
  have hadmits : Vocabulary.lexical.Admits c [] p.subterms :=
    ⟨fun x hx => hallows x hx [], fun _ _ _ _ _ _ _ outer inner _ x _ h => Vocabulary.lexical_allows h inner⟩
  have hwithin : q.Within Vocabulary.lexical :=
    Program.compile_within (Vocabulary.lexical_suits hsupport) hsupport hadmits hcompile
  exact Program.parse_eq (Stmt.allWellFormed_of_within q _ hwithin)

def pathProgram : Program :=
  [.expression (.call (.identifier "f") [.single (.markup (.element (.computed (.member (.identifier "a") "if"))
    [.named "x" (some (.literal (.number (.ofDecimal false 12 0))))] [.text "y"] false))])]

theorem Program.parse_print_compile_path :
    Program.parse "f(<$a.if x=\x7b12\x7d>y</$a.if>);" = .ok pathProgram ∧
      ∃ q, pathProgram.compile {} = .ok q ∧ Program.parse q.print = .ok q.reread := by
  have hparse : Program.parse "f(<$a.if x=\x7b12\x7d>y</$a.if>);" = .ok pathProgram := rfl
  obtain ⟨q, hq⟩ : ∃ q, pathProgram.compile {} = .ok q := ⟨_, rfl⟩
  refine ⟨hparse, q, hq, Program.parse_print_compile hparse ?_ ?_ (by decide) hq⟩
  · intro n hn
    simp [pathProgram] at hn
    rw [hn]
    decide +kernel
  · intro tag attributes children closed h
    simp [pathProgram] at h
    obtain ⟨rfl, -⟩ := h
    intro x hx
    simp only [Tag.subterms, Expr.subterms, List.mem_cons, List.not_mem_nil, or_false] at hx
    rcases hx with rfl | rfl
    · change isName "if"
      decide
    · change isIdentifier "a"
      decide

def dashedProgram : Program :=
  [.declare .constant "a" (.arrow [] (.expression (.markup (.element (.computed (.identifier "my-tag")) [] [] true))))]

def dashedCode : Program :=
  [.declare .constant "a" (.arrow [] (.expression (.call (.member (.call (.member (.identifier "_h") "raw") []) "element")
    [.single (.identifier "my-tag"), .single (.object [])])))]

/-- A tag name with a dash becomes an identifier with a dash. -/
theorem Program.print_compile_malformed : Program.parse "const a = () => <$my-tag />;" = .ok dashedProgram ∧
    dashedProgram.compile { mode := .direct } = .ok dashedCode ∧ Program.parse dashedCode.print = .error .malformed := by
  have hprint : dashedCode.print = "const a = () => _h.raw().element(my-tag, \x7b\x7d);\n" := by decide +kernel
  refine ⟨rfl, rfl, ?_⟩
  rw [hprint]
  rfl

end TemplateScript
