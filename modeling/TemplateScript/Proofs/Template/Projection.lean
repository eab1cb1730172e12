import TemplateScript.Proofs.Template.CompiledCode

namespace TemplateScript

namespace Subterm

def isMarkup : Subterm → Bool
  | .expression (.markup _) => true
  | _ => false

def isSourced : Subterm → Bool
  | .expression (.literal (.string _ (some _))) => true
  | _ => false

end Subterm

section Plain

mutual

lemma Expr.isPlain_eq_all : (e : Expr) → e.isPlain (fun _ => true) = e.subterms.all fun x => !x.isMarkup
  | .identifier _ => rfl
  | .literal _ => rfl
  | .array parts => by simp [Expr.isPlain, Subterm.isMarkup, Item.arePlain_eq_all parts]
  | .object parts => by simp [Expr.isPlain, Subterm.isMarkup, Property.arePlain_eq_all parts]
  | .member object _ => by simp [Expr.isPlain, Subterm.isMarkup, Expr.isPlain_eq_all object]
  | .index object index => by
    simp [Expr.isPlain, Subterm.isMarkup, Expr.isPlain_eq_all object, Expr.isPlain_eq_all index]
  | .call callee arguments => by
    simp [Expr.isPlain, Subterm.isMarkup, Expr.isPlain_eq_all callee, Item.arePlain_eq_all arguments]
  | .not operand => by simp [Expr.isPlain, Subterm.isMarkup, Expr.isPlain_eq_all operand]
  | .binary _ left right => by
    simp [Expr.isPlain, Subterm.isMarkup, Expr.isPlain_eq_all left, Expr.isPlain_eq_all right]
  | .conditional test consequent alternate => by
    simp [Expr.isPlain, Subterm.isMarkup, Expr.isPlain_eq_all test, Expr.isPlain_eq_all consequent,
      Expr.isPlain_eq_all alternate, Bool.and_assoc]
  | .arrow _ body => by simp [Expr.isPlain, Subterm.isMarkup, Body.isPlain_eq_all body]
  | .markup _ => by simp [Expr.isPlain, Subterm.isMarkup]

lemma Item.arePlain_eq_all : (parts : List Item) →
    Item.arePlain (fun _ => true) parts = (Item.subterms parts).all fun x => !x.isMarkup
  | [] => rfl
  | .single value :: parts => by simp [Item.arePlain, Expr.isPlain_eq_all value, Item.arePlain_eq_all parts]
  | .spread source :: parts => by simp [Item.arePlain, Expr.isPlain_eq_all source, Item.arePlain_eq_all parts]

lemma Property.arePlain_eq_all : (parts : List Property) →
    Property.arePlain (fun _ => true) parts = (Property.subterms parts).all fun x => !x.isMarkup
  | [] => rfl
  | .keyed _ value :: parts => by simp [Property.arePlain, Expr.isPlain_eq_all value, Property.arePlain_eq_all parts]
  | .spread source :: parts => by
    simp [Property.arePlain, Expr.isPlain_eq_all source, Property.arePlain_eq_all parts]

lemma Body.isPlain_eq_all : (body : Body) → body.isPlain (fun _ => true) = body.subterms.all fun x => !x.isMarkup
  | .expression value => by simp [Body.isPlain, Expr.isPlain_eq_all value]
  | .block ss => by simp [Body.isPlain, Stmt.arePlain_eq_all ss]

lemma Stmt.isPlain_eq_all : (s : Stmt) → s.isPlain (fun _ => true) = s.subterms.all fun x => !x.isMarkup
  | .importModule _ _ => rfl
  | .declare _ _ value => by simp [Stmt.isPlain, Subterm.isMarkup, Expr.isPlain_eq_all value]
  | .expression value => by simp [Stmt.isPlain, Subterm.isMarkup, Expr.isPlain_eq_all value]
  | .branch test consequent none => by
    simp [Stmt.isPlain, Subterm.isMarkup, Expr.isPlain_eq_all test, Stmt.isPlain_eq_all consequent]
  | .branch test consequent (some alternate) => by
    simp [Stmt.isPlain, Subterm.isMarkup, Expr.isPlain_eq_all test, Stmt.isPlain_eq_all consequent,
      Stmt.isPlain_eq_all alternate, Bool.and_assoc]
  | .block ss => by simp [Stmt.isPlain, Subterm.isMarkup, Stmt.arePlain_eq_all ss]
  | .forOf _ source body => by
    simp [Stmt.isPlain, Subterm.isMarkup, Expr.isPlain_eq_all source, Stmt.isPlain_eq_all body]
  | .leave none => rfl
  | .leave (some value) => by simp [Stmt.isPlain, Subterm.isMarkup, Expr.isPlain_eq_all value]

lemma Stmt.arePlain_eq_all : (ss : List Stmt) →
    Stmt.arePlain (fun _ => true) ss = (Stmt.allSubterms ss).all fun x => !x.isMarkup
  | [] => rfl
  | s :: ss => by simp [Stmt.arePlain, Stmt.isPlain_eq_all s, Stmt.arePlain_eq_all ss]

end

end Plain

section Unsourced

mutual

lemma Expr.unsourced_eq : (e : Expr) → (∀ x ∈ e.subterms, x.isSourced = false) → e.unsourced = e
  | .identifier _, _ => rfl
  | .literal (.string _ (some _)), h => absurd (h _ List.mem_cons_self) (by simp [Subterm.isSourced])
  | .literal (.string _ none), _ | .literal (.number _), _ | .literal (.bool _), _ | .literal .null, _
  | .literal .undefined, _ => rfl
  | .array parts, h => by
    rw [Expr.subterms, List.forall_mem_cons] at h
    rw [Expr.unsourced, Item.unsourcedAll_eq parts h.2]
  | .object parts, h => by
    rw [Expr.subterms, List.forall_mem_cons] at h
    rw [Expr.unsourced, Property.unsourcedAll_eq parts h.2]
  | .member object _, h => by
    rw [Expr.subterms, List.forall_mem_cons] at h
    rw [Expr.unsourced, Expr.unsourced_eq object h.2]
  | .index object index, h => by
    rw [Expr.subterms, List.forall_mem_cons, List.forall_mem_append] at h
    rw [Expr.unsourced, Expr.unsourced_eq object h.2.1, Expr.unsourced_eq index h.2.2]
  | .call callee arguments, h => by
    rw [Expr.subterms, List.forall_mem_cons, List.forall_mem_append] at h
    rw [Expr.unsourced, Expr.unsourced_eq callee h.2.1, Item.unsourcedAll_eq arguments h.2.2]
  | .not operand, h => by
    rw [Expr.subterms, List.forall_mem_cons] at h
    rw [Expr.unsourced, Expr.unsourced_eq operand h.2]
  | .binary _ left right, h => by
    rw [Expr.subterms, List.forall_mem_cons, List.forall_mem_append] at h
    rw [Expr.unsourced, Expr.unsourced_eq left h.2.1, Expr.unsourced_eq right h.2.2]
  | .conditional test consequent alternate, h => by
    rw [Expr.subterms, List.forall_mem_cons, List.forall_mem_append, List.forall_mem_append] at h
    rw [Expr.unsourced, Expr.unsourced_eq test h.2.1, Expr.unsourced_eq consequent h.2.2.1,
      Expr.unsourced_eq alternate h.2.2.2]
  | .arrow _ body, h => by
    rw [Expr.subterms, List.forall_mem_cons] at h
    rw [Expr.unsourced, Body.unsourced_eq body h.2]
  | .markup node, h => by
    rw [Expr.subterms, List.forall_mem_cons] at h
    rw [Expr.unsourced, Markup.unsourced_eq node h.2]

lemma Item.unsourcedAll_eq : (parts : List Item) → (∀ x ∈ Item.subterms parts, x.isSourced = false) →
    Item.unsourcedAll parts = parts
  | [], _ => rfl
  | .single value :: parts, h => by
    rw [Item.subterms, List.forall_mem_append] at h
    rw [Item.unsourcedAll, Expr.unsourced_eq value h.1, Item.unsourcedAll_eq parts h.2]
  | .spread source :: parts, h => by
    rw [Item.subterms, List.forall_mem_append] at h
    rw [Item.unsourcedAll, Expr.unsourced_eq source h.1, Item.unsourcedAll_eq parts h.2]

lemma Property.unsourcedAll_eq : (parts : List Property) → (∀ x ∈ Property.subterms parts, x.isSourced = false) →
    Property.unsourcedAll parts = parts
  | [], _ => rfl
  | .keyed _ value :: parts, h => by
    rw [Property.subterms, List.forall_mem_append] at h
    rw [Property.unsourcedAll, Expr.unsourced_eq value h.1, Property.unsourcedAll_eq parts h.2]
  | .spread source :: parts, h => by
    rw [Property.subterms, List.forall_mem_append] at h
    rw [Property.unsourcedAll, Expr.unsourced_eq source h.1, Property.unsourcedAll_eq parts h.2]

lemma Body.unsourced_eq : (body : Body) → (∀ x ∈ body.subterms, x.isSourced = false) → body.unsourced = body
  | .expression value, h => by
    rw [Body.subterms] at h
    rw [Body.unsourced, Expr.unsourced_eq value h]
  | .block ss, h => by
    rw [Body.subterms] at h
    rw [Body.unsourced, Stmt.unsourcedAll_eq ss h]

lemma Stmt.unsourced_eq : (s : Stmt) → (∀ x ∈ s.subterms, x.isSourced = false) → s.unsourced = s
  | .importModule _ _, _ => rfl
  | .declare _ _ value, h => by
    rw [Stmt.subterms, List.forall_mem_cons] at h
    rw [Stmt.unsourced, Expr.unsourced_eq value h.2]
  | .expression value, h => by
    rw [Stmt.subterms, List.forall_mem_cons] at h
    rw [Stmt.unsourced, Expr.unsourced_eq value h.2]
  | .branch test consequent none, h => by
    rw [Stmt.subterms, List.forall_mem_cons, List.forall_mem_append] at h
    rw [Stmt.unsourced, Expr.unsourced_eq test h.2.1, Stmt.unsourced_eq consequent h.2.2]
  | .branch test consequent (some alternate), h => by
    rw [Stmt.subterms, List.forall_mem_cons, List.forall_mem_append, List.forall_mem_append] at h
    rw [Stmt.unsourced, Expr.unsourced_eq test h.2.1, Stmt.unsourced_eq consequent h.2.2.1,
      Stmt.unsourced_eq alternate h.2.2.2]
  | .block ss, h => by
    rw [Stmt.subterms, List.forall_mem_cons] at h
    rw [Stmt.unsourced, Stmt.unsourcedAll_eq ss h.2]
  | .forOf _ source body, h => by
    rw [Stmt.subterms, List.forall_mem_cons, List.forall_mem_append] at h
    rw [Stmt.unsourced, Expr.unsourced_eq source h.2.1, Stmt.unsourced_eq body h.2.2]
  | .leave none, _ => rfl
  | .leave (some value), h => by
    rw [Stmt.subterms, List.forall_mem_cons] at h
    rw [Stmt.unsourced, Expr.unsourced_eq value h.2]

lemma Stmt.unsourcedAll_eq : (ss : List Stmt) → (∀ x ∈ Stmt.allSubterms ss, x.isSourced = false) →
    Stmt.unsourcedAll ss = ss
  | [], _ => rfl
  | s :: ss, h => by
    rw [Stmt.allSubterms, List.forall_mem_append] at h
    rw [Stmt.unsourcedAll, Stmt.unsourced_eq s h.1, Stmt.unsourcedAll_eq ss h.2]

lemma Markup.unsourced_eq : (node : Markup) → (∀ x ∈ node.subterms, x.isSourced = false) → node.unsourced = node
  | .element (.static _) attributes children _, h => by
    rw [Markup.subterms, List.forall_mem_cons, List.forall_mem_append, List.forall_mem_append] at h
    rw [Markup.unsourced, MarkupAttribute.unsourcedAll_eq attributes h.2.2.1, Markup.unsourcedAll_eq children h.2.2.2]
  | .element (.computed name) attributes children _, h => by
    rw [Markup.subterms, List.forall_mem_cons, List.forall_mem_append, List.forall_mem_append, Tag.subterms] at h
    rw [Markup.unsourced, Expr.unsourced_eq name h.2.1, MarkupAttribute.unsourcedAll_eq attributes h.2.2.1,
      Markup.unsourcedAll_eq children h.2.2.2]
  | .element (.component callee) attributes children _, h => by
    rw [Markup.subterms, List.forall_mem_cons, List.forall_mem_append, List.forall_mem_append, Tag.subterms] at h
    rw [Markup.unsourced, Expr.unsourced_eq callee h.2.1, MarkupAttribute.unsourcedAll_eq attributes h.2.2.1,
      Markup.unsourcedAll_eq children h.2.2.2]
  | .text _, _ => rfl
  | .container none, _ => rfl
  | .container (some value), h => by
    rw [Markup.subterms, List.forall_mem_cons] at h
    rw [Markup.unsourced, Expr.unsourced_eq value h.2]
  | .fragment children, h => by
    rw [Markup.subterms, List.forall_mem_cons] at h
    rw [Markup.unsourced, Markup.unsourcedAll_eq children h.2]

lemma Markup.unsourcedAll_eq : (nodes : List Markup) → (∀ x ∈ Markup.allSubterms nodes, x.isSourced = false) →
    Markup.unsourcedAll nodes = nodes
  | [], _ => rfl
  | node :: nodes, h => by
    rw [Markup.allSubterms, List.forall_mem_append] at h
    rw [Markup.unsourcedAll, Markup.unsourced_eq node h.1, Markup.unsourcedAll_eq nodes h.2]

lemma MarkupAttribute.unsourcedAll_eq : (attributes : List MarkupAttribute) →
    (∀ x ∈ MarkupAttribute.subterms attributes, x.isSourced = false) →
    MarkupAttribute.unsourcedAll attributes = attributes
  | [], _ => rfl
  | .named _ none :: attributes, h => by
    rw [MarkupAttribute.subterms] at h
    rw [MarkupAttribute.unsourcedAll, MarkupAttribute.unsourcedAll_eq attributes h]
  | .named _ (some value) :: attributes, h => by
    rw [MarkupAttribute.subterms, List.forall_mem_append] at h
    rw [MarkupAttribute.unsourcedAll, Expr.unsourced_eq value h.1, MarkupAttribute.unsourcedAll_eq attributes h.2]
  | .spread source :: attributes, h => by
    rw [MarkupAttribute.subterms, List.forall_mem_append] at h
    rw [MarkupAttribute.unsourcedAll, Expr.unsourced_eq source h.1, MarkupAttribute.unsourcedAll_eq attributes h.2]

end

end Unsourced

def Vocabulary.Uses (V : Vocabulary) : Subterm → Prop
  | .expression (.literal value) => V.literal value
  | .expression (.markup _) => False
  | _ => True

section Uses

variable {V : Vocabulary}

mutual

lemma Expr.uses_of_within : (e : Expr) → ∀ scope, e.Within V scope → ∀ x ∈ e.subterms, V.Uses x
  | .identifier _, scope, _ => by simp [Vocabulary.Uses]
  | .literal _, scope, h => by simpa [Vocabulary.Uses, Expr.Within] using h
  | .array parts, scope, h => by
    rw [Expr.Within] at h
    rw [Expr.subterms, List.forall_mem_cons]
    exact ⟨trivial, Item.uses_of_within parts scope h⟩
  | .object parts, scope, h => by
    rw [Expr.Within] at h
    rw [Expr.subterms, List.forall_mem_cons]
    exact ⟨trivial, Property.uses_of_within parts scope h⟩
  | .member object _, scope, h => by
    rw [Expr.Within] at h
    rw [Expr.subterms, List.forall_mem_cons]
    exact ⟨trivial, Expr.uses_of_within object scope h.1⟩
  | .index object index, scope, h => by
    rw [Expr.Within] at h
    rw [Expr.subterms, List.forall_mem_cons, List.forall_mem_append]
    exact ⟨trivial, Expr.uses_of_within object scope h.1, Expr.uses_of_within index scope h.2⟩
  | .call callee arguments, scope, h => by
    rw [Expr.Within] at h
    rw [Expr.subterms, List.forall_mem_cons, List.forall_mem_append]
    exact ⟨trivial, Expr.uses_of_within callee scope h.1, Item.uses_of_within arguments scope h.2⟩
  | .not operand, scope, h => by
    rw [Expr.Within] at h
    rw [Expr.subterms, List.forall_mem_cons]
    exact ⟨trivial, Expr.uses_of_within operand scope h⟩
  | .binary _ left right, scope, h => by
    rw [Expr.Within] at h
    rw [Expr.subterms, List.forall_mem_cons, List.forall_mem_append]
    exact ⟨trivial, Expr.uses_of_within left scope h.1, Expr.uses_of_within right scope h.2⟩
  | .conditional test consequent alternate, scope, h => by
    rw [Expr.Within] at h
    rw [Expr.subterms, List.forall_mem_cons, List.forall_mem_append, List.forall_mem_append]
    exact ⟨trivial, Expr.uses_of_within test scope h.1, Expr.uses_of_within consequent scope h.2.1,
      Expr.uses_of_within alternate scope h.2.2⟩
  | .arrow _ body, scope, h => by
    rw [Expr.Within] at h
    rw [Expr.subterms, List.forall_mem_cons]
    exact ⟨trivial, Body.uses_of_within body _ h.2⟩
  | .markup _, scope, h => by
    rw [Expr.Within] at h
    exact h.elim

lemma Item.uses_of_within : (parts : List Item) → ∀ scope, Item.AllWithin V scope parts →
    ∀ x ∈ Item.subterms parts, V.Uses x
  | [], scope, _ => by simp
  | .single value :: parts, scope, h => by
    rw [Item.AllWithin] at h
    rw [Item.subterms, List.forall_mem_append]
    exact ⟨Expr.uses_of_within value scope h.1, Item.uses_of_within parts scope h.2⟩
  | .spread source :: parts, scope, h => by
    rw [Item.AllWithin] at h
    rw [Item.subterms, List.forall_mem_append]
    exact ⟨Expr.uses_of_within source scope h.1, Item.uses_of_within parts scope h.2⟩

lemma Property.uses_of_within : (parts : List Property) → ∀ scope, Property.AllWithin V scope parts →
    ∀ x ∈ Property.subterms parts, V.Uses x
  | [], scope, _ => by simp
  | .keyed _ value :: parts, scope, h => by
    rw [Property.AllWithin] at h
    rw [Property.subterms, List.forall_mem_append]
    exact ⟨Expr.uses_of_within value scope h.1, Property.uses_of_within parts scope h.2⟩
  | .spread source :: parts, scope, h => by
    rw [Property.AllWithin] at h
    rw [Property.subterms, List.forall_mem_append]
    exact ⟨Expr.uses_of_within source scope h.1, Property.uses_of_within parts scope h.2⟩

lemma Body.uses_of_within : (body : Body) → ∀ scope, body.Within V scope → ∀ x ∈ body.subterms, V.Uses x
  | .expression value, scope, h => by
    rw [Body.Within] at h
    rw [Body.subterms]
    exact Expr.uses_of_within value scope h
  | .block ss, scope, h => by
    rw [Body.Within] at h
    rw [Body.subterms]
    exact Stmt.uses_of_allWithin ss _ h

lemma Stmt.uses_of_within : (s : Stmt) → ∀ scope, s.Within V scope → ∀ x ∈ s.subterms, V.Uses x
  | .importModule _ _, scope, _ => by simp [Vocabulary.Uses]
  | .declare _ _ value, scope, h => by
    rw [Stmt.Within] at h
    rw [Stmt.subterms, List.forall_mem_cons]
    exact ⟨trivial, Expr.uses_of_within value scope h.2⟩
  | .expression value, scope, h => by
    rw [Stmt.Within] at h
    rw [Stmt.subterms, List.forall_mem_cons]
    exact ⟨trivial, Expr.uses_of_within value scope h⟩
  | .branch test consequent none, scope, h => by
    rw [Stmt.Within] at h
    rw [Stmt.subterms, List.forall_mem_cons, List.forall_mem_append]
    exact ⟨trivial, Expr.uses_of_within test scope h.1, Stmt.uses_of_within consequent scope h.2⟩
  | .branch test consequent (some alternate), scope, h => by
    rw [Stmt.Within] at h
    rw [Stmt.subterms, List.forall_mem_cons, List.forall_mem_append, List.forall_mem_append]
    exact ⟨trivial, Expr.uses_of_within test scope h.1, Stmt.uses_of_within consequent scope h.2.1,
      Stmt.uses_of_within alternate scope h.2.2⟩
  | .block ss, scope, h => by
    rw [Stmt.Within] at h
    rw [Stmt.subterms, List.forall_mem_cons]
    exact ⟨trivial, Stmt.uses_of_allWithin ss _ h⟩
  | .forOf _ source body, scope, h => by
    rw [Stmt.Within] at h
    rw [Stmt.subterms, List.forall_mem_cons, List.forall_mem_append]
    exact ⟨trivial, Expr.uses_of_within source scope h.2.1, Stmt.uses_of_within body _ h.2.2⟩
  | .leave none, scope, _ => by simp [Vocabulary.Uses]
  | .leave (some value), scope, h => by
    rw [Stmt.Within] at h
    rw [Stmt.subterms, List.forall_mem_cons]
    exact ⟨trivial, Expr.uses_of_within value scope h⟩

lemma Stmt.uses_of_allWithin : (ss : List Stmt) → ∀ scope, Stmt.AllWithin V scope ss → ∀ x ∈ Stmt.allSubterms ss, V.Uses x
  | [], scope, _ => by simp
  | s :: ss, scope, h => by
    rw [Stmt.AllWithin] at h
    rw [Stmt.allSubterms, List.forall_mem_append]
    exact ⟨Stmt.uses_of_within s scope h.1, Stmt.uses_of_allWithin ss scope h.2⟩

end

end Uses

def Vocabulary.bare : Vocabulary where
  refers _ _ := True
  binds _ := True
  tracks _ := false
  member _ := True
  literal value := value.unsourced = value

lemma Vocabulary.bare_suits (c : Config) : Vocabulary.bare.Suits c where
  support _ := trivial
  refers _ := trivial
  binds _ := trivial
  member _ := trivial
  string _ := rfl
  bool _ := rfl
  null := rfl
  undefined := rfl

lemma Vocabulary.bare_allows (scope : List String) (x : Subterm) : Vocabulary.bare.Allows scope x := by
  unfold Vocabulary.Allows
  split
  · trivial
  · rfl
  · trivial
  · exact fun _ _ => ⟨trivial, rfl⟩
  · trivial
  · exact ⟨trivial, rfl⟩
  · exact ⟨trivial, rfl⟩
  · trivial

lemma Vocabulary.bare_uses {x : Subterm} (h : Vocabulary.bare.Uses x) : x.isMarkup = false ∧ x.isSourced = false := by
  cases x with
  | statement s => exact ⟨rfl, rfl⟩
  | markup node => exact ⟨rfl, rfl⟩
  | expression e =>
    cases e with
    | markup node => exact h.elim
    | literal value =>
      refine ⟨rfl, ?_⟩
      cases value with
      | string text source =>
        cases source with
        | none => rfl
        | some source => cases h
      | _ => rfl
    | _ => exact ⟨rfl, rfl⟩

namespace Program

variable {c : Config} {p q : Program}

lemma compile_bare (h : p.compile c = .ok q) : ∀ x ∈ q.subterms, x.isMarkup = false ∧ x.isSourced = false := by
  have hadmits : Vocabulary.bare.Admits c [] p.subterms :=
    ⟨fun x _ => Vocabulary.bare_allows [] x, fun _ _ _ _ _ _ _ _ inner _ x _ _ => Vocabulary.bare_allows inner x⟩
  have hwithin : q.Within Vocabulary.bare := compile_within (Vocabulary.bare_suits c) trivial hadmits h
  exact fun x hx => Vocabulary.bare_uses (Stmt.uses_of_allWithin q _ hwithin x hx)

lemma compile_plain (himport : c.importPath = none) (hp : ∀ x ∈ p.subterms, x.isMarkup = false) :
    p.compile c = .ok (Stmt.unsourcedAll p) := by
  have hplain : Stmt.arePlain (fun _ => true) p = true := by
    rw [Stmt.arePlain_eq_all, List.all_eq_true]
    exact fun x hx => by rw [hp x hx]; rfl
  have hrun : (Compile.statements c p).run 0 = (.ok (Stmt.unsourcedAll p), 0) :=
    Compile.statements_plain p hplain 0
  rw [compile, hrun, himport]
  rfl

/-- Without the import of the support module, a compiled program has no markup and no source texts, a program without
markup is compiled to itself without its source texts, and a compiled program is compiled to itself. -/
theorem compile_projects (himport : c.importPath = none) :
    (∀ p q, compile c p = .ok q → ∀ x ∈ q.subterms, x.isMarkup = false ∧ x.isSourced = false) ∧
    (∀ p : Program, (∀ x ∈ p.subterms, x.isMarkup = false) → p.compile c = .ok (Stmt.unsourcedAll p)) ∧
    ∀ p q, compile c p = .ok q → ∀ c' : Config, c'.importPath = none → q.compile c' = .ok q := by
  refine ⟨fun p q h => compile_bare h, fun p hp => compile_plain himport hp, fun p q h c' himport' => ?_⟩
  have hbare := compile_bare h
  have hself : Stmt.unsourcedAll q = q := Stmt.unsourcedAll_eq q fun x hx => (hbare x hx).2
  calc q.compile c' = .ok (Stmt.unsourcedAll q) := compile_plain himport' fun x hx => (hbare x hx).1
    _ = .ok q := by rw [hself]

def quotedParagraph : Program :=
  [.declare .constant "a" (.arrow ["b"] (.expression (.markup (.element (.static "p")
    [.named "title" (some (.literal (.string "t" (some "'t'"))))] [.container (some (.identifier "b"))] false))))]

theorem compile_projects_paragraph : ∃ q, quotedParagraph.compile {} = .ok q ∧
    (∀ x ∈ q.subterms, x.isMarkup = false ∧ x.isSourced = false) ∧
    q.compile { target := .stream, mode := .direct, support := "k" } = .ok q := by
  obtain ⟨q, hq⟩ : ∃ q, quotedParagraph.compile {} = .ok q := ⟨_, rfl⟩
  obtain ⟨hbare, -, hagain⟩ := compile_projects (c := {}) rfl
  exact ⟨q, hq, hbare _ q hq, hagain _ q hq _ rfl⟩

end Program

end TemplateScript
