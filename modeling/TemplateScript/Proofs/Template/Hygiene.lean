import TemplateScript.Proofs.Template.CompiledCode
import TemplateScript.Proofs.Template.RenamedCode

/-!
Generated binders and the names of the program. To tell the names of the program from those of generated code, they are
marked before the program is compiled; without the marks the code is that of the program itself.
-/

namespace TemplateScript

namespace Config

variable (c : Config)

def marker : String := c.support ++ "'"

def mark (name : String) : String := c.marker ++ name

def isMarked (name : String) : Bool := c.marker.toList.isPrefixOf name.toList

def unmark (name : String) : String :=
  if c.isMarked name then String.ofList (name.toList.drop c.marker.toList.length) else name

/-- A name that comes from the program stands under no generated binder of the same name. Any other name is that of the
support module or of a generated binder around it. -/
def hygiene : Vocabulary where
  refers scope name := (∃ source, name = c.mark source ∧ source ∉ scope) ∨ name = c.support ∨ name ∈ scope
  binds _ := True
  tracks name := !c.isMarked name
  member _ := True
  literal _ := True

lemma isMarked_mark (name : String) : c.isMarked (c.mark name) = true := by
  simp [isMarked, mark, String.toList_append]

lemma unmark_mark (name : String) : c.unmark (c.mark name) = name := by
  rw [unmark, if_pos (c.isMarked_mark name), mark, String.toList_append, List.drop_left, String.ofList_toList]

lemma marker_prefix {name : String} (h : c.isMarked name = true) : c.support.toList ++ ['\''] <+: name.toList := by
  simpa [isMarked, marker, String.toList_append] using h

lemma not_isMarked_support : c.isMarked c.support = false := by
  refine Bool.eq_false_iff.2 fun h => ?_
  have hlength := (c.marker_prefix h).length_le
  rw [List.length_append, List.length_singleton] at hlength
  omega

lemma not_isMarked_temporary {name : String} (h : isTemporary name) : c.isMarked name = false := by
  refine Bool.eq_false_iff.2 fun hmarked => ?_
  have hquote : '\'' ∈ name.toList := (c.marker_prefix hmarked).subset (by simp)
  unfold isTemporary at h
  split at h
  · next letter digit digits hname =>
    simp only [Bool.and_eq_true, List.all_eq_true] at h
    simp only [hname, List.mem_cons] at hquote
    rcases hquote with hquote | rfl | rfl | hquote
    · exact absurd hquote (by decide)
    · exact absurd h.1.1 (by decide)
    · exact absurd h.1.2 (by decide)
    · exact absurd (h.2 _ hquote) (by decide)
  · cases h

lemma fixes_unmark : c.Fixes c.unmark where
  support := by rw [unmark, if_neg (by simp [not_isMarked_support])]
  temporary h := by rw [unmark, if_neg (by simp [c.not_isMarked_temporary h])]

lemma hygiene_suits : c.hygiene.Suits c where
  support _ := .inr (.inl rfl)
  refers h := .inr (.inr (h.mem (by simp [hygiene, c.not_isMarked_temporary h.isTemporary])))
  binds _ := trivial
  member _ := trivial
  string _ := trivial
  bool _ := trivial
  null := trivial
  undefined := trivial

lemma mark_injective {name name' : String} (h : c.mark name = c.mark name') : name = name' := by
  rw [← c.unmark_mark name, h, c.unmark_mark]

lemma hygiene_allows {scope : List String} {x : Subterm} (h : ∀ name, x = .expression (.identifier name) → name ∉ scope) :
    c.hygiene.Allows scope (x.rename c.mark) := by
  have htracks (name : String) : c.hygiene.tracks (c.mark name) = false := by simp [hygiene, c.isMarked_mark]
  cases x with
  | expression e =>
    cases e with
    | identifier name =>
      simp only [Subterm.rename, Expr.rename, Vocabulary.Allows]
      exact .inl ⟨name, rfl, h name rfl⟩
    | arrow params body =>
      simp only [Subterm.rename, Expr.rename, Vocabulary.Allows, List.forall_mem_map]
      exact fun name _ => ⟨trivial, htracks name⟩
    | literal value => cases value <;> trivial
    | _ => trivial
  | statement s =>
    rcases s with _ | _ | _ | ⟨_, _, _ | _⟩ | _ | _ | _ | _
    case declare kind name value =>
      simp only [Subterm.rename, Stmt.rename, Vocabulary.Allows]
      exact ⟨trivial, htracks name⟩
    case forOf name source body =>
      simp only [Subterm.rename, Stmt.rename, Vocabulary.Allows]
      exact ⟨trivial, htracks name⟩
    all_goals trivial
  | markup node => trivial

end Config

lemma Subterm.eq_element_of_rename {f : String → String} {x : Subterm} {tag : Expr} {attributes : List MarkupAttribute}
    {children : List Markup} {closed : Bool} (h : x.rename f = .markup (.element (.computed tag) attributes children closed)) :
    ∃ tag' attributes' children', x = .markup (.element (.computed tag') attributes' children' closed) ∧
      attributes = MarkupAttribute.renameAll f attributes' := by
  rcases x with _ | _ | ⟨tag' | _ | _⟩
  case markup.element =>
    cases tag' <;> simp only [Subterm.rename, Markup.rename, Tag.rename] at h <;> cases h
    exact ⟨_, _, _, rfl, rfl⟩
  case markup.container value => cases value <;> simp [Subterm.rename, Markup.rename] at h
  all_goals simp [Subterm.rename, Markup.rename] at h

/-- In code for the raw target that is specialized, the attributes of a computed element do not use the names that its tag
and its children may be bound to. -/
def Program.SparesOuter (c : Config) (p : Program) : Prop :=
  c.mode = .optimizing → c.target = .raw → ∀ tag attributes children closed,
    Subterm.markup (.element (.computed tag) attributes children closed) ∈ p.subterms →
    ∀ name, Subterm.expression (.identifier name) ∈ MarkupAttribute.subterms attributes → ¬ RawElement.IsOuter name

lemma Program.SparesOuter.admits {c : Config} {p : Program} (h : p.SparesOuter c) :
    c.hygiene.Admits c [] (p.rename c.mark).subterms := by
  rw [Program.subterms, Program.rename, Stmt.allSubterms_rename]
  refine ⟨?_, ?_⟩
  · rw [List.forall_mem_map]
    exact fun x _ => c.hygiene_allows (by simp)
  · intro hmode htarget tag attributes children closed helement outer inner hinner x hx _
    obtain ⟨y, hy, heq⟩ := List.mem_map.1 helement
    obtain ⟨tag', attributes', children', rfl, rfl⟩ := Subterm.eq_element_of_rename heq
    rw [MarkupAttribute.subterms_rename] at hx
    obtain ⟨z, hz, rfl⟩ := List.mem_map.1 hx
    exact c.hygiene_allows fun name hname hmem =>
      h hmode htarget tag' attributes' children' closed hy name (hname ▸ hz) (hinner name hmem)

lemma Program.compile_marked {c : Config} {p q : Program} (h : p.compile c = .ok q) :
    ∃ marked, (p.rename c.mark).compile c = .ok marked ∧ marked.rename c.unmark = q := by
  -- Marks that are set and removed leave the program as it is, so its code is the unmarked code of the marked program.
  have hrename := Program.compile_rename c.fixes_unmark (p.rename c.mark)
  rw [Program.rename, Stmt.renameAll_inverse c.unmark_mark p, h] at hrename
  cases hmarked : (p.rename c.mark).compile c with
  | error e =>
    rw [hmarked] at hrename
    cases hrename
  | ok marked =>
    rw [hmarked] at hrename
    cases hrename
    exact ⟨marked, rfl, rfl⟩

/-- No name that comes from a program is captured by a generated binder. The names of the program are followed by their
marks; the code is the code of the marked program without the marks. -/
theorem Program.compile_uncaptured {c : Config} {p q : Program} (hspares : p.SparesOuter c) (h : p.compile c = .ok q) :
    ∃ marked, (p.rename c.mark).compile c = .ok marked ∧ marked.rename c.unmark = q ∧ marked.Within c.hygiene := by
  obtain ⟨marked, hmarked, hcode⟩ := Program.compile_marked h
  exact ⟨marked, hmarked, hcode, Program.compile_within c.hygiene_suits trivial hspares.admits hmarked⟩

lemma RawElement.not_isOuter {kind : Char} (ht : kind ≠ 't') (hc : kind ≠ 'c') (n : Nat) :
    ¬ IsOuter (temporary kind n) := by
  rintro ⟨m, h | h⟩
  · exact temporary_ne ht n m h
  · exact temporary_ne hc n m h

def sparingProgram : Program :=
  [.expression (.markup (.element (.computed (.identifier "_t1"))
    [.named "title" (some (.identifier "_a2")), .spread (.arrow ["_t1"] (.expression (.identifier "_n3")))]
    [.container (some (.identifier "_c4"))] false))]

theorem Program.compile_uncaptured_tag : ∃ q marked, sparingProgram.compile {} = .ok q ∧
    (sparingProgram.rename ({} : Config).mark).compile {} = .ok marked ∧ marked.rename ({} : Config).unmark = q ∧
    marked.Within ({} : Config).hygiene := by
  obtain ⟨q, hq⟩ : ∃ q, sparingProgram.compile {} = .ok q := ⟨_, rfl⟩
  have hspares : sparingProgram.SparesOuter {} := by
    intro _ _ tag attributes children closed helement name hname
    simp [sparingProgram] at helement
    obtain ⟨-, rfl, -⟩ := helement
    simp at hname
    rcases hname with rfl | rfl
    · exact RawElement.not_isOuter (by decide : 'a' ≠ 't') (by decide) 2
    · exact RawElement.not_isOuter (by decide : 'n' ≠ 't') (by decide) 3
  obtain ⟨marked, h⟩ := Program.compile_uncaptured hspares hq
  exact ⟨q, marked, hq, h⟩

def capturingProgram : Program :=
  [.declare .constant "tag" (.string "b"), .declare .constant "_t1" (.string "x"),
    .declare .constant "a" (.arrow [] (.expression (.markup (.element (.computed (.identifier "tag"))
      [.named "title" (some (.identifier "_t1"))] [] false))))]

/-- The attribute refers to the tag, which is bound to the name that the attribute uses. -/
theorem Program.compile_captures : ∃ marked,
    (capturingProgram.rename ({} : Config).mark).compile {} = .ok marked ∧ ¬ marked.Within ({} : Config).hygiene := by
  refine ⟨_, rfl, fun h => ?_⟩
  -- The function that binds the tag, the attribute among the operands of its concatenation, and the value of the attribute.
  obtain ⟨-, -, ⟨-, -, ⟨-, hbody⟩, -⟩, -⟩ := h
  obtain ⟨-, ⟨⟨⟨-, hattribute⟩, -⟩, -⟩, -⟩ := hbody
  obtain ⟨-, ⟨-, hvalue, -⟩, -⟩ := hattribute
  rcases hvalue with ⟨source, hsource, hfree⟩ | hsupport | hbound
  · obtain rfl := Config.mark_injective _ hsource
    exact hfree (List.mem_append_left _ (by decide +kernel))
  · exact absurd hsupport (by decide)
  · exact absurd hbound (by decide +kernel)

end TemplateScript
