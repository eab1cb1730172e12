import TemplateScript.Proofs.Script.Renaming
import TemplateScript.Proofs.Script.Scopes

namespace TemplateScript

namespace Subterm

def binders : Subterm → List String
  | .expression (.arrow params _) => params
  | .statement (.importModule name _) => [name]
  | .statement (.declare _ name _) => [name]
  | .statement (.forOf name _ _) => [name]
  | _ => []

def identifiers : Subterm → List String
  | .expression (.identifier name) => [name]
  | _ => []

end Subterm

abbrev Program.binders (p : Program) : List String := p.subterms.flatMap Subterm.binders

mutual

def Expr.free : Expr → List String
  | .identifier name => [name]
  | .literal _ => []
  | .array parts => Item.allFree parts
  | .object parts => Property.allFree parts
  | .member object _ => object.free
  | .index object index => object.free ++ index.free
  | .call callee arguments => callee.free ++ Item.allFree arguments
  | .not operand => operand.free
  | .binary _ left right => left.free ++ right.free
  | .conditional test consequent alternate => test.free ++ (consequent.free ++ alternate.free)
  | .arrow params body => body.free.filter (· ∉ params)
  | .markup node => node.free

def Item.allFree : List Item → List String
  | [] => []
  | .single value :: parts => value.free ++ Item.allFree parts
  | .spread source :: parts => source.free ++ Item.allFree parts

def Property.allFree : List Property → List String
  | [] => []
  | .keyed _ value :: parts => value.free ++ Property.allFree parts
  | .spread source :: parts => source.free ++ Property.allFree parts

def Body.free : Body → List String
  | .expression value => value.free
  | .block ss => (Stmt.allFree ss).filter (· ∉ Stmt.declared ss)

def Stmt.free : Stmt → List String
  | .importModule _ _ => []
  | .declare _ _ value => value.free
  | .expression value => value.free
  | .branch test consequent none => test.free ++ consequent.free
  | .branch test consequent (some alternate) => test.free ++ (consequent.free ++ alternate.free)
  | .block ss => (Stmt.allFree ss).filter (· ∉ Stmt.declared ss)
  | .forOf name source body => source.free ++ body.free.filter (· ≠ name)
  | .leave none => []
  | .leave (some value) => value.free

def Stmt.allFree : List Stmt → List String
  | [] => []
  | s :: ss => s.free ++ Stmt.allFree ss

def Markup.free : Markup → List String
  | .element tag attributes children _ => tag.free ++ (MarkupAttribute.allFree attributes ++ Markup.allFree children)
  | .text _ => []
  | .container none => []
  | .container (some value) => value.free
  | .fragment children => Markup.allFree children

def Markup.allFree : List Markup → List String
  | [] => []
  | node :: nodes => node.free ++ Markup.allFree nodes

def Tag.free : Tag → List String
  | .static _ => []
  | .computed name => name.free
  | .component callee => callee.free

def MarkupAttribute.allFree : List MarkupAttribute → List String
  | [] => []
  | .named _ none :: attributes => MarkupAttribute.allFree attributes
  | .named _ (some value) :: attributes => value.free ++ MarkupAttribute.allFree attributes
  | .spread source :: attributes => source.free ++ MarkupAttribute.allFree attributes

end

def Stmt.imported : List Stmt → List String
  | [] => []
  | .importModule name _ :: ss => name :: Stmt.imported ss
  | _ :: ss => Stmt.imported ss

lemma Stmt.imported_cons (s : Stmt) (ss : List Stmt) : Stmt.imported (s :: ss) = Stmt.imported [s] ++ Stmt.imported ss := by
  cases s <;> simp [Stmt.imported]

def Program.free (p : Program) : List String := (Stmt.allFree p).filter fun name => name ∉ Stmt.declared p ++ Stmt.imported p

section Identifiers

open Subterm (identifiers)

mutual

lemma Expr.free_sublist : (e : Expr) → e.free.Sublist (e.subterms.flatMap identifiers)
  | .identifier _ => by simp [Expr.free, identifiers]
  | .literal _ => by simp [Expr.free]
  | .array parts => by simpa [Expr.free, identifiers] using Item.allFree_sublist parts
  | .object parts => by simpa [Expr.free, identifiers] using Property.allFree_sublist parts
  | .member object _ => by simpa [Expr.free, identifiers] using object.free_sublist
  | .index object index => by simpa [Expr.free, identifiers] using object.free_sublist.append index.free_sublist
  | .call callee arguments => by
    simpa [Expr.free, identifiers] using callee.free_sublist.append (Item.allFree_sublist arguments)
  | .not operand => by simpa [Expr.free, identifiers] using operand.free_sublist
  | .binary _ left right => by simpa [Expr.free, identifiers] using left.free_sublist.append right.free_sublist
  | .conditional test consequent alternate => by
    simpa [Expr.free, identifiers] using
      test.free_sublist.append (consequent.free_sublist.append alternate.free_sublist)
  | .arrow params body => by
    rw [Expr.free, Expr.subterms]
    exact List.filter_sublist.trans (by simpa [identifiers] using body.free_sublist)
  | .markup node => by simpa [Expr.free, identifiers] using node.free_sublist

lemma Item.allFree_sublist : (parts : List Item) → (Item.allFree parts).Sublist ((Item.subterms parts).flatMap identifiers)
  | [] => by simp [Item.allFree]
  | .single value :: parts => by
    simpa [Item.allFree] using value.free_sublist.append (Item.allFree_sublist parts)
  | .spread source :: parts => by
    simpa [Item.allFree] using source.free_sublist.append (Item.allFree_sublist parts)

lemma Property.allFree_sublist : (parts : List Property) →
    (Property.allFree parts).Sublist ((Property.subterms parts).flatMap identifiers)
  | [] => by simp [Property.allFree]
  | .keyed _ value :: parts => by
    simpa [Property.allFree] using value.free_sublist.append (Property.allFree_sublist parts)
  | .spread source :: parts => by
    simpa [Property.allFree] using source.free_sublist.append (Property.allFree_sublist parts)

lemma Body.free_sublist : (body : Body) → body.free.Sublist (body.subterms.flatMap identifiers)
  | .expression value => by simpa [Body.free] using value.free_sublist
  | .block ss => by
    rw [Body.free, Body.subterms]
    exact List.filter_sublist.trans (Stmt.allFree_sublist ss)

lemma Stmt.free_sublist : (s : Stmt) → s.free.Sublist (s.subterms.flatMap identifiers)
  | .importModule _ _ => by simp [Stmt.free]
  | .declare _ _ value => by simpa [Stmt.free, identifiers] using value.free_sublist
  | .expression value => by simpa [Stmt.free, identifiers] using value.free_sublist
  | .branch test consequent none => by
    simpa [Stmt.free, identifiers] using test.free_sublist.append consequent.free_sublist
  | .branch test consequent (some alternate) => by
    simpa [Stmt.free, identifiers] using
      test.free_sublist.append (consequent.free_sublist.append alternate.free_sublist)
  | .block ss => by
    rw [Stmt.free, Stmt.subterms]
    exact List.filter_sublist.trans (by simpa [identifiers] using Stmt.allFree_sublist ss)
  | .forOf name source body => by
    simpa [Stmt.free, identifiers] using source.free_sublist.append (List.filter_sublist.trans body.free_sublist)
  | .leave none => by simp [Stmt.free]
  | .leave (some value) => by simpa [Stmt.free, identifiers] using value.free_sublist

lemma Stmt.allFree_sublist : (ss : List Stmt) → (Stmt.allFree ss).Sublist ((Stmt.allSubterms ss).flatMap identifiers)
  | [] => by simp [Stmt.allFree]
  | s :: ss => by simpa [Stmt.allFree] using s.free_sublist.append (Stmt.allFree_sublist ss)

lemma Markup.free_sublist : (node : Markup) → node.free.Sublist (node.subterms.flatMap identifiers)
  | .element tag attributes children _ => by
    simpa [Markup.free, identifiers] using
      tag.free_sublist.append ((MarkupAttribute.allFree_sublist attributes).append (Markup.allFree_sublist children))
  | .text _ => by simp [Markup.free]
  | .container none => by simp [Markup.free]
  | .container (some value) => by simpa [Markup.free, identifiers] using value.free_sublist
  | .fragment children => by simpa [Markup.free, identifiers] using Markup.allFree_sublist children

lemma Markup.allFree_sublist : (nodes : List Markup) →
    (Markup.allFree nodes).Sublist ((Markup.allSubterms nodes).flatMap identifiers)
  | [] => by simp [Markup.allFree]
  | node :: nodes => by simpa [Markup.allFree] using node.free_sublist.append (Markup.allFree_sublist nodes)

lemma Tag.free_sublist : (tag : Tag) → tag.free.Sublist (tag.subterms.flatMap identifiers)
  | .static _ => by simp [Tag.free]
  | .computed name => by simpa [Tag.free] using name.free_sublist
  | .component callee => by simpa [Tag.free] using callee.free_sublist

lemma MarkupAttribute.allFree_sublist : (attributes : List MarkupAttribute) →
    (MarkupAttribute.allFree attributes).Sublist ((MarkupAttribute.subterms attributes).flatMap identifiers)
  | [] => by simp [MarkupAttribute.allFree]
  | .named _ none :: attributes => by
    simpa [MarkupAttribute.allFree] using MarkupAttribute.allFree_sublist attributes
  | .named _ (some value) :: attributes => by
    simpa [MarkupAttribute.allFree] using value.free_sublist.append (MarkupAttribute.allFree_sublist attributes)
  | .spread source :: attributes => by
    simpa [MarkupAttribute.allFree] using source.free_sublist.append (MarkupAttribute.allFree_sublist attributes)

end

end Identifiers

def Vocabulary.free (R : String → Prop) : Vocabulary where
  refers scope name := name ∈ scope ∨ R name
  binds _ := True
  tracks _ := true
  member _ := True
  literal _ := True

section Free

variable {R : String → Prop}

lemma Vocabulary.extend_free (names scope : List String) : (Vocabulary.free R).extend names scope = names ++ scope := by
  rw [Vocabulary.extend, List.filter_eq_self.2]
  exact fun _ _ => rfl

lemma free_under {bound free scope : List String} (h : ∀ name ∈ free, name ∈ (Vocabulary.free R).extend bound scope ∨ R name) :
    ∀ name ∈ free.filter (· ∉ bound), name ∈ scope ∨ R name := by
  intro name hname
  rw [List.mem_filter, decide_eq_true_eq] at hname
  rcases h name hname.1 with hscope | hname'
  · rw [Vocabulary.extend_free, List.mem_append] at hscope
    exact .inl (hscope.resolve_left hname.2)
  · exact .inr hname'

mutual

lemma Expr.free_of_within : (e : Expr) → ∀ scope, e.Within (.free R) scope → ∀ name ∈ e.free, name ∈ scope ∨ R name
  | .identifier _, scope, h => by
    rw [Expr.Within] at h
    rw [Expr.free, List.forall_mem_singleton]
    exact h
  | .literal _, scope, _ => by simp [Expr.free]
  | .array parts, scope, h => by
    rw [Expr.Within] at h
    rw [Expr.free]
    exact Item.free_of_within parts scope h
  | .object parts, scope, h => by
    rw [Expr.Within] at h
    rw [Expr.free]
    exact Property.free_of_within parts scope h
  | .member object _, scope, h => by
    rw [Expr.Within] at h
    rw [Expr.free]
    exact object.free_of_within scope h.1
  | .index object index, scope, h => by
    rw [Expr.Within] at h
    rw [Expr.free, List.forall_mem_append]
    exact ⟨object.free_of_within scope h.1, index.free_of_within scope h.2⟩
  | .call callee arguments, scope, h => by
    rw [Expr.Within] at h
    rw [Expr.free, List.forall_mem_append]
    exact ⟨callee.free_of_within scope h.1, Item.free_of_within arguments scope h.2⟩
  | .not operand, scope, h => by
    rw [Expr.Within] at h
    rw [Expr.free]
    exact operand.free_of_within scope h
  | .binary _ left right, scope, h => by
    rw [Expr.Within] at h
    rw [Expr.free, List.forall_mem_append]
    exact ⟨left.free_of_within scope h.1, right.free_of_within scope h.2⟩
  | .conditional test consequent alternate, scope, h => by
    rw [Expr.Within] at h
    rw [Expr.free, List.forall_mem_append, List.forall_mem_append]
    exact ⟨test.free_of_within scope h.1, consequent.free_of_within scope h.2.1, alternate.free_of_within scope h.2.2⟩
  | .arrow params body, scope, h => by
    rw [Expr.Within] at h
    rw [Expr.free]
    exact free_under (body.free_of_within _ h.2)
  | .markup _, scope, h => by
    rw [Expr.Within] at h
    exact h.elim

lemma Item.free_of_within : (parts : List Item) → ∀ scope, Item.AllWithin (.free R) scope parts →
    ∀ name ∈ Item.allFree parts, name ∈ scope ∨ R name
  | [], scope, _ => by simp [Item.allFree]
  | .single value :: parts, scope, h => by
    rw [Item.AllWithin] at h
    rw [Item.allFree, List.forall_mem_append]
    exact ⟨value.free_of_within scope h.1, Item.free_of_within parts scope h.2⟩
  | .spread source :: parts, scope, h => by
    rw [Item.AllWithin] at h
    rw [Item.allFree, List.forall_mem_append]
    exact ⟨source.free_of_within scope h.1, Item.free_of_within parts scope h.2⟩

lemma Property.free_of_within : (parts : List Property) → ∀ scope, Property.AllWithin (.free R) scope parts →
    ∀ name ∈ Property.allFree parts, name ∈ scope ∨ R name
  | [], scope, _ => by simp [Property.allFree]
  | .keyed _ value :: parts, scope, h => by
    rw [Property.AllWithin] at h
    rw [Property.allFree, List.forall_mem_append]
    exact ⟨value.free_of_within scope h.1, Property.free_of_within parts scope h.2⟩
  | .spread source :: parts, scope, h => by
    rw [Property.AllWithin] at h
    rw [Property.allFree, List.forall_mem_append]
    exact ⟨source.free_of_within scope h.1, Property.free_of_within parts scope h.2⟩

lemma Body.free_of_within : (body : Body) → ∀ scope, body.Within (.free R) scope →
    ∀ name ∈ body.free, name ∈ scope ∨ R name
  | .expression value, scope, h => by
    rw [Body.Within] at h
    rw [Body.free]
    exact value.free_of_within scope h
  | .block ss, scope, h => by
    rw [Body.Within] at h
    rw [Body.free]
    exact free_under (Stmt.allFree_of_within ss _ h)

lemma Stmt.free_of_within : (s : Stmt) → ∀ scope, s.Within (.free R) scope → ∀ name ∈ s.free, name ∈ scope ∨ R name
  | .importModule _ _, scope, _ => by simp [Stmt.free]
  | .declare _ _ value, scope, h => by
    rw [Stmt.Within] at h
    rw [Stmt.free]
    exact value.free_of_within scope h.2
  | .expression value, scope, h => by
    rw [Stmt.Within] at h
    rw [Stmt.free]
    exact value.free_of_within scope h
  | .branch test consequent none, scope, h => by
    rw [Stmt.Within] at h
    rw [Stmt.free, List.forall_mem_append]
    exact ⟨test.free_of_within scope h.1, consequent.free_of_within scope h.2⟩
  | .branch test consequent (some alternate), scope, h => by
    rw [Stmt.Within] at h
    rw [Stmt.free, List.forall_mem_append, List.forall_mem_append]
    exact ⟨test.free_of_within scope h.1, consequent.free_of_within scope h.2.1, alternate.free_of_within scope h.2.2⟩
  | .block ss, scope, h => by
    rw [Stmt.Within] at h
    rw [Stmt.free]
    exact free_under (Stmt.allFree_of_within ss _ h)
  | .forOf name source body, scope, h => by
    rw [Stmt.Within] at h
    rw [Stmt.free, List.forall_mem_append]
    refine ⟨source.free_of_within scope h.2.1, ?_⟩
    simpa using free_under (body.free_of_within _ h.2.2)
  | .leave none, scope, _ => by simp [Stmt.free]
  | .leave (some value), scope, h => by
    rw [Stmt.Within] at h
    rw [Stmt.free]
    exact value.free_of_within scope h

lemma Stmt.allFree_of_within : (ss : List Stmt) → ∀ scope, Stmt.AllWithin (.free R) scope ss →
    ∀ name ∈ Stmt.allFree ss, name ∈ scope ∨ R name
  | [], scope, _ => by simp [Stmt.allFree]
  | s :: ss, scope, h => by
    rw [Stmt.AllWithin] at h
    rw [Stmt.allFree, List.forall_mem_append]
    exact ⟨s.free_of_within scope h.1, Stmt.allFree_of_within ss scope h.2⟩

end

end Free

end TemplateScript
