import Mathlib.Tactic.Common
import TemplateScript.Script.Expr

namespace TemplateScript

/-- What code may be made of. Of the names that are bound around a place, those that are tracked decide what may be
referred to there. -/
structure Vocabulary where
  refers : (scope : List String) → String → Prop
  binds : String → Prop
  tracks : String → Bool
  member : String → Prop
  literal : Literal → Prop

namespace Vocabulary

variable (V : Vocabulary)

def extend (names scope : List String) : List String := names.filter V.tracks ++ scope

variable {V} {names scope : List String}

lemma extend_of_untracked (h : ∀ name ∈ names, V.tracks name = false) : V.extend names scope = scope := by
  have hfilter : names.filter V.tracks = [] := List.filter_eq_nil_iff.2 fun name hname => by simp [h name hname]
  rw [extend, hfilter, List.nil_append]

lemma forall_mem_extend {P : String → Prop} (hnames : ∀ name ∈ names, P name) (hscope : ∀ name ∈ scope, P name) :
    ∀ name ∈ V.extend names scope, P name :=
  List.forall_mem_append.2 ⟨fun name hmem => hnames name (List.mem_filter.1 hmem).1, hscope⟩

end Vocabulary

def Stmt.declared : List Stmt → List String
  | [] => []
  | .declare _ name _ :: ss => name :: Stmt.declared ss
  | _ :: ss => Stmt.declared ss

lemma Stmt.declared_cons (s : Stmt) (ss : List Stmt) : Stmt.declared (s :: ss) = Stmt.declared [s] ++ Stmt.declared ss := by
  cases s <;> simp [Stmt.declared]

section Within

variable (V : Vocabulary)

mutual

def Expr.Within (scope : List String) : Expr → Prop
  | .identifier name => V.refers scope name
  | .literal value => V.literal value
  | .array parts => Item.AllWithin scope parts
  | .object parts => Property.AllWithin scope parts
  | .member object name => object.Within scope ∧ V.member name
  | .index object index => object.Within scope ∧ index.Within scope
  | .call callee arguments => callee.Within scope ∧ Item.AllWithin scope arguments
  | .not operand => operand.Within scope
  | .binary _ left right => left.Within scope ∧ right.Within scope
  | .conditional test consequent alternate => test.Within scope ∧ consequent.Within scope ∧ alternate.Within scope
  | .arrow params body => (∀ name ∈ params, V.binds name) ∧ body.Within (V.extend params scope)
  | .markup _ => False

def Item.AllWithin (scope : List String) : List Item → Prop
  | [] => True
  | .single value :: parts => value.Within scope ∧ Item.AllWithin scope parts
  | .spread source :: parts => source.Within scope ∧ Item.AllWithin scope parts

def Property.AllWithin (scope : List String) : List Property → Prop
  | [] => True
  | .keyed _ value :: parts => value.Within scope ∧ Property.AllWithin scope parts
  | .spread source :: parts => source.Within scope ∧ Property.AllWithin scope parts

def Body.Within (scope : List String) : Body → Prop
  | .expression value => value.Within scope
  | .block ss => Stmt.AllWithin (V.extend (Stmt.declared ss) scope) ss

def Stmt.Within (scope : List String) : Stmt → Prop
  | .importModule name _ => V.binds name
  | .declare _ name value => V.binds name ∧ value.Within scope
  | .expression value => value.Within scope
  | .branch test consequent none => test.Within scope ∧ consequent.Within scope
  | .branch test consequent (some alternate) => test.Within scope ∧ consequent.Within scope ∧ alternate.Within scope
  | .block ss => Stmt.AllWithin (V.extend (Stmt.declared ss) scope) ss
  | .forOf name source body => V.binds name ∧ source.Within scope ∧ body.Within (V.extend [name] scope)
  | .leave none => True
  | .leave (some value) => value.Within scope

def Stmt.AllWithin (scope : List String) : List Stmt → Prop
  | [] => True
  | s :: ss => s.Within scope ∧ Stmt.AllWithin scope ss

end

abbrev Program.Within (p : Program) : Prop := Stmt.AllWithin V (V.extend (Stmt.declared p) []) p

end Within

section Lists

variable {V : Vocabulary} {scope : List String}

lemma Item.allWithin_map_single {es : List Expr} :
    Item.AllWithin V scope (es.map .single) ↔ ∀ e ∈ es, e.Within V scope := by
  induction es with
  | nil => simp [Item.AllWithin]
  | cons e es ih => simp [Item.AllWithin, ih]

lemma Property.allWithin_keyed {entries : List (String × Expr)} :
    Property.AllWithin V scope (entries.map fun (name, value) => .keyed name value) ↔ ∀ e ∈ entries, e.2.Within V scope := by
  induction entries with
  | nil => simp [Property.AllWithin]
  | cons e es ih => simp [Property.AllWithin, ih]

lemma Stmt.allWithin_iff {ss : List Stmt} : Stmt.AllWithin V scope ss ↔ ∀ s ∈ ss, s.Within V scope := by
  induction ss with
  | nil => simp [Stmt.AllWithin]
  | cons s ss ih => simp [Stmt.AllWithin, ih]

lemma Expr.within_callWith {callee : Expr} {arguments : List Expr} :
    (Expr.callWith callee arguments).Within V scope ↔ callee.Within V scope ∧ ∀ a ∈ arguments, a.Within V scope := by
  rw [Expr.callWith, Expr.Within, Item.allWithin_map_single]

lemma Expr.within_concat {es : List Expr} (hempty : V.literal (.string "" none)) (h : ∀ e ∈ es, e.Within V scope) :
    (Expr.concat es).Within V scope := by
  cases es with
  | nil => rwa [Expr.concat, Expr.string, Expr.Within]
  | cons e es =>
    obtain ⟨he, hes⟩ := List.forall_mem_cons.1 h
    rw [Expr.concat]
    clear h
    induction es generalizing e with
    | nil => exact he
    | cons e' es ih =>
      obtain ⟨he', hes⟩ := List.forall_mem_cons.1 hes
      refine ih (.binary .add e e') ?_ hes
      rw [Expr.Within]
      exact ⟨he, he'⟩

end Lists

end TemplateScript
