import TemplateScript.Proofs.Evaluation.Growth
import TemplateScript.Proofs.Script.Equivalence

/-! A pairing says which identities, frames and sinks of one store stand for which ones of the other. The
second store may have frames in its scopes that the first has not, as long as they bind no name that is looked up;
and frames may stand for others together, in groups in which every name has corresponding values. -/

namespace TemplateScript

mutual

inductive Expr.Alike (V : String → Prop) : Expr → Expr → Prop
  | identifier {name : String} : V name → Expr.Alike V (.identifier name) (.identifier name)
  | literal {a b : Literal} : Evaluation.literal a = Evaluation.literal b → Expr.Alike V (.literal a) (.literal b)
  | array {parts parts' : List Item} :
    List.Forall₂ (Item.Alike V) parts parts' → Expr.Alike V (.array parts) (.array parts')
  | object {parts parts' : List Property} :
    List.Forall₂ (Property.Alike V) parts parts' → Expr.Alike V (.object parts) (.object parts')
  | member {object object' : Expr} (name : String) :
    Expr.Alike V object object' → Expr.Alike V (.member object name) (.member object' name)
  | index {object object' index index' : Expr} :
    Expr.Alike V object object' → Expr.Alike V index index' →
      Expr.Alike V (.index object index) (.index object' index')
  | call {callee callee' : Expr} {arguments arguments' : List Item} :
    Expr.Alike V callee callee' → List.Forall₂ (Item.Alike V) arguments arguments' →
      Expr.Alike V (.call callee arguments) (.call callee' arguments')
  | not {operand operand' : Expr} : Expr.Alike V operand operand' → Expr.Alike V (.not operand) (.not operand')
  | binary (op : BinaryOp) {left left' right right' : Expr} :
    Expr.Alike V left left' → Expr.Alike V right right' →
      Expr.Alike V (.binary op left right) (.binary op left' right')
  | conditional {test test' consequent consequent' alternate alternate' : Expr} :
    Expr.Alike V test test' → Expr.Alike V consequent consequent' → Expr.Alike V alternate alternate' →
      Expr.Alike V (.conditional test consequent alternate) (.conditional test' consequent' alternate')
  | arrow (params : List String) {body body' : Body} :
    Body.Alike V body body' → Expr.Alike V (.arrow params body) (.arrow params body')
  | markup {node node' : Markup} : node.canonical = node'.canonical → Expr.Alike V (.markup node) (.markup node')

inductive Item.Alike (V : String → Prop) : Item → Item → Prop
  | single {value value' : Expr} : Expr.Alike V value value' → Item.Alike V (.single value) (.single value')
  | spread {source source' : Expr} : Expr.Alike V source source' → Item.Alike V (.spread source) (.spread source')

inductive Property.Alike (V : String → Prop) : Property → Property → Prop
  | keyed (key : String) {value value' : Expr} :
    Expr.Alike V value value' → Property.Alike V (.keyed key value) (.keyed key value')
  | spread {source source' : Expr} :
    Expr.Alike V source source' → Property.Alike V (.spread source) (.spread source')

inductive Body.Alike (V : String → Prop) : Body → Body → Prop
  | expression {value value' : Expr} :
    Expr.Alike V value value' → Body.Alike V (.expression value) (.expression value')
  | block {ss ss' : List Stmt} : List.Forall₂ (Stmt.Alike V) ss ss' → Body.Alike V (.block ss) (.block ss')

inductive Stmt.Alike (V : String → Prop) : Stmt → Stmt → Prop
  | importModule (name path : String) : Stmt.Alike V (.importModule name path) (.importModule name path)
  | declare (kind : Binding) (name : String) {value value' : Expr} :
    Expr.Alike V value value' → Stmt.Alike V (.declare kind name value) (.declare kind name value')
  | expression {value value' : Expr} :
    Expr.Alike V value value' → Stmt.Alike V (.expression value) (.expression value')
  | branch {test test' : Expr} {consequent consequent' : Stmt} {alternate alternate' : Option Stmt} :
    Expr.Alike V test test' → Stmt.AlikeBodies V consequent consequent' →
      Option.Rel (Stmt.AlikeBodies V) alternate alternate' →
      Stmt.Alike V (.branch test consequent alternate) (.branch test' consequent' alternate')
  | block {ss ss' : List Stmt} : List.Forall₂ (Stmt.Alike V) ss ss' → Stmt.Alike V (.block ss) (.block ss')
  | forOf (name : String) {source source' : Expr} {body body' : Stmt} :
    Expr.Alike V source source' → Stmt.AlikeBodies V body body' →
      Stmt.Alike V (.forOf name source body) (.forOf name source' body')
  | leave {value value' : Option Expr} :
    Option.Rel (Expr.Alike V) value value' → Stmt.Alike V (.leave value) (.leave value')

inductive Stmt.AlikeBodies (V : String → Prop) : Stmt → Stmt → Prop
  | same {s s' : Stmt} : Stmt.Alike V s s' → Stmt.AlikeBodies V s s'
  | braced {s s' : Stmt} : s.parts = [s] → Stmt.Alike V s s' → Stmt.AlikeBodies V s (.block [s'])
  | unbraced {s s' : Stmt} : s'.parts = [s'] → Stmt.Alike V s s' → Stmt.AlikeBodies V (.block [s]) s'

end

/-- What two stores have in common: which parts stand for one another, which groups of frames do so together,
and which names the frames that only the second store has do not bind. -/
structure Pairing where
  identities : Nat → Nat → Prop
  frames : Nat → Nat → Prop
  groups : Scope → Scope → Prop
  sinks : Nat → Nat → Prop
  hidden : Nat → String → Prop

structure Pairing.Le (p q : Pairing) : Prop where
  identities {i j : Nat} : p.identities i j → q.identities i j
  frames {i j : Nat} : p.frames i j → q.frames i j
  groups {a b : Scope} : p.groups a b → q.groups a b
  sinks {i j : Nat} : p.sinks i j → q.sinks i j
  hidden {j : Nat} {name : String} : p.hidden j name → q.hidden j name

instance : Preorder Pairing where
  le := Pairing.Le
  le_refl _ := ⟨id, id, id, id, id⟩
  le_trans _ _ _ h h' := ⟨fun hi => h'.identities (h.identities hi), fun hf => h'.frames (h.frames hf),
    fun hg => h'.groups (h.groups hg), fun hs => h'.sinks (h.sinks hs), fun hh => h'.hidden (h.hidden hh)⟩

/-- Scopes of corresponding frames and groups of frames. The second scope may have more frames, which bind
none of the names in `V`. -/
inductive Scope.Match (p : Pairing) (V : String → Prop) : Scope → Scope → Prop
  | nil : Scope.Match p V [] []
  | cons {i j : Nat} {outer outer' : Scope} :
    p.frames i j → Scope.Match p V outer outer' → Scope.Match p V (i :: outer) (j :: outer')
  | group {a b outer outer' : Scope} :
    p.groups a b → Scope.Match p V outer outer' → Scope.Match p V (a ++ outer) (b ++ outer')
  | hidden {j : Nat} {outer outer' : Scope} :
    (∀ name, V name → p.hidden j name) → Scope.Match p V outer outer' → Scope.Match p V outer (j :: outer')

inductive Entries.Rel {α β : Type} (R : α → β → Prop) : String × α → String × β → Prop
  | mk (name : String) {a : α} {b : β} : R a b → Entries.Rel R (name, a) (name, b)

inductive Value.Match (p : Pairing) : Value → Value → Prop
  | undefined : Value.Match p .undefined .undefined
  | null : Value.Match p .null .null
  | bool (value : Bool) : Value.Match p (.bool value) (.bool value)
  | number (value : Number) : Value.Match p (.number value) (.number value)
  | string (value : String) : Value.Match p (.string value) (.string value)
  | array {i j : Nat} {xs ys : List Value} :
    p.identities i j → List.Forall₂ (Value.Match p) xs ys → Value.Match p (.array i xs) (.array j ys)
  | object {i j : Nat} {xs ys : List (String × Value)} :
    p.identities i j → List.Forall₂ (Entries.Rel (Value.Match p)) xs ys →
      Value.Match p (.object i xs) (.object j ys)
  | closure {i j : Nat} {params : List String} {body body' : Body} {outer outer' : Scope} (V : String → Prop) :
    p.identities i j → Body.Alike V body body' → Scope.Match p V outer outer' →
      Value.Match p (.closure i params body outer) (.closure j params body' outer')
  | native (function : Native) : Value.Match p (.native function) (.native function)
  | stream {x y : StreamNode Value} : StreamNode.Rel (Value.Match p) x y → Value.Match p (.stream x) (.stream y)
  | safe (html : String) : Value.Match p (.safe html) (.safe html)
  | sink {i j : Nat} : p.sinks i j → Value.Match p (.sink i) (.sink j)
  | builder (r : Representation) : Value.Match p (.builder r) (.builder r)

abbrev Fields.Match (p : Pairing) : List (String × Value) → List (String × Value) → Prop :=
  List.Forall₂ (Entries.Rel (Value.Match p))

def Pairing.OneToOne (R : Nat → Nat → Prop) : Prop := ∀ i j i' j', R i j → R i' j' → (i = i' ↔ j = j')

structure Pairing.Apart (groups : Scope → Scope → Prop) (frames : Nat → Nat → Prop) (hidden : Nat → String → Prop) :
    Prop where
  nodup {a b : Scope} : groups a b → a.Nodup ∧ b.Nodup
  left {a b a' b' : Scope} {i : Nat} : groups a b → groups a' b' → i ∈ a → i ∈ a' → a = a' ∧ b = b'
  right {a b a' b' : Scope} {j : Nat} : groups a b → groups a' b' → j ∈ b → j ∈ b' → a = a' ∧ b = b'
  frames {a b : Scope} {i j : Nat} : groups a b → frames i j → i ∉ a ∧ j ∉ b
  hidden {a b : Scope} {j : Nat} {name : String} : groups a b → hidden j name → j ∉ b

structure Store.Groups (p : Pairing) (s t : Store) (a b : Scope) : Prop where
  left (i : Nat) : i ∈ a → ∃ es fs, s.frames[i]? = some es ∧ Fields.Match p es fs
  right (j : Nat) : j ∈ b → j < t.frames.size
  get? (name : String) : Option.Rel (Value.Match p) (s.get? name a) (t.get? name b)

structure Store.Match (p : Pairing) (s t : Store) : Prop where
  identities_lt {i j : Nat} : p.identities i j → i < s.identities ∧ j < t.identities
  identities_oneToOne : Pairing.OneToOne p.identities
  frames {i j : Nat} : p.frames i j → ∃ es fs, s.frames[i]? = some es ∧ t.frames[j]? = some fs ∧
    Fields.Match p es fs
  frames_oneToOne : Pairing.OneToOne p.frames
  groups {a b : Scope} : p.groups a b → Store.Groups p s t a b
  apart : Pairing.Apart p.groups p.frames p.hidden
  sinks_lt {i j : Nat} : p.sinks i j → i < s.sinks.size ∧ j < t.sinks.size
  sinks_oneToOne : Pairing.OneToOne p.sinks
  hidden {j : Nat} {name : String} : p.hidden j name → ∃ fs, t.frames[j]? = some fs ∧
    Entries.get? name fs = none
  hidden_not_paired {i j : Nat} {name : String} : p.hidden j name → ¬ p.frames i j

section Mono

variable {p q : Pairing}

lemma Scope.Match.mono (hpq : p ≤ q) {V : String → Prop} {a b : Scope} (h : Scope.Match p V a b) :
    Scope.Match q V a b := by
  induction h with
  | nil => exact .nil
  | cons hf _ ih => exact .cons (hpq.frames hf) ih
  | group hg _ ih => exact .group (hpq.groups hg) ih
  | hidden hh _ ih => exact .hidden (fun name hn => hpq.hidden (hh name hn)) ih

mutual

lemma Value.Match.mono (hpq : p ≤ q) : {a b : Value} → Value.Match p a b → Value.Match q a b
  | _, _, .undefined => .undefined
  | _, _, .null => .null
  | _, _, .bool value => .bool value
  | _, _, .number value => .number value
  | _, _, .string value => .string value
  | _, _, .array hi hs => .array (hpq.identities hi) (Value.Match.mono_all hpq hs)
  | _, _, .object hi hs => .object (hpq.identities hi) (Fields.Match.mono hpq hs)
  | _, _, .closure V hi hb ho => .closure V (hpq.identities hi) hb (ho.mono hpq)
  | _, _, .native function => .native function
  | _, _, .stream h => .stream (StreamNode.Rel.mono_match hpq h)
  | _, _, .safe html => .safe html
  | _, _, .sink h => .sink (hpq.sinks h)
  | _, _, .builder r => .builder r
termination_by structural a => a

lemma Value.Match.mono_all (hpq : p ≤ q) : {xs ys : List Value} → List.Forall₂ (Value.Match p) xs ys →
    List.Forall₂ (Value.Match q) xs ys
  | _, _, .nil => .nil
  | _, _, .cons h hs => .cons (Value.Match.mono hpq h) (Value.Match.mono_all hpq hs)
termination_by structural xs => xs

lemma Fields.Match.mono (hpq : p ≤ q) : {xs ys : List (String × Value)} → Fields.Match p xs ys →
    Fields.Match q xs ys
  | _, _, .nil => .nil
  | _, _, .cons (.mk name h) hs => .cons (.mk name (Value.Match.mono hpq h)) (Fields.Match.mono hpq hs)
termination_by structural xs => xs

lemma StreamNode.Rel.mono_match (hpq : p ≤ q) : {x y : StreamNode Value} →
    StreamNode.Rel (Value.Match p) x y → StreamNode.Rel (Value.Match q) x y
  | _, _, .text escaped => .text escaped
  | _, _, .prerendered payload => .prerendered payload
  | _, _, .element tag attributes hs => .element tag attributes (StreamNode.Rel.mono_match_all hpq hs)
  | _, _, .generated kind h => .generated kind (Value.Match.mono hpq h)
  | _, _, .patched attributes clear h hb ha =>
    .patched attributes clear (StreamNode.Rel.mono_match hpq h) (StreamNode.Rel.mono_match_all hpq hb)
      (StreamNode.Rel.mono_match_all hpq ha)
termination_by structural x => x

lemma StreamNode.Rel.mono_match_all (hpq : p ≤ q) : {xs ys : List (StreamNode Value)} →
    List.Forall₂ (StreamNode.Rel (Value.Match p)) xs ys → List.Forall₂ (StreamNode.Rel (Value.Match q)) xs ys
  | _, _, .nil => .nil
  | _, _, .cons h hs => .cons (StreamNode.Rel.mono_match hpq h) (StreamNode.Rel.mono_match_all hpq hs)
termination_by structural xs => xs

end

end Mono

section Groups

variable {p : Pairing} {s s' t t' : Store} {a b : Scope}

lemma Value.Match.mono_option {q : Pairing} (hpq : p ≤ q) {x y : Option Value} (h : Option.Rel (Value.Match p) x y) :
    Option.Rel (Value.Match q) x y := by
  cases h with
  | none => exact .none
  | some hv => exact .some (hv.mono hpq)

lemma Store.Groups.mono {q : Pairing} (hpq : p ≤ q) (h : Store.Groups p s t a b) : Store.Groups q s t a b where
  left i hi := by
    obtain ⟨es, fs, he, hm⟩ := h.left i hi
    exact ⟨es, fs, he, hm.mono hpq⟩
  right := h.right
  get? name := Value.Match.mono_option hpq (h.get? name)

lemma Store.get?_congr {scope : Scope} (h : ∀ i ∈ scope, s'.frames[i]? = s.frames[i]?) (name : String) :
    s'.get? name scope = s.get? name scope := by
  induction scope with
  | nil => rfl
  | cons frame outer ih =>
    simp only [Store.get?, h frame List.mem_cons_self, ih fun i hi => h i (List.mem_cons_of_mem _ hi)]

lemma Store.get?_append (s : Store) (name : String) (inner outer : Scope) :
    s.get? name (inner ++ outer) = (s.get? name inner).or (s.get? name outer) := by
  induction inner with
  | nil => rfl
  | cons frame inner ih =>
    simp only [List.cons_append, Store.get?, ih]
    cases Entries.get? name (s.frames[frame]?.getD []) <;> rfl

lemma Store.Groups.congr (h : Store.Groups p s t a b) (hs : ∀ i ∈ a, s'.frames[i]? = s.frames[i]?)
    (ht : ∀ j ∈ b, t'.frames[j]? = t.frames[j]?) : Store.Groups p s' t' a b where
  left i hi := by
    obtain ⟨es, fs, he, hm⟩ := h.left i hi
    exact ⟨es, fs, (hs i hi).trans he, hm⟩
  right j hj := by
    have hlt := h.right j hj
    have he := ht j hj
    grind
  get? name := by
    rw [Store.get?_congr hs, Store.get?_congr ht]
    exact h.get? name

lemma Store.Groups.left_lt (h : Store.Groups p s t a b) {i : Nat} (hi : i ∈ a) : i < s.frames.size := by
  obtain ⟨es, fs, he, -⟩ := h.left i hi
  exact (Array.getElem?_eq_some_iff.1 he).1

lemma Store.Groups.grow (h : Store.Groups p s t a b) (hs : Store.Grows none s s') (ht : Store.Grows none t t') :
    Store.Groups p s' t' a b :=
  h.congr (fun i hi => hs.frames i (h.left_lt hi) (by simp)) fun j hj => ht.frames j (h.right j hj) (by simp)

end Groups

lemma Store.Match.grow {p : Pairing} {s s' t t' : Store} (h : Store.Match p s t) (hs : Store.Grows none s s')
    (ht : Store.Grows none t t') : Store.Match p s' t' where
  identities_lt hi :=
    ⟨(h.identities_lt hi).1.trans_le hs.identities, (h.identities_lt hi).2.trans_le ht.identities⟩
  identities_oneToOne := h.identities_oneToOne
  frames {i j} hf := by
    obtain ⟨es, fs, he, hf, hm⟩ := h.frames hf
    have hi := hs.frames i (by grind) (by simp)
    have hj := ht.frames j (by grind) (by simp)
    exact ⟨es, fs, hi.trans he, hj.trans hf, hm⟩
  frames_oneToOne := h.frames_oneToOne
  groups hg := (h.groups hg).grow hs ht
  apart := h.apart
  sinks_lt hi := ⟨(h.sinks_lt hi).1.trans_le hs.sinks, (h.sinks_lt hi).2.trans_le ht.sinks⟩
  sinks_oneToOne := h.sinks_oneToOne
  hidden {j name} hj := by
    obtain ⟨fs, hf, hn⟩ := h.hidden hj
    exact ⟨fs, (ht.frames j (by grind) (by simp)).trans hf, hn⟩
  hidden_not_paired := h.hidden_not_paired

end TemplateScript
