import TemplateScript.Proofs.Evaluation.Simulation

/-!
Closed stores: no value that is bound in one refers to an identity, a frame or a sink that the store does
not have. A closed store corresponds to itself, so that evaluation keeps it closed.
-/

namespace TemplateScript

section Refl

abbrev AnyName : String → Prop := fun _ => True

mutual

lemma Expr.Alike.refl : (e : Expr) → Expr.Alike AnyName e e
  | .identifier _ => .identifier trivial
  | .literal _ => .literal rfl
  | .array parts => .array (Item.Alike.refl_all parts)
  | .object parts => .object (Property.Alike.refl_all parts)
  | .member object name => .member name (Expr.Alike.refl object)
  | .index object index => .index (Expr.Alike.refl object) (Expr.Alike.refl index)
  | .call callee arguments => .call (Expr.Alike.refl callee) (Item.Alike.refl_all arguments)
  | .not operand => .not (Expr.Alike.refl operand)
  | .binary op left right => .binary op (Expr.Alike.refl left) (Expr.Alike.refl right)
  | .conditional test consequent alternate =>
    .conditional (Expr.Alike.refl test) (Expr.Alike.refl consequent) (Expr.Alike.refl alternate)
  | .arrow params body => .arrow params (Body.Alike.refl body)
  | .markup _ => .markup rfl

lemma Item.Alike.refl_all : (parts : List Item) → List.Forall₂ (Item.Alike AnyName) parts parts
  | [] => .nil
  | .single value :: parts => .cons (.single (Expr.Alike.refl value)) (Item.Alike.refl_all parts)
  | .spread source :: parts => .cons (.spread (Expr.Alike.refl source)) (Item.Alike.refl_all parts)

lemma Property.Alike.refl_all : (parts : List Property) → List.Forall₂ (Property.Alike AnyName) parts parts
  | [] => .nil
  | .keyed key value :: parts => .cons (.keyed key (Expr.Alike.refl value)) (Property.Alike.refl_all parts)
  | .spread source :: parts => .cons (.spread (Expr.Alike.refl source)) (Property.Alike.refl_all parts)

lemma Body.Alike.refl : (body : Body) → Body.Alike AnyName body body
  | .expression value => .expression (Expr.Alike.refl value)
  | .block ss => .block (Stmt.Alike.refl_all ss)

lemma Stmt.Alike.refl : (s : Stmt) → Stmt.Alike AnyName s s
  | .importModule name path => .importModule name path
  | .declare kind name value => .declare kind name (Expr.Alike.refl value)
  | .expression value => .expression (Expr.Alike.refl value)
  | .branch test consequent none => .branch (Expr.Alike.refl test) (.same (Stmt.Alike.refl consequent)) .none
  | .branch test consequent (some alternate) =>
    .branch (Expr.Alike.refl test) (.same (Stmt.Alike.refl consequent)) (.some (.same (Stmt.Alike.refl alternate)))
  | .block ss => .block (Stmt.Alike.refl_all ss)
  | .forOf name source body => .forOf name (Expr.Alike.refl source) (.same (Stmt.Alike.refl body))
  | .leave none => .leave .none
  | .leave (some value) => .leave (.some (Expr.Alike.refl value))

lemma Stmt.Alike.refl_all : (ss : List Stmt) → List.Forall₂ (Stmt.Alike AnyName) ss ss
  | [] => .nil
  | s :: ss => .cons (Stmt.Alike.refl s) (Stmt.Alike.refl_all ss)

end

end Refl

def Pairing.same (s : Store) : Pairing where
  identities i j := i = j ∧ i < s.identities
  frames i j := i = j ∧ i < s.frames.size
  groups _ _ := False
  sinks i j := i = j ∧ i < s.sinks.size
  hidden _ _ := False

def Value.In (s : Store) (v : Value) : Prop := Value.Match (.same s) v v

def Scope.In (s : Store) (scope : Scope) : Prop := ∀ frame ∈ scope, frame < s.frames.size

def Store.Closed (s : Store) : Prop :=
  ∀ (frame : Nat) (bindings : List (String × Value)), s.frames[frame]? = some bindings →
    Fields.Match (.same s) bindings bindings

lemma Pairing.same_le {c : Option Nat} {s t : Store} (h : Store.Grows c s t) : Pairing.same s ≤ .same t :=
  ⟨fun hi => ⟨hi.1, hi.2.trans_le h.identities⟩, fun hi => ⟨hi.1, hi.2.trans_le h.size⟩, id,
    fun hi => ⟨hi.1, hi.2.trans_le h.sinks⟩, id⟩

lemma Scope.In.match {s : Store} {scope : Scope} (h : scope.In s) (V : String → Prop) :
    Scope.Match (.same s) V scope scope := by
  induction scope with
  | nil => exact .nil
  | cons frame outer ih =>
    refine .cons ⟨rfl, h frame List.mem_cons_self⟩ (ih fun f hf => h f (List.mem_cons_of_mem _ hf))

lemma Store.Closed.match {s : Store} (h : s.Closed) : Store.Match (.same s) s s where
  identities_lt := by
    rintro i _ ⟨rfl, hi⟩
    exact ⟨hi, hi⟩
  identities_oneToOne := by
    rintro i _ i' _ ⟨rfl, -⟩ ⟨rfl, -⟩
    rfl
  frames := by
    rintro i _ ⟨rfl, hi⟩
    have he : s.frames[i]? = some s.frames[i] := Array.getElem?_eq_getElem hi
    exact ⟨_, _, he, he, h i _ he⟩
  frames_oneToOne := by
    rintro i _ i' _ ⟨rfl, -⟩ ⟨rfl, -⟩
    rfl
  groups := False.elim
  apart := ⟨False.elim, False.elim, False.elim, False.elim, False.elim⟩
  sinks_lt := by
    rintro i _ ⟨rfl, hi⟩
    exact ⟨hi, hi⟩
  sinks_oneToOne := by
    rintro i _ i' _ ⟨rfl, -⟩ ⟨rfl, -⟩
    rfl
  hidden := False.elim
  hidden_not_paired := False.elim

section Projection

variable {p : Pairing} {s t : Store}

lemma Scope.Match.in_left (h : Store.Match p s t) {V : String → Prop} {a b : Scope} (hs : Scope.Match p V a b) :
    a.In s := by
  induction hs with
  | nil => simp [Scope.In]
  | cons hf _ ih =>
    intro frame hm
    rcases List.mem_cons.1 hm with rfl | hm
    · exact (h.frames_lt hf).1
    · exact ih frame hm
  | group hg _ ih =>
    intro frame hm
    rcases List.mem_append.1 hm with hm | hm
    · exact (h.groups hg).left_lt hm
    · exact ih frame hm
  | hidden _ _ ih => exact ih

mutual

lemma Value.Match.in_left (h : Store.Match p s t) : {a b : Value} → Value.Match p a b →
    Value.Match (.same s) a a
  | _, _, .undefined => .undefined
  | _, _, .null => .null
  | _, _, .bool value => .bool value
  | _, _, .number value => .number value
  | _, _, .string value => .string value
  | _, _, .array hi hs => .array ⟨rfl, (h.identities_lt hi).1⟩ (Value.Match.in_left_all h hs)
  | _, _, .object hi hs => .object ⟨rfl, (h.identities_lt hi).1⟩ (Fields.Match.in_left h hs)
  | _, _, .closure _ hi _ ho =>
    .closure AnyName ⟨rfl, (h.identities_lt hi).1⟩ (Body.Alike.refl _) ((ho.in_left h).match _)
  | _, _, .native function => .native function
  | _, _, .stream hx => .stream (StreamNode.Rel.in_left h hx)
  | _, _, .safe html => .safe html
  | _, _, .sink hi => .sink ⟨rfl, (h.sinks_lt hi).1⟩
  | _, _, .builder r => .builder r
termination_by structural a => a

lemma Value.Match.in_left_all (h : Store.Match p s t) : {xs ys : List Value} → Values.Match p xs ys →
    Values.Match (.same s) xs xs
  | _, _, .nil => .nil
  | _, _, .cons hv hs => .cons (Value.Match.in_left h hv) (Value.Match.in_left_all h hs)
termination_by structural xs => xs

lemma Fields.Match.in_left (h : Store.Match p s t) : {xs ys : List (String × Value)} → Fields.Match p xs ys →
    Fields.Match (.same s) xs xs
  | _, _, .nil => .nil
  | _, _, .cons (.mk name hv) hs => .cons (.mk name (Value.Match.in_left h hv)) (Fields.Match.in_left h hs)
termination_by structural xs => xs

lemma StreamNode.Rel.in_left (h : Store.Match p s t) : {x y : StreamNode Value} →
    StreamNode.Rel (Value.Match p) x y → StreamNode.Rel (Value.Match (.same s)) x x
  | _, _, .text escaped => .text escaped
  | _, _, .prerendered payload => .prerendered payload
  | _, _, .element tag attributes hs => .element tag attributes (StreamNode.Rel.in_left_all h hs)
  | _, _, .generated kind hc => .generated kind (Value.Match.in_left h hc)
  | _, _, .patched attributes clear hx hb ha =>
    .patched attributes clear (StreamNode.Rel.in_left h hx) (StreamNode.Rel.in_left_all h hb)
      (StreamNode.Rel.in_left_all h ha)
termination_by structural x => x

lemma StreamNode.Rel.in_left_all (h : Store.Match p s t) : {xs ys : List (StreamNode Value)} →
    List.Forall₂ (StreamNode.Rel (Value.Match p)) xs ys →
    List.Forall₂ (StreamNode.Rel (Value.Match (.same s))) xs xs
  | _, _, .nil => .nil
  | _, _, .cons hx hs => .cons (StreamNode.Rel.in_left h hx) (StreamNode.Rel.in_left_all h hs)
termination_by structural xs => xs

end

end Projection

lemma Advance.closed {q : Pairing} {s s' t' : Store} (h : Advance (.same s) q s s s' t') : s'.Closed := by
  intro frame bindings hb
  obtain ⟨hlt, -⟩ := Array.getElem?_eq_some_iff.1 hb
  have hq : (∃ j, q.frames frame j) ∨ ∃ a b, q.groups a b ∧ frame ∈ a := by
    by_cases hold : frame < s.frames.size
    · exact .inl ⟨frame, h.le.frames ⟨rfl, hold⟩⟩
    · exact h.paired frame (not_lt.1 hold) hlt
  have hm : ∃ es fs, s'.frames[frame]? = some es ∧ Fields.Match q es fs := by
    rcases hq with ⟨j, hj⟩ | ⟨a, b, hg, ha⟩
    · obtain ⟨es, fs, he, -, hm⟩ := h.stores.frames hj
      exact ⟨es, fs, he, hm⟩
    · exact (h.stores.groups hg).left frame ha
  obtain ⟨es, fs, he, hm⟩ := hm
  obtain rfl : bindings = es := Option.some.inj (hb.symm.trans he)
  exact Fields.Match.in_left h.stores hm

namespace Evaluation

theorem expression_closed {s t : Store} (hs : s.Closed) {scope : Scope} (hscope : scope.In s) {n : Nat} {e : Expr}
    {v : Value} (h : expression (callWithin n) scope e s = .ok v t) : t.Closed ∧ v.In t := by
  have ho := expression_follows (callWithin_follows n) (hscope.match AnyName) (Expr.Alike.refl e) s s hs.match
  rw [h] at ho
  cases ho with
  | ok had hv => exact ⟨had.closed, Value.Match.in_left had.stores hv⟩

theorem program_closed {s t : Store} (hs : s.Closed) {modules : Modules}
    (hmodules : Fields.Match (.same s) modules modules) {frame : Nat} {outer : Scope}
    (hscope : Scope.In s (frame :: outer)) {n : Nat} {code : Program}
    (h : program (callWithin n) modules (frame :: outer) code s = .ok () t) : t.Closed := by
  have hf : (Pairing.same s).frames frame frame := ⟨rfl, hscope frame List.mem_cons_self⟩
  have ho := program_follows (callWithin_follows n) hmodules (.inl hf) (hscope.match AnyName)
    (Stmt.Alike.refl_all code) s s hs.match
  rw [h] at ho
  cases ho with
  | ok had _ => exact had.closed

end Evaluation

end TemplateScript
