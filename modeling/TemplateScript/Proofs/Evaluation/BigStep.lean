import TemplateScript.Proofs.Evaluation.Closed
import TemplateScript.Proofs.Evaluation.Convergence

/-!
Evaluation without a bound. An expression evaluates to a value if it does so within some depth of calls, and
what a compound expression evaluates to is said by what its parts evaluate to, one after the other.
-/

namespace TemplateScript

section Yields

variable {α β σ : Type}

/-- Within some depth, the computation ends with the answer in the state `t`. -/
def Yields (m : Nat → EStateM Halt σ α) (s : σ) (a : α) (t : σ) : Prop := ∃ n, m n s = .ok a t

lemma Steady.const (m : EStateM Halt σ α) : Steady fun _ => m := fun _ _ _ => .refl m

lemma Steady.bind {m : Nat → EStateM Halt σ α} {f : Nat → α → EStateM Halt σ β} (hm : Steady m)
    (hf : ∀ a, Steady fun n => f n a) : Steady fun n => m n >>= f n :=
  fun n k hk => (hm n k hk).bind fun a => hf a n k hk

namespace Yields

variable {m : Nat → EStateM Halt σ α} {f : Nat → α → EStateM Halt σ β} {s t u : σ} {a b : α}

lemma const {m : EStateM Halt σ α} : Yields (fun _ => m) s a t ↔ m s = .ok a t :=
  ⟨fun ⟨_, h⟩ => h, fun h => ⟨0, h⟩⟩

lemma pure : Yields (fun _ => (Pure.pure a : EStateM Halt σ α)) s b t ↔ a = b ∧ s = t :=
  const.trans (EStateM.Result.ok.injEq ..).to_iff

lemma unique (hm : Steady m) (h : Yields m s a t) (h' : Yields m s b u) : a = b ∧ t = u := by
  obtain ⟨n, hn⟩ := h
  obtain ⟨k, hk⟩ := h'
  have he := (hm.ok hn k).symm.trans (Nat.add_comm n k ▸ hm.ok hk n)
  exact EStateM.Result.ok.inj he

lemma bind {b : β} (hm : Steady m) (hf : ∀ a, Steady fun n => f n a) :
    Yields (fun n => m n >>= f n) s b u ↔ ∃ a t, Yields m s a t ∧ Yields (fun n => f n a) t b u := by
  constructor
  · rintro ⟨n, h⟩
    obtain ⟨a, t, ha, hb⟩ := run_bind_eq_ok.1 h
    exact ⟨a, t, ⟨n, ha⟩, n, hb⟩
  · rintro ⟨a, t, ⟨n, ha⟩, k, hb⟩
    have hb' := (hf a).ok hb n
    rw [Nat.add_comm] at hb'
    exact ⟨n + k, run_bind_eq_ok.2 ⟨a, t, hm.ok ha k, hb'⟩⟩

lemma bind_const {b : β} {f : α → EStateM Halt σ β} (hm : Steady m) :
    Yields (fun n => m n >>= f) s b u ↔ ∃ a t, Yields m s a t ∧ f a t = .ok b u := by
  refine (bind hm fun a => ?_).trans ?_
  · exact .const (f a)
  · simp only [const]

end Yields

end Yields

namespace Evaluation

abbrev Evaluates (scope : Scope) (e : Expr) : Store → Value → Store → Prop :=
  Yields fun n => expression (callWithin n) scope e

abbrev ItemsYield (scope : Scope) (parts : List Item) : Store → List Value → Store → Prop :=
  Yields fun n => items (callWithin n) scope parts

abbrev FieldsYield (scope : Scope) (entries : List (String × Value)) (parts : List Property) :
    Store → List (String × Value) → Store → Prop :=
  Yields fun n => fields (callWithin n) scope entries parts

abbrev Returns (f : Value) (arguments : List Value) : Store → Value → Store → Prop :=
  Yields fun n => callWithin n f arguments

variable {scope : Scope} {e : Expr} {s t : Store} {v : Value}

lemma items_steady (scope : Scope) (parts : List Item) : Steady fun n => items (callWithin n) scope parts :=
  fun _ _ hk => items_below (callWithin_below hk) scope parts

lemma fields_steady (scope : Scope) (entries : List (String × Value)) (parts : List Property) :
    Steady fun n => fields (callWithin n) scope entries parts :=
  fun _ _ hk => fields_below (callWithin_below hk) scope entries parts

lemma call_steady (f : Value) (arguments : List Value) : Steady fun n => callWithin n f arguments :=
  fun _ _ hk => callWithin_below hk f arguments

lemma Evaluates.grows (h : Evaluates scope e s v t) : Store.Grows none s t :=
  have ⟨_, h⟩ := h
  grows_of_expression h

lemma Evaluates.closed (h : Evaluates scope e s v t) (hs : s.Closed) (hin : scope.In s) : t.Closed ∧ v.In t :=
  have ⟨_, h⟩ := h
  expression_closed hs hin h

lemma ItemsYield.grows {parts : List Item} {vs : List Value} (h : ItemsYield scope parts s vs t) :
    Store.Grows none s t :=
  have ⟨_, h⟩ := h
  grows_of_items h

lemma evaluates_literal {l : Literal} : Evaluates scope (.literal l) s v t ↔ literal l = v ∧ s = t := by
  simp only [Evaluates, expression]
  exact Yields.pure

lemma evaluates_string {value : String} : Evaluates scope (.string value) s v t ↔ v = .string value ∧ s = t := by
  rw [Expr.string, evaluates_literal]
  exact and_congr_left' eq_comm

lemma evaluates_identifier {name : String} :
    Evaluates scope (.identifier name) s v t ↔ s.get? name scope = some v ∧ s = t := by
  simp only [Evaluates, expression]
  rw [Yields.const]
  rw [Eval.lookup_run]
  cases s.get? name scope with
  | none => simp
  | some w => simp

lemma evaluates_conditional {test a b : Expr} : Evaluates scope (.conditional test a b) s v t ↔
    ∃ w u, Evaluates scope test s w u ∧ Evaluates scope (if w.isTruthy then a else b) u v t := by
  simp only [Evaluates, expression]
  refine (Yields.bind (expression_steady scope test) fun w => ?_).trans ?_
  · split
    · exact expression_steady scope a
    · exact expression_steady scope b
  · refine exists_congr fun w => exists_congr fun u => and_congr_right fun _ => ?_
    split <;> rfl

lemma evaluates_array {parts : List Item} : Evaluates scope (.array parts) s v t ↔
    ∃ vs u, ItemsYield scope parts s vs u ∧ Eval.newArray vs u = .ok v t := by
  simp only [Evaluates, expression]
  exact Yields.bind_const (items_steady scope parts)

lemma itemsYield_nil {vs : List Value} : ItemsYield scope [] s vs t ↔ vs = [] ∧ s = t := by
  simp only [ItemsYield, items]
  exact Yields.pure.trans (and_congr_left' eq_comm)

lemma itemsYield_single {parts : List Item} {vs : List Value} : ItemsYield scope (.single e :: parts) s vs t ↔
    ∃ v u ws, Evaluates scope e s v u ∧ ItemsYield scope parts u ws t ∧ vs = v :: ws := by
  simp only [ItemsYield, items]
  refine (Yields.bind (expression_steady scope e) fun v => ?_).trans ?_
  · exact (items_steady scope parts).bind fun ws => .const (pure (v :: ws))
  · refine exists_congr fun v => exists_congr fun u => ?_
    rw [Yields.bind_const (items_steady scope parts)]
    constructor
    · rintro ⟨hv, ws, _, hws, h⟩
      obtain ⟨rfl, rfl⟩ := EStateM.Result.ok.inj h
      exact ⟨ws, hv, hws, rfl⟩
    · rintro ⟨ws, hv, hws, rfl⟩
      exact ⟨hv, ws, t, hws, rfl⟩

lemma itemsYield_spread {vs : List Value} :
    ItemsYield scope [.spread e] s vs t ↔ ∃ identity, Evaluates scope e s (.array identity vs) t := by
  simp only [ItemsYield, items, pure_bind]
  constructor
  · rintro ⟨n, h⟩
    obtain ⟨v, u, hv, h⟩ := run_bind_eq_ok.1 h
    cases v with
    | array identity ws =>
      obtain ⟨rfl, rfl⟩ := EStateM.Result.ok.inj h
      exact ⟨identity, n, by simpa using hv⟩
    | _ => cases h
  · rintro ⟨identity, n, h⟩
    refine ⟨n, run_bind_eq_ok.2 ⟨_, _, h, ?_⟩⟩
    simp only [List.append_nil]
    rfl

lemma evaluates_add {a b : Expr} : Evaluates scope (.binary .add a b) s v t ↔
    ∃ x u y, Evaluates scope a s x u ∧ Evaluates scope b u y t ∧ v = x.add y := by
  simp only [Evaluates, expression]
  refine (Yields.bind (expression_steady scope a) fun x => ?_).trans ?_
  · exact (expression_steady scope b).bind fun y => .const (pure (x.add y))
  · refine exists_congr fun x => exists_congr fun u => ?_
    rw [Yields.bind_const (expression_steady scope b)]
    constructor
    · rintro ⟨hx, y, _, hy, h⟩
      obtain ⟨rfl, rfl⟩ := EStateM.Result.ok.inj h
      exact ⟨y, hx, hy, rfl⟩
    · rintro ⟨y, hx, hy, rfl⟩
      exact ⟨hx, y, t, hy, rfl⟩

lemma evaluates_object {parts : List Property} : Evaluates scope (.object parts) s v t ↔
    ∃ es u, FieldsYield scope [] parts s es u ∧ Eval.newObject es u = .ok v t := by
  simp only [Evaluates, expression]
  exact Yields.bind_const (fields_steady scope [] parts)

lemma fieldsYield_nil {es fs : List (String × Value)} : FieldsYield scope es [] s fs t ↔ fs = es ∧ s = t := by
  simp only [FieldsYield, fields]
  exact Yields.pure.trans (and_congr_left' eq_comm)

lemma fieldsYield_keyed {key : String} {parts : List Property} {es fs : List (String × Value)} :
    FieldsYield scope es (.keyed key e :: parts) s fs t ↔
      ∃ v u, Evaluates scope e s v u ∧ FieldsYield scope (Entries.set key v es) parts u fs t := by
  simp only [FieldsYield, fields]
  refine (Yields.bind (expression_steady scope e) fun v => ?_).trans .rfl
  exact fields_steady scope (Entries.set key v es) parts

lemma fieldsYield_spread {parts : List Property} {es fs : List (String × Value)} :
    FieldsYield scope es (.spread e :: parts) s fs t ↔
      ∃ v u, Evaluates scope e s v u ∧ FieldsYield scope (Entries.setAll es (spreadFields v)) parts u fs t := by
  simp only [FieldsYield, fields]
  refine (Yields.bind (expression_steady scope e) fun v => ?_).trans .rfl
  exact fields_steady scope (Entries.setAll es (spreadFields v)) parts

abbrev MapYields (f : Value) (i : Nat) (values : List Value) : Store → List Value → Store → Prop :=
  Yields fun n => mapItems (callWithin n) f i values

lemma mapItems_steady (f : Value) (i : Nat) (values : List Value) :
    Steady fun n => mapItems (callWithin n) f i values :=
  fun _ _ hk => mapItems_below (callWithin_below hk) f i values

lemma MapYields.grows {f : Value} {i : Nat} {values vs : List Value} (h : MapYields f i values s vs t) :
    Store.Grows none s t :=
  have ⟨n, h⟩ := h
  (mapItems_grows (callWithin_grows n) f i values).of_ok h

lemma mapYields_nil {f : Value} {i : Nat} {vs : List Value} : MapYields f i [] s vs t ↔ vs = [] ∧ s = t := by
  simp only [MapYields, mapItems]
  exact Yields.pure.trans (and_congr_left' eq_comm)

lemma mapYields_cons {f item : Value} {i : Nat} {values vs : List Value} : MapYields f i (item :: values) s vs t ↔
    ∃ v u ws, Returns f [item, .number (.ofNat i)] s v u ∧ MapYields f (i + 1) values u ws t ∧ vs = v :: ws := by
  simp only [MapYields, mapItems]
  refine (Yields.bind (call_steady f _) fun v => ?_).trans ?_
  · exact (mapItems_steady f (i + 1) values).bind fun ws => .const (pure (v :: ws))
  · refine exists_congr fun v => exists_congr fun u => ?_
    rw [Yields.bind_const (mapItems_steady f (i + 1) values)]
    constructor
    · rintro ⟨hv, ws, _, hws, h⟩
      obtain ⟨rfl, rfl⟩ := EStateM.Result.ok.inj h
      exact ⟨ws, hv, hws, rfl⟩
    · rintro ⟨ws, hv, hws, rfl⟩
      exact ⟨hv, ws, t, hws, rfl⟩

end Evaluation

end TemplateScript
