import TemplateScript.Proofs.Evaluation.Following

namespace TemplateScript

section Evaluator

variable {call call' : Call}

lemma Extension.Rel.mono_match {p q : Pairing} (hpq : p ≤ q) {e e' : Extension (StreamNode Value)}
    (h : e.Rel (StreamNode.Rel (Value.Match p)) e') : e.Rel (StreamNode.Rel (Value.Match q)) e' := by
  obtain ⟨attributes, children⟩ := e
  obtain ⟨attributes', children'⟩ := e'
  refine ⟨h.attributes, ?_⟩
  cases h.children with
  | none => exact .none
  | some hs => exact .some (hs.imp fun _ _ hx => hx.mono_match hpq)

def Call.Follows (call call' : Call) : Prop :=
  ∀ (p : Pairing) (f f' : Value) (xs ys : List Value), Value.Match p f f' → Values.Match p xs ys →
    TemplateScript.Follows p Value.Match (call f xs) (call' f' ys)

namespace StreamNode

def leafCall (call : Call) (place : Nat) (code : Value) (e : Extension (StreamNode Value)) : Eval Value := do
  call code [.sink place, ← e.toValue]

lemma sharedSink_run (call : Call) (place : Nat) (code : Value) (e : Extension (StreamNode Value)) :
    (sharedSink call place).run code e = leafCall call place code e >>= fun _ => pure () := by
  simp only [sharedSink, leafCall, bind_assoc]

lemma leafText_eq (call : Call) (code : Value) (e : Extension (StreamNode Value)) (s : Store) :
    leafText call code e s = (leafCall call s.sinks.size code e >>= fun _ => Eval.sinkContents s.sinks.size)
      { s with sinks := s.sinks.push "" } := by
  simp only [leafText, leafCall, bind_assoc]
  rfl

lemma leafCall_follows (h : call.Follows call') {p : Pairing} {i j : Nat} (hij : p.sinks i j) {code code' : Value}
    (hc : Value.Match p code code') {e e' : Extension (StreamNode Value)} (he : e.Rel (Rel (Value.Match p)) e') :
    Follows p Value.Match (leafCall call i code e) (leafCall call' j code' e') := by
  refine (Extension.toValue_follows he).bind fun q hq _ _ hv => ?_
  exact h q _ _ _ _ (hc.mono hq) (.cons (.sink (hq.sinks hij)) (.cons hv .nil))

end StreamNode

lemma StreamNode.renderShared_follows (h : call.Follows call') {p : Pairing} {i j : Nat} (hij : p.sinks i j)
    {x y : StreamNode Value} (hx : x.Rel (Value.Match p) y) :
    Follows p (fun _ _ _ => True) (x.renderShared call i) (y.renderShared call' j) := by
  -- The pairing grows while a node is rendered, so the relation is stated for all later ones.
  have hs : Sink.Related (Value.Match p) (fun m m' => ∀ q, p ≤ q → Follows q (fun _ _ _ => True) m m')
      (sharedSink call i) (sharedSink call' j) :=
    { done := fun _ _ => .pure trivial
      seq := fun hm hk q hq => (hm q hq).bind fun q' hq' _ _ _ => hk q' (hq.trans hq')
      put := fun chunk _ hq => .writeSink (hq.sinks hij) chunk
      stop := fun _ _ _ => .throw _
      run := by
        intro code code' e e' hc he q hq
        rw [sharedSink_run, sharedSink_run]
        exact (leafCall_follows h (hq.sinks hij) (hc.mono hq) (he.mono_match hq)).bind fun _ _ _ _ _ => .pure trivial }
  exact render_related hs hx p le_rfl

lemma Value.callMethod_follows (h : call.Follows call') {p : Pairing} {a b : Value} (ha : Value.Match p a b)
    (name : String) {xs ys : List Value} (hs : Values.Match p xs ys) :
    Follows p Value.Match (a.callMethod call name xs) (b.callMethod call' name ys) := by
  have hmissing : Follows p Value.Match (Eval.failType (.noMethod a.typeName name))
      (Eval.failType (.noMethod b.typeName name)) := .failType (by rw [ha.typeName_eq])
  cases ha with
  | builder r => exact r.method_follows name hs
  | stream hx =>
    simp only [callMethod]
    split
    · cases hs with
      | nil => exact .failType rfl
      | cons hv _ =>
        cases hv with
        | sink hij =>
          exact (StreamNode.renderShared_follows h hij hx).bind fun _ _ _ _ _ => .pure .undefined
        | _ => exact .failType rfl
    · exact hmissing
  | sink hij =>
    simp only [callMethod, hs.first.text_eq]
    split
    · exact (Follows.writeSink hij _).bind fun _ _ _ _ _ => .pure .undefined
    · exact hmissing
  | _ => exact hmissing

namespace Evaluation

variable {p : Pairing}

lemma property_follows {a b : Value} (h : Value.Match p a b) (name : String) :
    Follows p Value.Match (property a name) (property b name) := by
  cases h with
  | undefined | null => exact .failType rfl
  | object _ hs => exact .pure (Values.Match.getD (Entries.get?_related hs name))
  | array _ hs =>
    simp only [property, hs.length_eq]
    refine .pure ?_
    split
    · exact .number _
    · exact .undefined
  | string value =>
    refine .pure ?_
    split
    · exact .number _
    · exact .undefined
  | _ => exact .pure .undefined

lemma element_follows {a b i j : Value} (h : Value.Match p a b) (hi : Value.Match p i j) :
    Follows p Value.Match (element a i) (element b j) := by
  have hp : Follows p Value.Match (property a i.text) (property b j.text) := by
    rw [hi.text_eq]
    exact property_follows h _
  cases h with
  | array _ hs =>
    cases hi with
    | number n =>
      simp only [element]
      cases n.toNat? with
      | none => exact .pure .undefined
      | some k => exact .pure (Values.Match.getD (Values.Match.getElem? hs k))
    | _ => exact hp
  | _ => exact hp

lemma mapItems_follows (h : call.Follows call') {f g : Value} (hf : Value.Match p f g) (i : Nat)
    {xs ys : List Value} (hs : Values.Match p xs ys) :
    Follows p Values.Match (mapItems call f i xs) (mapItems call' g i ys) := by
  induction xs generalizing p i ys with
  | nil =>
    cases hs
    exact .pure .nil
  | cons x xs ih =>
    cases hs with
    | cons hx hs =>
      refine (h p f g _ _ hf (.cons hx (.cons (.number _) .nil))).bind fun q hq v w hv => ?_
      refine (ih (hf.mono hq) (i + 1) (Value.Match.mono_all hq hs)).bind fun q' hq' vs ws hvs => ?_
      exact .pure (.cons (hv.mono hq') hvs)

lemma separator_eq {x y : Option Value} (h : Option.Rel (Value.Match p) x y) : separator x = separator y := by
  cases h with
  | none => rfl
  | some hv =>
    have ht := hv.text_eq
    cases hv <;> simp_all only [separator]

lemma method_follows (h : call.Follows call') {a b : Value} (ha : Value.Match p a b) (name : String)
    {xs ys : List Value} (hs : Values.Match p xs ys) :
    Follows p Value.Match (method call a name xs) (method call' b name ys) := by
  have hm := Value.callMethod_follows h ha name hs
  cases ha with
  | undefined | null => exact .failType rfl
  | array hi hxs =>
    have hsep : separator xs.head? = separator ys.head? := by
      cases hs with
      | nil => rfl
      | cons hv _ => exact separator_eq (.some hv)
    simp only [method, Value.Match.itemTexts_eq hxs, hsep]
    split
    · exact (mapItems_follows h hs.first 0 hxs).bind fun _ _ _ _ hv => .newArray hv
    · split
      · exact .pure (.string _)
      · exact hm
  | _ => simpa only [method] using hm

inductive FlowMatch (p : Pairing) : Flow → Flow → Prop
  | next : FlowMatch p .next .next
  | leave {v w : Value} : Value.Match p v w → FlowMatch p (.leave v) (.leave w)

lemma forEach_follows {step step' : Value → Eval Flow}
    (h : ∀ q, p ≤ q → ∀ v w, Value.Match q v w → Follows q FlowMatch (step v) (step' w)) {xs ys : List Value}
    (hs : Values.Match p xs ys) : Follows p FlowMatch (forEach step xs) (forEach step' ys) := by
  induction xs generalizing p ys with
  | nil =>
    cases hs
    exact .pure .next
  | cons x xs ih =>
    cases hs with
    | cons hx hs =>
      refine (h p le_rfl _ _ hx).bind fun q hq flow flow' hflow => ?_
      cases hflow with
      | next => exact ih (fun q' hq' => h q' (hq.trans hq')) (Value.Match.mono_all hq hs)
      | leave hv => exact .pure (.leave hv)

lemma spreadFields_match {a b : Value} (h : Value.Match p a b) :
    Fields.Match p (spreadFields a) (spreadFields b) := by
  cases h with
  | object _ hs => exact hs
  | @array _ _ xs ys _ hs =>
    have hk (k : Nat) : Fields.Match p ((xs.zipIdx k).map fun e => (toString e.2, e.1))
        ((ys.zipIdx k).map fun e => (toString e.2, e.1)) := by
      induction hs generalizing k with
      | nil => exact .nil
      | cons hv _ ih => exact .cons (.mk _ hv) (ih (k + 1))
    exact hk 0
  | _ => exact .nil

lemma literal_match (l : Literal) : Value.Match p (literal l) (literal l) := by
  cases l with
  | string value _ => exact .string value
  | number value => exact .number value
  | bool value => exact .bool value
  | null => exact .null
  | undefined => exact .undefined

variable {V : String → Prop} {outer outer' : Scope}

mutual

lemma expression_follows (h : call.Follows call') {p : Pairing} (hs : Scope.Match p V outer outer') :
    {e e' : Expr} → Expr.Alike V e e' →
    Follows p Value.Match (expression call outer e) (expression call' outer' e')
  | _, _, .identifier hn => by
    simp only [expression]
    exact .lookup hs hn
  | _, _, .literal hl => by
    simp only [expression, hl]
    exact .pure (literal_match _)
  | _, _, .array hp => by
    simp only [expression]
    exact (items_follows h hs hp).bind fun _ _ _ _ hv => .newArray hv
  | _, _, .object hp => by
    simp only [expression]
    exact (fields_follows h hs .nil hp).bind fun _ _ _ _ hv => .newObject hv
  | _, _, .member name ho => by
    simp only [expression]
    exact (expression_follows h hs ho).bind fun _ _ _ _ hv => property_follows hv name
  | _, _, .index ho hi => by
    simp only [expression]
    refine (expression_follows h hs ho).bind fun q hq _ _ hv => ?_
    exact (expression_follows h (hs.mono hq) hi).bind fun _ hq' _ _ hw => element_follows (hv.mono hq') hw
  | _, _, .call hc ha => by
    have hf := expression_follows h hs hc
    cases hc with
    | member name ho =>
      simp only [expression]
      refine (expression_follows h hs ho).bind fun q hq _ _ hv => ?_
      refine (items_follows h (hs.mono hq) ha).bind fun q' hq' _ _ hvs => ?_
      have hv' := hv.mono hq'
      cases hv' with
      | object _ hes => exact h q' _ _ _ _ (Values.Match.getD (Entries.get?_related hes name)) hvs
      | _ => exact method_follows h (hv.mono hq') name hvs
    | _ =>
      rw [expression_call call (by simp), expression_call call' (by simp)]
      refine hf.bind fun q hq _ _ hv => ?_
      exact (items_follows h (hs.mono hq) ha).bind fun q' hq' _ _ hvs => h q' _ _ _ _ (hv.mono hq') hvs
  | _, _, .not ho => by
    simp only [expression]
    refine (expression_follows h hs ho).bind fun _ _ _ _ hv => ?_
    rw [hv.isTruthy_eq]
    exact .pure (.bool _)
  | _, _, .binary op hl hr => by
    simp only [expression]
    refine (expression_follows h hs hl).bind fun q hq _ _ hv => ?_
    have hright := expression_follows h (hs.mono hq) hr
    cases op with
    | and =>
      simp only [hv.isTruthy_eq]
      split
      · exact hright
      · exact .pure hv
    | or =>
      simp only [hv.isTruthy_eq]
      split
      · exact .pure hv
      · exact hright
    | add => exact hright.bind fun _ hq' _ _ hw => .pure ((hv.mono hq').add hw)
    | strictEq =>
      refine hright.bind fun _ hq' _ _ hw => .withStores fun _ _ hm => ?_
      rw [(hv.mono hq').strictEquals_eq hm.identities_oneToOne hm.sinks_oneToOne hw]
      exact .pure (.bool _)
    | strictNe =>
      refine hright.bind fun _ hq' _ _ hw => .withStores fun _ _ hm => ?_
      rw [(hv.mono hq').strictEquals_eq hm.identities_oneToOne hm.sinks_oneToOne hw]
      exact .pure (.bool _)
  | _, _, .conditional ht hc ha => by
    simp only [expression]
    refine (expression_follows h hs ht).bind fun q hq _ _ hv => ?_
    rw [hv.isTruthy_eq]
    split
    · exact expression_follows h (hs.mono hq) hc
    · exact expression_follows h (hs.mono hq) ha
  | _, _, .arrow params hb => by
    simp only [expression]
    exact Follows.newIdentity.bind fun q hq _ _ hi => .pure (.closure V hi hb (hs.mono hq))
  | _, _, .markup _ => by
    simp only [expression]
    exact .failType rfl

lemma items_follows (h : call.Follows call') {p : Pairing} (hs : Scope.Match p V outer outer') :
    {parts parts' : List Item} → List.Forall₂ (Item.Alike V) parts parts' →
    Follows p Values.Match (items call outer parts) (items call' outer' parts')
  | _, _, .nil => by
    simp only [items]
    exact .pure .nil
  | _, _, .cons (.single hv) hp => by
    simp only [items]
    refine (expression_follows h hs hv).bind fun q hq _ _ hv => ?_
    exact (items_follows h (hs.mono hq) hp).bind fun _ hq' _ _ hvs => .pure (.cons (hv.mono hq') hvs)
  | _, _, .cons (.spread hv) hp => by
    simp only [items]
    refine (expression_follows h hs hv).bind fun q hq v w hv => ?_
    have ht := hv.typeName_eq
    cases hv with
    | array _ hxs =>
      refine (items_follows h (hs.mono hq) hp).bind fun _ hq' _ _ hvs => .pure ?_
      exact List.rel_append (Value.Match.mono_all hq' hxs) hvs
    | _ => exact .failType (by rw [ht])

lemma fields_follows (h : call.Follows call') {p : Pairing} (hs : Scope.Match p V outer outer')
    {es fs : List (String × Value)} (he : Fields.Match p es fs) :
    {parts parts' : List Property} → List.Forall₂ (Property.Alike V) parts parts' →
    Follows p Fields.Match (fields call outer es parts) (fields call' outer' fs parts')
  | _, _, .nil => by
    simp only [fields]
    exact .pure he
  | _, _, .cons (.keyed key hv) hp => by
    simp only [fields]
    refine (expression_follows h hs hv).bind fun q hq _ _ hv => ?_
    exact fields_follows h (hs.mono hq) (Entries.set_related (he.mono hq) key hv) hp
  | _, _, .cons (.spread hv) hp => by
    simp only [fields]
    refine (expression_follows h hs hv).bind fun q hq _ _ hv => ?_
    exact fields_follows h (hs.mono hq) (Entries.setAll_related (he.mono hq) (spreadFields_match hv)) hp

end

lemma statement_block_one (call : Call) (scope : Scope) (s : Stmt) :
    statement call scope (.block [s]) = Eval.within [] scope fun inner => statement call inner s := by
  have hone (inner : Scope) : statements call inner [s] = statement call inner s := by
    simp only [statements]
    refine Eq.trans (bind_congr fun flow => ?_) (bind_pure _)
    cases flow <;> rfl
  simp only [statement, hone]
  rfl

mutual

lemma statement_follows (h : call.Follows call') {p : Pairing} {i j : Nat} (hij : p.Heads i j)
    {outer outer' : Scope} (hs : Scope.Match p V (i :: outer) (j :: outer')) : {s s' : Stmt} → Stmt.Alike V s s' →
    Follows p FlowMatch (statement call (i :: outer) s) (statement call' (j :: outer') s')
  | _, _, .importModule _ _ => by
    simp only [statement]
    exact .failType rfl
  | _, _, .declare _ name hv => by
    simp only [statement]
    refine (expression_follows h hs hv).bind fun q hq _ _ hv => ?_
    exact (Follows.define (hij.mono hq) outer outer' name hv).bind fun _ _ _ _ _ => .pure .next
  | _, _, .expression hv => by
    simp only [statement]
    exact (expression_follows h hs hv).bind fun _ _ _ _ _ => .pure .next
  | _, _, .branch ht hc ha => by
    simp only [statement]
    refine (expression_follows h hs ht).bind fun q hq _ _ hv => ?_
    rw [hv.isTruthy_eq]
    split
    · exact branch_follows h (hs.mono hq) .nil hc
    · exact otherwise_follows h (hs.mono hq) ha
  | _, _, .block hb => by
    simp only [statement, Eval.newScope_bind]
    exact .within .nil fun q hq _ _ hf => statements_follows h (.inl hf) (.cons hf (hs.mono hq)) hb
  | _, _, .forOf name hv hb => by
    simp only [statement, Eval.newScope_define]
    refine (expression_follows h hs hv).bind fun q hq v w hv => ?_
    have ht := hv.typeName_eq
    cases hv with
    | array _ hxs =>
      refine forEach_follows (fun q' hq' x y hx => ?_) hxs
      exact branch_follows h (hs.mono (hq.trans hq')) (.cons (.mk name hx) .nil) hb
    | _ => exact .failType (by rw [ht])
  | _, _, .leave .none => by
    simp only [statement]
    exact .pure (.leave .undefined)
  | _, _, .leave (.some hv) => by
    simp only [statement]
    exact (expression_follows h hs hv).bind fun _ _ _ _ hv => .pure (.leave hv)
termination_by s => (sizeOf s, 0)

lemma branch_follows (h : call.Follows call') {p : Pairing} {scope scope' : Scope}
    (hs : Scope.Match p V scope scope') {es fs : List (String × Value)} (he : Fields.Match p es fs) :
    {s s' : Stmt} → Stmt.AlikeBodies V s s' →
    Follows p FlowMatch (Eval.within es scope fun inner => statement call inner s)
      (Eval.within fs scope' fun inner => statement call' inner s')
  | _, _, .same ha =>
    .within he fun _ hq _ _ hf => statement_follows h (.inl hf) (.cons hf (hs.mono hq)) ha
  | _, _, .braced _ ha => by
    simp only [statement_block_one]
    exact .within_braced he fun _ hq _ _ _ hg => statement_follows h (.inr ⟨_, _, hg⟩) (.group hg (hs.mono hq)) ha
  | _, _, .unbraced _ ha => by
    simp only [statement_block_one]
    exact .within_unbraced he fun _ hq _ _ _ hg => statement_follows h (.inr ⟨_, _, hg⟩) (.group hg (hs.mono hq)) ha
termination_by s => (sizeOf s, 1)

lemma otherwise_follows (h : call.Follows call') {p : Pairing} {scope scope' : Scope}
    (hs : Scope.Match p V scope scope') : {s s' : Option Stmt} → Option.Rel (Stmt.AlikeBodies V) s s' →
    Follows p FlowMatch (otherwise call scope s) (otherwise call' scope' s')
  | _, _, .none => by
    simp only [otherwise]
    exact .pure .next
  | _, _, .some ha => by
    simp only [otherwise]
    exact branch_follows h hs .nil ha
termination_by s => (sizeOf s, 0)

lemma statements_follows (h : call.Follows call') {p : Pairing} {i j : Nat} (hij : p.Heads i j)
    {outer outer' : Scope} (hs : Scope.Match p V (i :: outer) (j :: outer')) :
    {ss ss' : List Stmt} → List.Forall₂ (Stmt.Alike V) ss ss' →
    Follows p FlowMatch (statements call (i :: outer) ss) (statements call' (j :: outer') ss')
  | _, _, .nil => by
    simp only [statements]
    exact .pure .next
  | _, _, .cons ha has => by
    simp only [statements]
    refine (statement_follows h hij hs ha).bind fun q hq _ _ hflow => ?_
    cases hflow with
    | next => exact statements_follows h (hij.mono hq) (hs.mono hq) has
    | leave hv => exact .pure (.leave hv)
termination_by ss => (sizeOf ss, 0)

end

lemma bindParams_follows {p : Pairing} {i j : Nat} (hij : p.Heads i j) (params : List String)
    {xs ys : List Value} (hs : Values.Match p xs ys) :
    Follows p (fun _ _ _ => True) (bindParams (i :: outer) params xs) (bindParams (j :: outer') params ys) := by
  induction params generalizing p xs ys with
  | nil => exact .pure trivial
  | cons param params ih =>
    refine (Follows.define hij outer outer' param hs.first).bind fun q hq _ _ _ => ?_
    exact ih (hij.mono hq) (Value.Match.mono_all hq (hs.drop 1))

lemma body_follows (h : call.Follows call') {p : Pairing} {i j : Nat} (hij : p.Heads i j)
    (hs : Scope.Match p V (i :: outer) (j :: outer')) {code code' : Body} (hc : Body.Alike V code code') :
    Follows p Value.Match (body call (i :: outer) code) (body call' (j :: outer') code') := by
  cases hc with
  | expression hv => exact expression_follows h hs hv
  | block hss =>
    refine (statements_follows h hij hs hss).bind fun _ _ _ _ hflow => ?_
    cases hflow with
    | next => exact .pure .undefined
    | leave hv => exact .pure hv

theorem callWithin_follows (n : Nat) : Call.Follows (callWithin n) (callWithin n) := by
  induction n with
  | zero =>
    intro p f g xs ys hf hs
    have ht := hf.typeName_eq
    cases hf with
    | native function => exact function.run_follows hs
    | closure => exact .throw _
    | _ => exact .failType (by rw [ht])
  | succ n ih =>
    intro p f g xs ys hf hs
    have ht := hf.typeName_eq
    cases hf with
    | native function => exact function.run_follows hs
    | closure V hi hb ho =>
      simp only [callWithin, Eval.newScope_bind]
      refine .within .nil fun q hq i j hf => ?_
      have hij : q.Heads i j := .inl hf
      refine (bindParams_follows hij _ (Value.Match.mono_all hq hs)).bind fun q' hq' _ _ _ => ?_
      exact body_follows ih (hij.mono hq') (.cons (hq'.frames hf) (ho.mono (hq.trans hq'))) hb
    | _ => exact .failType (by rw [ht])

lemma program_follows (h : call.Follows call') {p : Pairing} {modules modules' : Modules}
    (hm : Fields.Match p modules modules') {i j : Nat} (hij : p.Heads i j)
    (hscope : Scope.Match p V (i :: outer) (j :: outer'))
    {ss ss' : Program} (hs : List.Forall₂ (Stmt.Alike V) ss ss') :
    Follows p (fun _ _ _ => True) (program call modules (i :: outer) ss)
      (program call' modules' (j :: outer') ss') := by
  induction hs generalizing p with
  | nil => exact .pure trivial
  | cons hs _ ih =>
    have hnext {q : Pairing} (hq : p ≤ q) := ih (hm.mono hq) (hij.mono hq) (hscope.mono hq)
    cases hs with
    | importModule name path =>
      have hg := Entries.get?_related hm path
      simp only [program]
      generalize Entries.get? path modules = x at hg ⊢
      generalize Entries.get? path modules' = y at hg ⊢
      cases hg with
      | none => exact .fail _
      | some hv => exact (Follows.define hij outer outer' name hv).bind fun _ hq _ _ _ => hnext hq
    | _ =>
      simp only [program]
      refine (statement_follows h hij hscope (by constructor <;> assumption)).bind fun q hq _ _ hflow => ?_
      cases hflow with
      | next => exact hnext hq
      | leave _ => exact .pure trivial

end Evaluation

end Evaluator

end TemplateScript
