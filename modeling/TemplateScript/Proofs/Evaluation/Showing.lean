import TemplateScript.Proofs.Evaluation.Convergence
import TemplateScript.Proofs.Evaluation.Sinks

namespace TemplateScript

variable {p : Pairing}

lemma Advance.newSink {s t : Store} (h : Store.Match p s t) (contents : String) :
    Advance p (p.addSink s.sinks.size t.sinks.size) s t { s with sinks := s.sinks.push contents }
      { t with sinks := t.sinks.push contents } where
  le := p.le_addSink _ _
  stores := by
    have hs : Store.Grows none s { s with sinks := s.sinks.push contents } := Eval.Grows.newSink contents s
    have ht : Store.Grows none t { t with sinks := t.sinks.push contents } := Eval.Grows.newSink contents t
    exact (h.grow hs ht).addSink (by simp) (by simp) fun i j hij => ⟨(h.sinks_lt hij).1.ne, (h.sinks_lt hij).2.ne⟩
  appends i j hij := by
    obtain ⟨hi, hj⟩ := h.sinks_lt hij
    exact ⟨"", by simp [Array.getElem?_push, hi.ne], by simp [Array.getElem?_push, hj.ne]⟩
  paired i hi hi' := absurd hi' (not_lt.2 hi)

namespace StreamNode

variable {call call' : Call}

lemma leafText_follows (h : call.Follows call') {code code' : Value} (hc : Value.Match p code code')
    {e e' : Extension (StreamNode Value)} (he : e.Rel (Rel (Value.Match p)) e') :
    Follows p (fun _ => Eq) (leafText call code e) (leafText call' code' e') := by
  intro s t hs
  have had := Advance.newSink hs ""
  have hij : (p.addSink s.sinks.size t.sinks.size).sinks s.sinks.size t.sinks.size := .inr ⟨rfl, rfl⟩
  have ho := leafCall_follows h hij (hc.mono had.le) (he.mono_match had.le) _ _ had.stores
  rw [leafText_eq, leafText_eq]
  refine (ho.bind fun q _ _ s' t' _ _ had' _ => ?_).after had
  obtain ⟨text, ht, ht'⟩ := had'.appends _ _ hij
  have hs' : Eval.sinkContents s.sinks.size s' = .ok text s' :=
    congrArg (EStateM.Result.ok · s') (by simp [ht])
  have ht' : Eval.sinkContents t.sinks.size t' = .ok text t' :=
    congrArg (EStateM.Result.ok · t') (by simp [ht'])
  rw [hs', ht']
  exact .ok (.refl had'.stores) rfl

def gather {τ : Type} (m : EStateM Halt (Store × τ) Unit) (out : τ) : Eval τ := fun s =>
  match m (s, out) with
  | .ok _ (s, out) => .ok out s
  | .error halt (s, _) => .error halt s

lemma gather_seq {τ : Type} (m k : EStateM Halt (Store × τ) Unit) (out : τ) :
    gather (m >>= fun _ => k) out = gather m out >>= gather k := by
  funext s
  simp only [gather, Bind.bind, EStateM.bind]
  cases m (s, out) <;> rfl

lemma gather_run {τ : Type} (append : τ → String → τ) (call : Call) (code : Value) (e : Extension (StreamNode Value))
    (out : τ) :
    gather ((outsideSink append call).run code e) out = (do return append out (← leafText call code e)) := by
  funext s
  simp only [gather, outsideSink, Bind.bind, EStateM.bind]
  cases leafText call code e s <;> rfl

lemma materialize_eq_gather (call : Call) (x : StreamNode Value) :
    x.materialize call = gather (x.render (outsideSink (· ++ ·) call)) "" := by
  funext s
  simp only [materialize, renderOutside, gather]
  cases x.render (outsideSink (· ++ ·) call) (s, "") <;> rfl

lemma gather_eq_ok {τ : Type} {m : EStateM Halt (Store × τ) Unit} {out out' : τ} {s t : Store} :
    gather m out s = .ok out' t ↔ m (s, out) = .ok () (t, out') := by
  simp only [gather]
  cases m (s, out) with
  | ok _ st => simp [Prod.ext_iff, and_comm]
  | error halt st => simp

lemma gather_append (call : Call) (x : StreamNode Value) (before out : String) :
    gather (x.renderOutside (· ++ ·) call) (before ++ out) =
      (do return before ++ (← gather (x.renderOutside (· ++ ·) call) out)) := by
  have hsink : Sink.Related Eq
      (fun m m' => ∀ before out : String, gather m (before ++ out) = (do return before ++ (← gather m' out)))
      (outsideSink (· ++ ·) call) (outsideSink (· ++ ·) call) :=
    { done := fun _ _ => rfl
      seq := by
        intro m k m' k' hm hk before out
        simp only [gather_seq, hm, hk, bind_assoc, pure_bind]
      put := by
        intro chunk before out
        funext s
        exact congrArg (EStateM.Result.ok · s) String.append_assoc
      stop := fun _ _ _ => rfl
      run := by
        rintro code _ e e' rfl he before out
        obtain rfl := extension_eq he
        simp only [gather_run, bind_assoc, pure_bind, String.append_assoc] }
  exact render_related hsink (.refl (fun _ => rfl) x) before out

lemma renderOutside_follows (h : call.Follows call') {x y : StreamNode Value} (hx : x.Rel (Value.Match p) y) (out : String) :
    Follows p (fun _ => Eq) (gather (x.renderOutside (· ++ ·) call) out) (gather (y.renderOutside (· ++ ·) call') out) := by
  have hsink : Sink.Related (Value.Match p)
      (fun m m' => ∀ q, p ≤ q → ∀ out : String, Follows q (fun _ => Eq) (gather m out) (gather m' out))
      (outsideSink (· ++ ·) call) (outsideSink (· ++ ·) call') :=
    { done := fun _ _ _ => .pure rfl
      seq := by
        intro m k m' k' hm hk q hq out
        rw [gather_seq, gather_seq]
        refine (hm q hq out).bind fun q' hq' a b hab => ?_
        subst hab
        exact hk q' (hq.trans hq') a
      put := fun _ _ _ _ => .pure rfl
      stop := fun fault _ _ _ => .fail fault
      run := by
        intro code code' e e' hc he q hq out
        rw [gather_run, gather_run]
        refine (leafText_follows h (hc.mono hq) (he.mono_match hq)).bind fun _ _ a b hab => ?_
        subst hab
        exact .pure rfl }
  exact render_related hsink hx p le_rfl out

lemma materialize_follows (h : call.Follows call') {x y : StreamNode Value} (hx : x.Rel (Value.Match p) y) :
    Follows p (fun _ => Eq) (x.materialize call) (y.materialize call') := by
  rw [materialize_eq_gather, materialize_eq_gather]
  exact renderOutside_follows h hx ""

end StreamNode

section Values

variable {call call' : Call}

lemma AnyNode.toHtml_follows (h : call.Follows call') {x y : AnyNode Value} (hx : AnyNode.Rel (Value.Match p) x y) :
    Follows p (fun _ => Eq) (x.toHtml call) (y.toHtml call') := by
  cases hx with
  | structured node => exact .ofExcept (.refl _ fun _ => rfl)
  | stream hx => exact StreamNode.materialize_follows h hx
  | raw node => exact .pure rfl

mutual

lemma Child.toHtml_follows (h : call.Follows call') {p : Pairing} : {c d : Child (AnyNode Value)} →
    Child.Rel (AnyNode.Rel (Value.Match p)) c d → Follows p (fun _ => Eq) (c.toHtml call) (d.toHtml call')
  | _, _, .absent | _, _, .text _ | _, _, .number _ | _, _, .safe _ => by
    simp only [Child.toHtml]
    exact .pure rfl
  | _, _, .list hs => by
    simp only [Child.toHtml]
    refine (Child.toHtmls_follows h hs).bind fun _ _ a b hab => ?_
    subst hab
    exact .pure rfl
  | _, _, .node hx => by
    simp only [Child.toHtml]
    exact AnyNode.toHtml_follows h hx
  | _, _, .invalid _ => by
    simp only [Child.toHtml]
    exact .fail _

lemma Child.toHtmls_follows (h : call.Follows call') {p : Pairing} : {cs ds : List (Child (AnyNode Value))} →
    List.Forall₂ (Child.Rel (AnyNode.Rel (Value.Match p))) cs ds →
    Follows p (fun _ => Eq) (Child.toHtmls call cs) (Child.toHtmls call' ds)
  | _, _, .nil => by
    simp only [Child.toHtmls]
    exact .pure rfl
  | _, _, .cons hc hcs => by
    simp only [Child.toHtmls]
    refine (Child.toHtml_follows h hc).bind fun q hq a b hab => ?_
    subst hab
    have hrest := Child.Rel.mono_all (fun _ _ hx => hx.mono_match hq) hcs
    refine (Child.toHtmls_follows h hrest).bind fun _ _ as bs habs => ?_
    subst habs
    exact .pure rfl

end

lemma Value.render_follows (h : call.Follows call') {v w : Value} (hv : Value.Match p v w) :
    Follows p (fun _ => Eq) (v.render call) (w.render call') :=
  Child.toHtml_follows h hv.toChild_related

end Values

namespace Evaluation

variable {call call' : Call}

lemma resultOf_follows (h : call.Follows call') {v w : Value} (hv : Value.Match p v w) :
    Follows p Value.Match (resultOf call v) (resultOf call' w) := by
  cases hv with
  | closure V hi hb ho => exact h p _ _ _ _ (.closure V hi hb ho) .nil
  | native function => exact h p _ _ _ _ (.native function) .nil
  | _ => exact .pure (by constructor <;> assumption)

def shown (call : Call) (scope : Scope) (name : String) : Eval String := do
  let result ← resultOf call (← Eval.lookup scope name)
  result.render call

lemma shown_follows (h : call.Follows call') {V : String → Prop} {scope scope' : Scope}
    (hs : Scope.Match p V scope scope') {name : String} (hn : V name) :
    Follows p (fun _ => Eq) (shown call scope name) (shown call' scope' name) := by
  refine (Follows.lookup hs hn).bind fun q _ v w hv => ?_
  exact (resultOf_follows h hv).bind fun q' _ a b hab => Value.render_follows h hab

end Evaluation

lemma Outcome.sameEnd {α : Type} {s t : Store} {x y : EStateM.Result Halt Store α}
    (h : Outcome p (fun _ => Eq) s t x y) : SameEnd x y := by
  cases h with
  | ok had hr =>
    subst hr
    exact .ok _ _ _
  | error halt had => exact .error halt _ _

end TemplateScript
