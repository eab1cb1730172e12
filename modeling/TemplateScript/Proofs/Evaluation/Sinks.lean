import TemplateScript.Proofs.Evaluation.Closed

namespace TemplateScript

variable {α β τ : Type}

structure LawfulAppend (append : τ → String → τ) : Prop where
  empty (out : τ) : append out "" = out
  assoc (out : τ) (a b : String) : append (append out a) b = append out (a ++ b)

lemma lawfulAppend_string : LawfulAppend (fun (a b : String) => a ++ b) where
  empty out := by simp
  assoc out a b := String.append_assoc

/-- A computation that writes into the sink `i` of the store and one that writes to the outside end alike:
they append the same text, or fail alike. -/
inductive TextOutcome (append : τ → String → τ) (i : Nat) (P : α → Prop) (l r : Store) (out : τ) :
    EStateM.Result Halt Store α → EStateM.Result Halt (Store × τ) β → Prop
  | ok {a : α} {b : β} {l' r' : Store} (text : String) : P a → Store.Grows none l l' → Store.Grows none r r' →
    l'.sinks[i]? = l.sinks[i]?.map (· ++ text) →
    TextOutcome append i P l r out (.ok a l') (.ok b (r', append out text))
  | error (halt : Halt) (l' : Store) (r' : Store × τ) :
    TextOutcome append i P l r out (.error halt l') (.error halt r')

def WritesAlike (append : τ → String → τ) (i : Nat) (l₀ r₀ : Store) (P : α → Prop) (m : Eval α)
    (m' : EStateM Halt (Store × τ) β) : Prop :=
  ∀ l r out, Store.Grows none l₀ l → Store.Grows none r₀ r → TextOutcome append i P l r out (m l) (m' (r, out))

namespace WritesAlike

variable {append : τ → String → τ} {i : Nat} {l₀ r₀ : Store} {P : α → Prop} {Q : β → Prop}

lemma later {m : Eval α} {m' : EStateM Halt (Store × τ) β} {l : Store} (h : WritesAlike append i l₀ r₀ P m m')
    (hl : Store.Grows none l₀ l) : WritesAlike append i l r₀ P m m' :=
  fun l' r out hl' hr => h l' r out (hl.trans hl') hr

lemma map {m : Eval α} {m' : EStateM Halt (Store × τ) Unit} {f : α → β} (h : WritesAlike append i l₀ r₀ P m m')
    (hf : ∀ a, P a → Q (f a)) : WritesAlike append i l₀ r₀ Q (m >>= fun a => pure (f a)) m' := by
  intro l r out hl hr
  have ho := h l r out hl hr
  simp only [Bind.bind, EStateM.bind]
  generalize m l = x at ho ⊢
  generalize m' (r, out) = y at ho ⊢
  cases ho with
  | error halt l' r' => exact .error halt l' r'
  | ok text hp hgl hgr ht => exact .ok text (hf _ hp) hgl hgr ht

lemma done (ha : LawfulAppend append) {a : α} (h : P a) :
    WritesAlike append i l₀ r₀ P (pure a) (pure () : EStateM Halt (Store × τ) Unit) := by
  intro l r out _ _
  have ho : (pure () : EStateM Halt (Store × τ) Unit) (r, out) = .ok () (r, append out "") := by
    rw [ha.empty]
    rfl
  rw [ho]
  exact .ok "" h (.refl _ _) (.refl _ _) (by simp)

lemma seq (ha : LawfulAppend append) {m : Eval α} {m' k' : EStateM Halt (Store × τ) Unit} {k : α → Eval β}
    (hm : WritesAlike append i l₀ r₀ P m m') (hk : ∀ a, P a → WritesAlike append i l₀ r₀ Q (k a) k') :
    WritesAlike append i l₀ r₀ Q (m >>= k) (m' >>= fun _ => k') := by
  intro l r out hl hr
  have h := hm l r out hl hr
  simp only [Bind.bind, EStateM.bind]
  generalize m l = x at h ⊢
  generalize m' (r, out) = y at h ⊢
  cases h with
  | error halt l' r' => exact .error halt l' r'
  | @ok a b l' r' text hp hgl hgr ht =>
    have hn := hk a hp l' r' (append out text) (hl.trans hgl) (hr.trans hgr)
    dsimp only
    generalize k a l' = x at hn ⊢
    generalize k' (r', append out text) = y at hn ⊢
    cases hn with
    | error halt l' r' => exact .error halt l' r'
    | ok text' hq hgl' hgr' ht' =>
      rw [ha.assoc]
      refine .ok (text ++ text') hq (hgl.trans hgl') (hgr.trans hgr') ?_
      rw [ht', ht, Option.map_map]
      simp [Function.comp_def, String.append_assoc]

lemma stop {m : Eval α} {m' : EStateM Halt (Store × τ) β} (halt : Halt) (h : m = throw halt) (h' : m' = throw halt) :
    WritesAlike append i l₀ r₀ P m m' := by
  subst h h'
  exact fun l r out _ _ => .error halt l (r, out)

lemma write (chunk : String) : WritesAlike append i l₀ r₀ (fun _ : Unit => True) (Eval.writeSink i chunk)
    ((StreamNode.outsideSink append call).put chunk) := by
  intro l r out _ _
  refine .ok chunk trivial (Eval.Grows.writeSink i chunk l) (.refl _ _) ?_
  simp [Array.getElem?_modify]

end WritesAlike

lemma Store.Match.addSink {p : Pairing} {s t : Store} (h : Store.Match p s t) {i j : Nat} (hi : i < s.sinks.size)
    (hj : j < t.sinks.size) (hn : ∀ i' j', p.sinks i' j' → i' ≠ i ∧ j' ≠ j) :
    Store.Match (p.addSink i j) s t where
  identities_lt := h.identities_lt
  identities_oneToOne := h.identities_oneToOne
  frames hf := by
    obtain ⟨es, fs, he, hf, hm⟩ := h.frames hf
    exact ⟨es, fs, he, hf, hm.mono (p.le_addSink _ _)⟩
  frames_oneToOne := h.frames_oneToOne
  groups hg := (h.groups hg).mono (p.le_addSink _ _)
  apart := h.apart
  sinks_lt := by
    rintro i' j' (hs | ⟨rfl, rfl⟩)
    · exact h.sinks_lt hs
    · exact ⟨hi, hj⟩
  sinks_oneToOne := h.sinks_oneToOne.add hn
  hidden := h.hidden
  hidden_not_paired := h.hidden_not_paired

namespace StreamNode

variable {call call' : Call} {p : Pairing} {i : Nat} {l₀ r₀ : Store} {append : τ → String → τ}

lemma run_alike (h : call.Follows call') (hg : call.Grows) (hg' : call'.Grows) (hs : Store.Match p l₀ r₀)
    (hi : i < l₀.sinks.size) (hp : ∀ j, ¬ p.sinks i j) {code code' : Value} (hc : Value.Match p code code')
    {e e' : Extension (StreamNode Value)} (he : e.Rel (Rel (Value.Match p)) e') :
    WritesAlike append i l₀ r₀ (fun _ => True) ((sharedSink call i).run code e)
      ((outsideSink append call').run code' e') := by
  intro l r out hl hr
  let r₁ : Store := { r with sinks := r.sinks.push "" }
  have hr₁ : Store.Grows none r r₁ := Eval.Grows.newSink "" r
  let q := p.addSink i r.sinks.size
  have hpq : p ≤ q := p.le_addSink _ _
  have hij : q.sinks i r.sinks.size := .inr ⟨rfl, rfl⟩
  have hnew (i' j' : Nat) (hs' : p.sinks i' j') : i' ≠ i ∧ j' ≠ r.sinks.size :=
    ⟨fun e => hp j' (e ▸ hs'), (((hs.sinks_lt hs').2).trans_le hr.sinks).ne⟩
  have hq : Store.Match q l r₁ := (hs.grow hl (hr.trans hr₁)).addSink (hi.trans_le hl.sinks) (by simp [r₁]) hnew
  have hgl : Eval.Grows none (leafCall call i code e) := e.toValue_grows.bind fun _ => hg none _ _
  have hgr : Eval.Grows none (leafCall call' r.sinks.size code' e') := e'.toValue_grows.bind fun _ => hg' none _ _
  have ho := leafCall_follows h hij (hc.mono hpq) (he.mono_match hpq) l r₁ hq
  simp only [sharedSink_run, outsideSink, leafText_eq, Bind.bind, EStateM.bind]
  cases hx : leafCall call i code e l with
  | error halt l' =>
    cases hy : leafCall call' r.sinks.size code' e' r₁ with
    | error halt' r' =>
      rw [hx, hy] at ho
      cases ho
      exact .error halt l' (r', out)
    | ok b r' =>
      rw [hx, hy] at ho
      cases ho
  | ok a l' =>
    cases hy : leafCall call' r.sinks.size code' e' r₁ with
    | error halt' r' =>
      rw [hx, hy] at ho
      cases ho
    | ok b r' =>
      rw [hx, hy] at ho
      cases ho with
      | ok had _ =>
        obtain ⟨text, ht, ht'⟩ := had.appends i r.sinks.size hij
        have hend : Eval.sinkContents r.sinks.size r' = .ok text r' := by
          have ht : r'.sinks[r.sinks.size]?.getD "" = text := by
            rw [ht']
            simp [r₁]
          exact congrArg (fun x => EStateM.Result.ok x r') ht
        simp only [hend]
        exact .ok text trivial (hgl.of_ok hx) (hr₁.trans (hgr.of_ok hy)) ht

theorem renderShared_alike (ha : LawfulAppend append) (h : call.Follows call') (hg : call.Grows)
    (hg' : call'.Grows) (hs : Store.Match p l₀ r₀) (hi : i < l₀.sinks.size) (hp : ∀ j, ¬ p.sinks i j)
    {x y : StreamNode Value} (hx : x.Rel (Value.Match p) y) :
    WritesAlike append i l₀ r₀ (fun _ => True) (x.renderShared call i) (y.renderOutside append call') := by
  have hsink : Sink.Related (Value.Match p) (WritesAlike append i l₀ r₀ fun _ => True) (sharedSink call i)
      (outsideSink append call') :=
    { done := .done ha trivial
      seq := fun hm hk => .seq ha hm fun _ _ => hk
      put := fun chunk => .write chunk
      stop := fun _ => .stop _ rfl rfl
      run := fun hc he => run_alike h hg hg' hs hi hp hc he }
  exact render_related hsink hx

end StreamNode

end TemplateScript
