import TemplateScript.Proofs.Evaluation.Showing

namespace TemplateScript

lemma Literal.unsourced_eq_iff {a b : Literal} :
    a.unsourced = b.unsourced ↔ Evaluation.literal a = Evaluation.literal b := by
  cases a <;> cases b <;> simp [unsourced, Evaluation.literal]

namespace Stmt

lemma canonical_branch (test : Expr) (consequent : Stmt) (alternate : Option Stmt) :
    (branch test consequent alternate).canonical =
      .branch test.canonical (.block (canonicalAll consequent.parts))
        (alternate.map fun s => .block (canonicalAll s.parts)) := by
  cases alternate <;> simp only [canonical, asBody_canonical, Option.map]

lemma canonical_leave (value : Option Expr) : (leave value).canonical = .leave (value.map Expr.canonical) := by
  cases value <;> simp only [canonical, Option.map]

lemma isBlock_or_parts (s : Stmt) : (∃ ss, s = .block ss) ∨ s.parts = [s] := by
  cases s <;> simp [parts]

end Stmt

section Alike

lemma Stmt.AlikeBodies.of_parts {V : String → Prop} {s s' : Stmt}
    (h : List.Forall₂ (Stmt.Alike V) s.parts s'.parts) : Stmt.AlikeBodies V s s' := by
  rcases s.isBlock_or_parts with ⟨ss, rfl⟩ | hs
  · rcases s'.isBlock_or_parts with ⟨ss', rfl⟩ | hs'
    · exact .same (.block h)
    · rw [Stmt.parts_block, hs'] at h
      cases h with
      | cons hx hnil =>
        cases hnil
        exact .unbraced hs' hx
  · rcases s'.isBlock_or_parts with ⟨ss', rfl⟩ | hs'
    · rw [Stmt.parts_block, hs] at h
      cases h with
      | cons hx hnil =>
        cases hnil
        exact .braced hs hx
    · rw [hs, hs'] at h
      cases h with
      | cons hx _ => exact .same hx

lemma Stmt.AlikeBodies.of_canonical {s s' : Stmt} (h : Stmt.canonicalAll s.parts = Stmt.canonicalAll s'.parts)
    (ih : ∀ x, s.canonical = x.canonical → Stmt.Alike AnyName s x) : Stmt.AlikeBodies AnyName s s' := by
  apply Stmt.AlikeBodies.of_parts
  rcases s.isBlock_or_parts with ⟨ss, rfl⟩ | hs
  · have hblock : (Stmt.block ss).canonical = (Stmt.block s'.parts).canonical := by
      simp only [Stmt.canonical, ← h, Stmt.parts_block]
    cases ih _ hblock with
    | block hss => exact hss
  · rw [hs] at h ⊢
    match s'.parts, h with
    | [x], h =>
      simp only [Stmt.canonicalAll, List.cons.injEq, and_true] at h
      exact .cons (ih x h) .nil
    | [], h | _ :: _ :: _, h => simp only [Stmt.canonicalAll, List.cons.injEq, reduceCtorEq, and_false] at h

mutual

lemma Expr.Alike.of_canonical : (e e' : Expr) → e.canonical = e'.canonical → Expr.Alike AnyName e e'
  | .identifier name, e', h => by
    cases e' with
    | identifier name' =>
      simp only [Expr.canonical, Expr.identifier.injEq] at h
      subst h
      exact .identifier trivial
    | _ => simp only [Expr.canonical, reduceCtorEq] at h
  | .literal l, e', h => by
    cases e' with
    | literal l' =>
      simp only [Expr.canonical, Expr.literal.injEq] at h
      exact .literal (Literal.unsourced_eq_iff.1 h)
    | _ => simp only [Expr.canonical, reduceCtorEq] at h
  | .array parts, e', h => by
    cases e' with
    | array parts' =>
      simp only [Expr.canonical, Expr.array.injEq] at h
      exact .array (Item.Alike.of_canonical parts parts' h)
    | _ => simp only [Expr.canonical, reduceCtorEq] at h
  | .object parts, e', h => by
    cases e' with
    | object parts' =>
      simp only [Expr.canonical, Expr.object.injEq] at h
      exact .object (Property.Alike.of_canonical parts parts' h)
    | _ => simp only [Expr.canonical, reduceCtorEq] at h
  | .member object name, e', h => by
    cases e' with
    | member object' name' =>
      simp only [Expr.canonical, Expr.member.injEq] at h
      obtain ⟨ho, rfl⟩ := h
      exact .member name (Expr.Alike.of_canonical object object' ho)
    | _ => simp only [Expr.canonical, reduceCtorEq] at h
  | .index object index, e', h => by
    cases e' with
    | index object' index' =>
      simp only [Expr.canonical, Expr.index.injEq] at h
      exact .index (Expr.Alike.of_canonical object object' h.1) (Expr.Alike.of_canonical index index' h.2)
    | _ => simp only [Expr.canonical, reduceCtorEq] at h
  | .call callee arguments, e', h => by
    cases e' with
    | call callee' arguments' =>
      simp only [Expr.canonical, Expr.call.injEq] at h
      exact .call (Expr.Alike.of_canonical callee callee' h.1) (Item.Alike.of_canonical arguments arguments' h.2)
    | _ => simp only [Expr.canonical, reduceCtorEq] at h
  | .not operand, e', h => by
    cases e' with
    | not operand' =>
      simp only [Expr.canonical, Expr.not.injEq] at h
      exact .not (Expr.Alike.of_canonical operand operand' h)
    | _ => simp only [Expr.canonical, reduceCtorEq] at h
  | .binary op left right, e', h => by
    cases e' with
    | binary op' left' right' =>
      simp only [Expr.canonical, Expr.binary.injEq] at h
      obtain ⟨rfl, hl, hr⟩ := h
      exact .binary op (Expr.Alike.of_canonical left left' hl) (Expr.Alike.of_canonical right right' hr)
    | _ => simp only [Expr.canonical, reduceCtorEq] at h
  | .conditional test consequent alternate, e', h => by
    cases e' with
    | conditional test' consequent' alternate' =>
      simp only [Expr.canonical, Expr.conditional.injEq] at h
      obtain ⟨ht, hc, ha⟩ := h
      exact .conditional (Expr.Alike.of_canonical test test' ht) (Expr.Alike.of_canonical consequent consequent' hc)
        (Expr.Alike.of_canonical alternate alternate' ha)
    | _ => simp only [Expr.canonical, reduceCtorEq] at h
  | .arrow params body, e', h => by
    cases e' with
    | arrow params' body' =>
      simp only [Expr.canonical, Expr.arrow.injEq] at h
      obtain ⟨rfl, hb⟩ := h
      exact .arrow params (Body.Alike.of_canonical body body' hb)
    | _ => simp only [Expr.canonical, reduceCtorEq] at h
  | .markup node, e', h => by
    cases e' with
    | markup node' =>
      simp only [Expr.canonical, Expr.markup.injEq] at h
      exact .markup h
    | _ => simp only [Expr.canonical, reduceCtorEq] at h
termination_by structural e => e

lemma Item.Alike.of_canonical : (parts parts' : List Item) → Item.canonicalAll parts = Item.canonicalAll parts' →
    List.Forall₂ (Item.Alike AnyName) parts parts'
  | [], [], _ => .nil
  | .single value :: parts, .single value' :: parts', h => by
    simp only [Item.canonicalAll, List.cons.injEq, Item.single.injEq] at h
    exact .cons (.single (Expr.Alike.of_canonical value value' h.1)) (Item.Alike.of_canonical parts parts' h.2)
  | .spread source :: parts, .spread source' :: parts', h => by
    simp only [Item.canonicalAll, List.cons.injEq, Item.spread.injEq] at h
    exact .cons (.spread (Expr.Alike.of_canonical source source' h.1)) (Item.Alike.of_canonical parts parts' h.2)
  | [], .single _ :: _, h | [], .spread _ :: _, h | .single _ :: _, [], h | .spread _ :: _, [], h
  | .single _ :: _, .spread _ :: _, h | .spread _ :: _, .single _ :: _, h => by
    simp only [Item.canonicalAll, List.cons.injEq, reduceCtorEq, false_and] at h
termination_by structural parts => parts

lemma Property.Alike.of_canonical : (parts parts' : List Property) →
    Property.canonicalAll parts = Property.canonicalAll parts' → List.Forall₂ (Property.Alike AnyName) parts parts'
  | [], [], _ => .nil
  | .keyed key value :: parts, .keyed key' value' :: parts', h => by
    simp only [Property.canonicalAll, List.cons.injEq, Property.keyed.injEq] at h
    obtain ⟨⟨rfl, hv⟩, hp⟩ := h
    exact .cons (.keyed key (Expr.Alike.of_canonical value value' hv)) (Property.Alike.of_canonical parts parts' hp)
  | .spread source :: parts, .spread source' :: parts', h => by
    simp only [Property.canonicalAll, List.cons.injEq, Property.spread.injEq] at h
    exact .cons (.spread (Expr.Alike.of_canonical source source' h.1)) (Property.Alike.of_canonical parts parts' h.2)
  | [], .keyed _ _ :: _, h | [], .spread _ :: _, h | .keyed _ _ :: _, [], h | .spread _ :: _, [], h
  | .keyed _ _ :: _, .spread _ :: _, h | .spread _ :: _, .keyed _ _ :: _, h => by
    simp only [Property.canonicalAll, List.cons.injEq, reduceCtorEq, false_and] at h
termination_by structural parts => parts

lemma Body.Alike.of_canonical : (body body' : Body) → body.canonical = body'.canonical →
    Body.Alike AnyName body body'
  | .expression value, .expression value', h => by
    simp only [Body.canonical, Body.expression.injEq] at h
    exact .expression (Expr.Alike.of_canonical value value' h)
  | .block ss, .block ss', h => by
    simp only [Body.canonical, Body.block.injEq] at h
    exact .block (Stmt.Alike.of_canonicalAll ss ss' h)
  | .expression _, .block _, h | .block _, .expression _, h => by simp only [Body.canonical, reduceCtorEq] at h
termination_by structural body => body

lemma Stmt.Alike.of_canonical : (s s' : Stmt) → s.canonical = s'.canonical → Stmt.Alike AnyName s s'
  | .importModule name path, s', h => by
    cases s' with
    | importModule name' path' =>
      simp only [Stmt.canonical, Stmt.importModule.injEq] at h
      obtain ⟨rfl, rfl⟩ := h
      exact .importModule name path
    | _ => simp only [Stmt.canonical, Stmt.canonical_branch, Stmt.canonical_leave, reduceCtorEq] at h
  | .declare kind name value, s', h => by
    cases s' with
    | declare kind' name' value' =>
      simp only [Stmt.canonical, Stmt.declare.injEq] at h
      obtain ⟨rfl, rfl, hv⟩ := h
      exact .declare kind name (Expr.Alike.of_canonical value value' hv)
    | _ => simp only [Stmt.canonical, Stmt.canonical_branch, Stmt.canonical_leave, reduceCtorEq] at h
  | .expression value, s', h => by
    cases s' with
    | expression value' =>
      simp only [Stmt.canonical, Stmt.expression.injEq] at h
      exact .expression (Expr.Alike.of_canonical value value' h)
    | _ => simp only [Stmt.canonical, Stmt.canonical_branch, Stmt.canonical_leave, reduceCtorEq] at h
  | .branch test consequent none, s', h => by
    cases s' with
    | branch test' consequent' alternate' =>
      cases alternate' with
      | none =>
        simp only [Stmt.canonical, Stmt.asBody_canonical, Stmt.branch.injEq, Stmt.block.injEq, and_true] at h
        exact .branch (Expr.Alike.of_canonical test test' h.1)
          (.of_canonical h.2 (Stmt.Alike.of_canonical consequent)) .none
      | some _ => simp only [Stmt.canonical, Stmt.branch.injEq, reduceCtorEq, and_false] at h
    | _ => simp only [Stmt.canonical, Stmt.canonical_leave, reduceCtorEq] at h
  | .branch test consequent (some alternate), s', h => by
    cases s' with
    | branch test' consequent' alternate' =>
      cases alternate' with
      | none => simp only [Stmt.canonical, Stmt.branch.injEq, reduceCtorEq, and_false] at h
      | some alternate' =>
        simp only [Stmt.canonical, Stmt.asBody_canonical, Stmt.branch.injEq, Stmt.block.injEq, Option.some.injEq] at h
        obtain ⟨ht, hc, ha⟩ := h
        exact .branch (Expr.Alike.of_canonical test test' ht)
          (.of_canonical hc (Stmt.Alike.of_canonical consequent))
          (.some (.of_canonical ha (Stmt.Alike.of_canonical alternate)))
    | _ => simp only [Stmt.canonical, Stmt.canonical_leave, reduceCtorEq] at h
  | .block ss, s', h => by
    cases s' with
    | block ss' =>
      simp only [Stmt.canonical, Stmt.block.injEq] at h
      exact .block (Stmt.Alike.of_canonicalAll ss ss' h)
    | _ => simp only [Stmt.canonical, Stmt.canonical_branch, Stmt.canonical_leave, reduceCtorEq] at h
  | .forOf name source body, s', h => by
    cases s' with
    | forOf name' source' body' =>
      simp only [Stmt.canonical, Stmt.asBody_canonical, Stmt.forOf.injEq, Stmt.block.injEq] at h
      obtain ⟨rfl, hs, hb⟩ := h
      exact .forOf name (Expr.Alike.of_canonical source source' hs)
        (.of_canonical hb (Stmt.Alike.of_canonical body))
    | _ => simp only [Stmt.canonical, Stmt.canonical_branch, Stmt.canonical_leave, reduceCtorEq] at h
  | .leave none, s', h => by
    cases s' with
    | leave value' =>
      cases value' with
      | none => exact .leave .none
      | some _ => simp only [Stmt.canonical, Stmt.leave.injEq, reduceCtorEq] at h
    | _ => simp only [Stmt.canonical, Stmt.canonical_branch, reduceCtorEq] at h
  | .leave (some value), s', h => by
    cases s' with
    | leave value' =>
      cases value' with
      | none => simp only [Stmt.canonical, Stmt.leave.injEq, reduceCtorEq] at h
      | some value' =>
        simp only [Stmt.canonical, Stmt.leave.injEq, Option.some.injEq] at h
        exact .leave (.some (Expr.Alike.of_canonical value value' h))
    | _ => simp only [Stmt.canonical, Stmt.canonical_branch, reduceCtorEq] at h
termination_by structural s => s

lemma Stmt.Alike.of_canonicalAll : (ss ss' : List Stmt) → Stmt.canonicalAll ss = Stmt.canonicalAll ss' →
    List.Forall₂ (Stmt.Alike AnyName) ss ss'
  | [], [], _ => .nil
  | s :: ss, s' :: ss', h => by
    simp only [Stmt.canonicalAll, List.cons.injEq] at h
    exact .cons (Stmt.Alike.of_canonical s s' h.1) (Stmt.Alike.of_canonicalAll ss ss' h.2)
  | [], _ :: _, h | _ :: _, [], h => by simp only [Stmt.canonicalAll, reduceCtorEq] at h
termination_by structural ss => ss

end

variable {V : String → Prop}

lemma Stmt.AlikeBodies.asBody_canonical_eq {s s' : Stmt} (h : Stmt.AlikeBodies V s s')
    (ih : ∀ x, Stmt.Alike V s x → s.canonical = x.canonical) : s.canonical.asBody = s'.canonical.asBody := by
  cases h with
  | same h => rw [ih _ h]
  | braced hs h =>
    rw [Stmt.asBody_canonical, Stmt.asBody_canonical, hs, Stmt.parts_block]
    simp only [Stmt.canonicalAll, ih _ h]
  | @unbraced x _ hs h =>
    have hblock := ih _ (.block (.cons h .nil))
    rw [hblock, Stmt.asBody_canonical, Stmt.asBody_canonical, hs, Stmt.parts_block]

mutual

lemma Expr.Alike.canonical_eq : {e e' : Expr} → Expr.Alike V e e' → e.canonical = e'.canonical
  | _, _, .identifier _ => rfl
  | _, _, .literal hl => by simp only [Expr.canonical, Literal.unsourced_eq_iff.2 hl]
  | _, _, .array hp => by simp only [Expr.canonical, Item.Alike.canonicalAll_eq hp]
  | _, _, .object hp => by simp only [Expr.canonical, Property.Alike.canonicalAll_eq hp]
  | _, _, .member _ ho => by simp only [Expr.canonical, ho.canonical_eq]
  | _, _, .index ho hi => by simp only [Expr.canonical, ho.canonical_eq, hi.canonical_eq]
  | _, _, .call hc ha => by simp only [Expr.canonical, hc.canonical_eq, Item.Alike.canonicalAll_eq ha]
  | _, _, .not ho => by simp only [Expr.canonical, ho.canonical_eq]
  | _, _, .binary _ hl hr => by simp only [Expr.canonical, hl.canonical_eq, hr.canonical_eq]
  | _, _, .conditional ht hc ha => by
    simp only [Expr.canonical, ht.canonical_eq, hc.canonical_eq, ha.canonical_eq]
  | _, _, .arrow _ hb => by simp only [Expr.canonical, hb.canonical_eq]
  | _, _, .markup hn => by simp only [Expr.canonical, hn]
termination_by structural e => e

lemma Item.Alike.canonicalAll_eq : {parts parts' : List Item} → List.Forall₂ (Item.Alike V) parts parts' →
    Item.canonicalAll parts = Item.canonicalAll parts'
  | _, _, .nil => rfl
  | _, _, .cons (.single hv) hp => by
    simp only [Item.canonicalAll, hv.canonical_eq, Item.Alike.canonicalAll_eq hp]
  | _, _, .cons (.spread hv) hp => by
    simp only [Item.canonicalAll, hv.canonical_eq, Item.Alike.canonicalAll_eq hp]
termination_by structural parts => parts

lemma Property.Alike.canonicalAll_eq : {parts parts' : List Property} →
    List.Forall₂ (Property.Alike V) parts parts' → Property.canonicalAll parts = Property.canonicalAll parts'
  | _, _, .nil => rfl
  | _, _, .cons (.keyed _ hv) hp => by
    simp only [Property.canonicalAll, hv.canonical_eq, Property.Alike.canonicalAll_eq hp]
  | _, _, .cons (.spread hv) hp => by
    simp only [Property.canonicalAll, hv.canonical_eq, Property.Alike.canonicalAll_eq hp]
termination_by structural parts => parts

lemma Body.Alike.canonical_eq : {body body' : Body} → Body.Alike V body body' → body.canonical = body'.canonical
  | _, _, .expression hv => by simp only [Body.canonical, hv.canonical_eq]
  | _, _, .block hss => by simp only [Body.canonical, Stmt.Alike.canonicalAll_eq hss]
termination_by structural body => body

lemma Stmt.Alike.canonical_eq : {s s' : Stmt} → Stmt.Alike V s s' → s.canonical = s'.canonical
  | _, _, .importModule _ _ => rfl
  | _, _, .declare _ _ hv => by simp only [Stmt.canonical, hv.canonical_eq]
  | _, _, .expression hv => by simp only [Stmt.canonical, hv.canonical_eq]
  | .branch _ consequent none, _, .branch ht hc .none => by
    have hbody := hc.asBody_canonical_eq fun _ => Stmt.Alike.canonical_eq (s := consequent)
    simp only [Stmt.canonical, ht.canonical_eq, hbody]
  | .branch _ consequent (some alternate), _, .branch ht hc (.some ha) => by
    have hbody := hc.asBody_canonical_eq fun _ => Stmt.Alike.canonical_eq (s := consequent)
    have halternate := ha.asBody_canonical_eq fun _ => Stmt.Alike.canonical_eq (s := alternate)
    simp only [Stmt.canonical, ht.canonical_eq, hbody, halternate]
  | _, _, .block hss => by simp only [Stmt.canonical, Stmt.Alike.canonicalAll_eq hss]
  | .forOf _ _ body, _, .forOf _ hv hb => by
    have hbody := hb.asBody_canonical_eq fun _ => Stmt.Alike.canonical_eq (s := body)
    simp only [Stmt.canonical, hv.canonical_eq, hbody]
  | _, _, .leave .none => rfl
  | _, _, .leave (.some hv) => by simp only [Stmt.canonical, hv.canonical_eq]
termination_by structural s => s

lemma Stmt.Alike.canonicalAll_eq : {ss ss' : List Stmt} → List.Forall₂ (Stmt.Alike V) ss ss' →
    Stmt.canonicalAll ss = Stmt.canonicalAll ss'
  | _, _, .nil => rfl
  | _, _, .cons h hs => by simp only [Stmt.canonicalAll, h.canonical_eq, Stmt.Alike.canonicalAll_eq hs]
termination_by structural ss => ss

end

end Alike

lemma Program.equivalent_iff {p q : Program} : p.Equivalent q ↔ List.Forall₂ (Stmt.Alike AnyName) p q :=
  ⟨Stmt.Alike.of_canonicalAll p q, Stmt.Alike.canonicalAll_eq⟩

open Evaluation

lemma Value.Match.of_closure {r : Pairing} {i : Nat} {params : List String} {body : Body} {outer : Scope} {w : Value}
    (h : Value.Match r (.closure i params body outer) w) :
    ∃ j body' outer' V, w = .closure j params body' outer' ∧ body.canonical = body'.canonical ∧
      Scope.Match r V outer outer' := by
  cases h with
  | closure V _ hb ho => exact ⟨_, _, _, V, rfl, hb.canonical_eq, ho⟩

/-- Two stores agree on a scope: its names have corresponding values in them, functions with equivalent bodies among
them, and show as the same texts or fail alike, however deep calls may nest. -/
structure Store.Agree (r : Pairing) (scope : Scope) (t t' : Store) : Prop where
  stores : Store.Match r t t'
  values (name : String) : Option.Rel (Value.Match r) (t.get? name scope) (t'.get? name scope)
  functions (name : String) {i : Nat} {params : List String} {body : Body} {outer : Scope} :
    t.get? name scope = some (.closure i params body outer) →
      ∃ j body' outer' V, t'.get? name scope = some (.closure j params body' outer') ∧
        body.canonical = body'.canonical ∧ Scope.Match r V outer outer'
  texts (m : Nat) (name : String) : SameEnd (shown (callWithin m) scope name t) (shown (callWithin m) scope name t')

lemma Store.Match.agree {r : Pairing} {t t' : Store} (h : Store.Match r t t') {scope : Scope}
    (hs : Scope.Match r AnyName scope scope) : t.Agree r scope t' where
  stores := h
  values _ := h.get?_related trivial hs
  functions name _ _ _ _ hclosure := by
    have hv : Option.Rel (Value.Match r) (t.get? name scope) (t'.get? name scope) := h.get?_related trivial hs
    rw [hclosure] at hv
    generalize t'.get? name scope = y at hv ⊢
    cases hv with
    | some hv =>
      obtain ⟨j, body', outer', V, rfl, hbody, hscope⟩ := hv.of_closure
      exact ⟨j, body', outer', V, rfl, hbody, hscope⟩
  texts m _ := (shown_follows (callWithin_follows m) hs trivial t t' h).sameEnd

/-- Equivalent programs run alike. From the same closed store and scope, with the same modules and the same depth for
calls, they end in the same success or the same failure, and the stores that they leave agree on the scope. -/
theorem Program.Equivalent.runs_alike {p q : Program} (h : p.Equivalent q) {s : Store} (hs : s.Closed) {modules : Modules}
    (hmodules : Fields.Match (.same s) modules modules) {frame : Nat} {outer : Scope}
    (hscope : Scope.In s (frame :: outer)) (n : Nat) :
    let scope := frame :: outer
    let run (code : Program) := program (callWithin n) modules scope code s
    ∃ r t t', Pairing.same s ≤ r ∧ t.Agree r scope t' ∧
      (run p = .ok () t ∧ run q = .ok () t' ∨ ∃ halt, run p = .error halt t ∧ run q = .error halt t') := by
  intro scope run
  have hframe : (Pairing.same s).Heads frame frame := .inl ⟨rfl, hscope frame List.mem_cons_self⟩
  have hsame : Scope.Match (.same s) AnyName scope scope := hscope.match AnyName
  have ho : Outcome (.same s) (fun _ _ _ => True) s s (run p) (run q) :=
    program_follows (callWithin_follows n) hmodules hframe hsame (Program.equivalent_iff.1 h) s s hs.match
  generalize run p = x at ho ⊢
  generalize run q = y at ho ⊢
  cases ho with
  | ok had _ => exact ⟨_, _, _, had.le, had.stores.agree (hsame.mono had.le), .inl ⟨rfl, rfl⟩⟩
  | error halt had => exact ⟨_, _, _, had.le, had.stores.agree (hsame.mono had.le), .inr ⟨halt, rfl, rfl⟩⟩

theorem Program.Equivalent.runs_alike_reread :
    let p : Program :=
      [.declare .constant "find" (.arrow ["xs", "y"] (.block
        [.forOf "x" (.identifier "xs") (.branch (.binary .strictEq (.identifier "x") (.identifier "y"))
          (.leave (some (.identifier "x"))) (some (.expression (.identifier "x")))),
         .leave (some (.string "none"))])),
       .declare .constant "found" (.call (.identifier "find")
        [.single (.array [.single (.string "a"), .single (.string "b")]), .single (.string "b")])]
    let s : Store := { frames := #[[]] }
    p.Equivalent p.reread ∧ s.Closed ∧ ∀ n, ∃ r t t', Pairing.same s ≤ r ∧ t.Agree r [0] t' ∧
      (program (callWithin n) [] [0] p s = .ok () t ∧ program (callWithin n) [] [0] p.reread s = .ok () t' ∨
        ∃ halt, program (callWithin n) [] [0] p s = .error halt t ∧
          program (callWithin n) [] [0] p.reread s = .error halt t') := by
  intro p s
  have h : p.Equivalent p.reread := (Program.reread_equivalent p).symm
  have hs : s.Closed := by
    intro frame bindings hb
    have hnil : bindings = [] := by
      cases frame with
      | zero => exact (Option.some.inj hb).symm
      | succ frame => simp [s] at hb
    subst hnil
    exact .nil
  have hscope : Scope.In s [0] := by simp [Scope.In, s]
  exact ⟨h, hs, fun n => h.runs_alike hs .nil hscope n⟩

end TemplateScript
