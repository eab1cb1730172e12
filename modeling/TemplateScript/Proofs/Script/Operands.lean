import TemplateScript.Proofs.Script.WellFormed
import TemplateScript.Proofs.Script.Words

/-!
Operands and their places. Every place of an expression has a reader of its own, and a text that is read at one
place is read at every place that allows weaker forms, unless what follows goes on with it.
-/

namespace TemplateScript.Parser

open Lexeme

section Follow

variable {k k' : Nat} {c : Char} {cs : List Char}

def continues (level : Nat) (c : Char) : Bool :=
  c == '(' || c == '.' || c == '[' || (c == '+' && decide (level ≤ 13)) ||
    ((c == '=' || c == '!') && decide (level ≤ 10)) || (c == '&' && decide (level ≤ 5)) ||
    (c == '|' && decide (level ≤ 4)) || (c == '?' && decide (level ≤ 3))

structure Free (level : Nat) (cs : List Char) : Prop where
  apart : Apart cs
  stops : ∀ c ∈ next? cs, continues level c = false

lemma continues_mono (h : k ≤ k') (hc : continues k c = false) : continues k' c = false := by
  simp only [continues, Bool.or_eq_false_iff, Bool.and_eq_false_iff, decide_eq_false_iff_not] at hc ⊢
  grind

lemma Free.mono (h : Free k cs) (hk : k ≤ k') : Free k' cs :=
  ⟨h.apart, fun c hc => continues_mono hk (h.stops c hc)⟩

lemma Free.symbol_eq_none (h : Free k cs) {s : String} {p : List Char} (hs : s.toList = c :: p)
    (hc : continues k c = true) : symbol s cs = none := by
  refine Lexeme.symbol_eq_none hs fun hnext => ?_
  have := h.stops c hnext
  simp [hc] at this

lemma free_cons (hsolid : isSolid c) (hname : isNameChar c = false) (hc : continues k c = false) (cs : List Char) :
    Free k (c :: cs) := by
  refine ⟨apart_cons hname ?_ cs, ?_⟩
  · rintro rfl
    simp [continues] at hc
  · rw [next?_cons hsolid]
    rintro d ⟨⟩
    exact hc

lemma free_space (hsolid : isSolid c) (hc : continues k c = false) (cs : List Char) : Free k (' ' :: c :: cs) := by
  refine ⟨apart_cons (by rfl) (by decide) _, ?_⟩
  rw [next?_space, next?_cons hsolid]
  rintro d ⟨⟩
  exact hc

lemma free_nil : Free k [] := ⟨trivial, by simp [next?, skip]⟩

end Follow

section Extension

variable {β : Type} {step : Reader β} {f : Expr → β → Checked Expr} {m : Nat} {e e' : Expr} {cs rest : List Char}
  {b : β}

def extend (step : Reader β) (f : Expr → β → Checked Expr) (m : Nat) (e : Expr) : Reader (Checked Expr) := fun cs =>
  (Reader.many step m cs).map fun (bs, cs) => (bs.foldlM f e, cs)

lemma extend_step (h : step cs = some (b, rest)) (hf : f e b = .ok e') :
    extend step f (m + 1) e cs = extend step f m e' rest := by
  simp only [extend, Reader.many, h, Option.map_map]
  congr 1
  funext x
  simp only [Function.comp_apply, List.foldlM_cons, hf]
  rfl

lemma extend_stop (h : step cs = none) : extend step f m e cs = some (.ok e, cs) := by
  cases m <;> simp only [extend, Reader.many, h] <;> rfl

end Extension

namespace Grammar

variable {g : Grammar} {n m : Nat} {e e' : Expr} {cs rest : List Char}

lemma postfixed_of_primary (h : g.primary n cs = some (.ok e, rest)) :
    g.postfixed n cs = extend (g.suffix n) Suffix.apply n e rest := by
  simp only [postfixed, h, extend, Option.bind_eq_bind, Option.bind_some]
  cases Reader.many (g.suffix n) n rest <;> rfl

def link (ops : List BinaryOp) (operand : Reader (Checked Expr)) : Reader (BinaryOp × Checked Expr) := fun cs => do
  let (op, cs) ← operator ops cs
  let (e, cs) ← operand cs
  return ((op, e), cs)

def linked (e : Expr) : BinaryOp × Checked Expr → Checked Expr := fun (op, r) => r.map (.binary op e)

lemma chain_of_operand {ops : List BinaryOp} {operand : Reader (Checked Expr)} (h : operand cs = some (.ok e, rest)) :
    chain n ops operand cs = extend (link ops operand) linked n e rest := by
  simp only [chain, h, extend]
  rw [show (fun cs => do
      let (op, cs) ← operator ops cs
      let (e, cs) ← operand cs
      return ((op, e), cs)) = link ops operand from rfl]
  simp only [Option.bind_eq_bind, Option.bind_some]
  cases Reader.many (link ops operand) n rest <;> rfl

def sign : Reader Unit := fun cs => (symbol "!" cs).map fun cs => ((), cs)

def signed (g : Grammar) (n m : Nat) : Reader (Checked Expr) := fun cs => do
  let (signs, cs) ← Reader.many sign m cs
  let (operand, cs) ← g.postfixed n cs
  return (operand.map fun e => signs.foldl (fun e _ => .not e) e, cs)

lemma signed_of_postfixed (hsign : symbol "!" cs = none) (h : g.postfixed n cs = some (.ok e, rest)) :
    g.signed n m cs = some (.ok e, rest) := by
  have hmany : Reader.many sign m cs = some ([], cs) := by
    cases m with
    | zero => rfl
    | succ m => simp [Reader.many, sign, hsign]
  simp only [signed, hmany]
  simp only [Option.bind_eq_bind, Option.bind_some, h]
  rfl

lemma foldl_not (signs : List Unit) (e : Expr) :
    signs.foldl (fun e _ => Expr.not e) (.not e) = .not (signs.foldl (fun e _ => .not e) e) := by
  induction signs generalizing e with
  | nil => rfl
  | cons _ signs ih => exact ih _

lemma signed_sign (h : g.signed n m cs = some (.ok e, rest)) :
    g.signed n (m + 1) ('!' :: cs) = some (.ok (.not e), rest) := by
  have hsign : sign ('!' :: cs) = some ((), cs) := rfl
  simp only [signed, Reader.many, hsign, Option.bind_eq_bind] at h ⊢
  cases hmany : Reader.many sign m cs with
  | none => simp [hmany] at h
  | some result =>
    obtain ⟨signs, cs⟩ := result
    simp only [hmany, Option.map_some, Option.bind_some] at h ⊢
    cases hoperand : g.postfixed n cs with
    | none => simp [hoperand] at h
    | some result =>
      obtain ⟨operand, rest⟩ := result
      simp only [hoperand, Option.bind_some, Option.pure_def, Option.some.injEq, Prod.mk.injEq] at h ⊢
      obtain ⟨h, rfl⟩ := h
      cases operand with
      | error fault => cases h
      | ok value =>
        obtain rfl := Except.ok.inj h
        exact ⟨congrArg Except.ok (foldl_not signs value), rfl⟩

end Grammar

inductive Place where
  | whole
  | conditional
  | or
  | and
  | equality
  | add
  | unary
  | postfixed
  deriving DecidableEq

namespace Place

def level : Place → Nat
  | whole => 2
  | conditional => 3
  | or => 4
  | and => 5
  | equality => 10
  | add => 13
  | unary => 16
  | postfixed => 18

def above : Place → Place
  | whole => conditional
  | conditional => or
  | or => and
  | and => equality
  | equality => add
  | add => unary
  | unary | postfixed => postfixed

def ops : Place → List BinaryOp
  | or => [.or]
  | and => [.and]
  | equality => [.strictEq, .strictNe]
  | add => [.add]
  | _ => []

def reader (g : Grammar) (n : Nat) : Place → Reader (Checked Expr)
  | whole => g.expressionOf n
  | conditional => g.conditional n
  | or => g.binary n
  | and => Grammar.chain n [.and] (Grammar.chain n [.strictEq, .strictNe] (Grammar.chain n [.add] (g.unary n)))
  | equality => Grammar.chain n [.strictEq, .strictNe] (Grammar.chain n [.add] (g.unary n))
  | add => Grammar.chain n [.add] (g.unary n)
  | unary => g.unary n
  | postfixed => g.postfixed n

lemma reader_eq_chain {p : Place} (hp : p.ops ≠ []) (g : Grammar) (n : Nat) :
    p.reader g n = Grammar.chain n p.ops (p.above.reader g n) := by
  cases p with
  | or | and | equality | add => rfl
  | _ => exact absurd rfl hp

lemma level_le_above (p : Place) : p.level ≤ p.above.level := by cases p <;> decide

lemma above_level_le {p q : Place} (h : q.level ≤ p.level) (hne : q ≠ p) :
    q.above.level ≤ p.level ∧ q.level < q.above.level := by
  cases p <;> cases q <;> simp [level, above] at h hne ⊢

end Place

section Reads

open Grammar

variable {n : Nat} {t r : List Char} {e : Expr} {p q : Place}

/-- A text is read as an expression at a place. Where the reader goes on with what it has read, it is known how
often it still may do so. -/
def Reads (n : Nat) (t : List Char) (e : Expr) : Place → Prop
  | .postfixed => ∀ r, Apart r → ∃ m, n + 1 ≤ m + t.length ∧
    (grammar n).postfixed (n + 1) (t ++ r) = extend ((grammar n).suffix (n + 1)) Suffix.apply m e r
  | .unary => ∀ m r, t.length ≤ m → Free 16 r → (grammar n).signed (n + 1) m (t ++ r) = some (.ok e, r)
  | .whole => ∀ r, Free 2 r → (grammar n).expressionOf (n + 1) (t ++ r) = some (.ok e, r)
  | .conditional => ∀ r, Free 3 r → (grammar n).conditional (n + 1) (t ++ r) = some (.ok e, r)
  | p => ∀ r, Free p.above.level r → ∃ m, n + 1 ≤ m + t.length ∧
    p.reader (grammar n) (n + 1) (t ++ r) = extend (link p.ops (p.above.reader (grammar n) (n + 1))) linked m e r

lemma reads_chain_iff (hp : p.ops ≠ []) : Reads n t e p ↔ ∀ r, Free p.above.level r → ∃ m, n + 1 ≤ m + t.length ∧
    p.reader (grammar n) (n + 1) (t ++ r) = extend (link p.ops (p.above.reader (grammar n) (n + 1))) linked m e r := by
  cases p with
  | or | and | equality | add => rfl
  | _ => exact absurd rfl hp

lemma Free.suffix_eq_none (h : Free 18 r) (g : Grammar) (n : Nat) : g.suffix n r = none := by
  have h1 : symbol "(" r = none := h.symbol_eq_none rfl rfl
  have h2 : symbol "." r = none := h.symbol_eq_none rfl rfl
  have h3 : symbol "[" r = none := h.symbol_eq_none rfl rfl
  simp [suffix, items, h1, h2, h3]

lemma Free.operator_eq_none (h : Free p.level r) : operator p.ops r = none := by
  have hsymbol (op : BinaryOp) (hop : op ∈ p.ops) : symbol op.symbol r = none := by
    cases p <;> simp only [Place.ops, List.mem_cons, List.not_mem_nil, or_false] at hop
    · subst hop
      exact h.symbol_eq_none rfl rfl
    · subst hop
      exact h.symbol_eq_none rfl rfl
    · rcases hop with rfl | rfl
      · exact h.symbol_eq_none rfl rfl
      · exact h.symbol_eq_none rfl rfl
    · subst hop
      exact h.symbol_eq_none rfl rfl
  rw [operator, List.findSome?_eq_none_iff]
  intro op hop
  rw [hsymbol op hop]
  rfl

lemma Reads.stop (h : Reads n t e p) (hlen : t.length ≤ n) (hr : Free p.level r) :
    p.reader (grammar n) (n + 1) (t ++ r) = some (.ok e, r) := by
  by_cases hp : p.ops = []
  · cases p with
    | whole => exact h r hr
    | conditional => exact h r hr
    | unary => exact h (n + 1) r (by omega) hr
    | postfixed =>
      obtain ⟨m, -, hm⟩ := h r hr.apart
      exact hm.trans (extend_stop (hr.suffix_eq_none _ _))
    | _ => simp [Place.ops] at hp
  · obtain ⟨m, -, hm⟩ := (reads_chain_iff hp).1 h r (hr.mono p.level_le_above)
    refine hm.trans (extend_stop ?_)
    simp [link, hr.operator_eq_none]

structure Begins (t : List Char) (p : Place) : Prop where
  sign : p = .postfixed → ∀ r, Apart r → symbol "!" (t ++ r) = none
  arrow : p ≠ .whole → ∀ g n r, Free 2 r → Grammar.arrow g n (t ++ r) = none

lemma conditional_of_binary {g : Grammar} {n : Nat} {cs : List Char} (h : g.binary n cs = some (.ok e, r))
    (hr : symbol "?" r = none) : g.conditional n cs = some (.ok e, r) := by
  simp [conditional, h, hr]

lemma Reads.below (hq : q ≠ .postfixed) (hb : Begins t p) (hle : q.above.level ≤ p.level) (hlen : t.length ≤ n)
    (h : Reads n t e q.above) : Reads n t e q := by
  by_cases hops : q.ops = []
  · cases q with
    | postfixed => exact absurd rfl hq
    | unary =>
      intro m r _ hr
      have hp : p = .postfixed := by
        cases p <;> simp [Place.level, Place.above] at hle ⊢
      exact signed_of_postfixed (hb.sign hp r hr.apart) (h.stop hlen (hr.mono (by decide)))
    | conditional =>
      intro r hr
      exact conditional_of_binary (h.stop hlen (hr.mono (by decide))) (hr.symbol_eq_none rfl rfl)
    | whole =>
      intro r hr
      have hp : p ≠ .whole := by
        rintro rfl
        simp [Place.level, Place.above] at hle
      have hread := h.stop hlen (hr.mono (by decide))
      rw [expressionOf, hb.arrow hp _ _ r hr]
      exact hread
    | _ => simp [Place.ops] at hops
  · rw [reads_chain_iff hops]
    intro r hr
    refine ⟨n + 1, by omega, ?_⟩
    rw [Place.reader_eq_chain hops]
    exact chain_of_operand (h.stop hlen hr)

lemma Reads.lower (hb : Begins t p) (hlen : t.length ≤ n) (h : Reads n t e p) (hle : q.level ≤ p.level) :
    Reads n t e q := by
  induction hk : 18 - q.level using Nat.strong_induction_on generalizing q with
  | h k ih =>
    by_cases hne : q = p
    · exact hne ▸ h
    · obtain ⟨habove, hlt⟩ := Place.above_level_le hle hne
      have htop : q.above.level ≤ 18 := by cases q <;> decide
      refine Reads.below ?_ hb habove hlen (ih _ (by omega) habove rfl)
      rintro rfl
      simp [Place.above] at hlt

section Primary

variable {g : Grammar} {cs : List Char}

lemma markup_eq_none (h : cs.head? ≠ some '<') (g : Grammar) (n : Nat) : g.markup n cs = none := by
  have hstrip (p : List Char) : strip? ('<' :: p) cs = none := by
    cases cs with
    | nil => rfl
    | cons c cs =>
      rw [strip?, if_neg]
      rintro rfl
      exact h rfl
  cases n with
  | zero => rfl
  | succ n => simp [Grammar.markup, hstrip]

lemma number_eq_none (h : ∀ c ∈ next? cs, c.isDigit = false) : number cs = none := by
  rw [next?] at h
  simp only [number]
  cases hcs : skip cs with
  | nil => simp
  | cons c cs =>
    rw [hcs] at h
    simp [h c rfl]

lemma primary_parenthesized (h : g.parenthesized ('(' :: cs) = some (.ok e, r)) :
    g.primary n ('(' :: cs) = some (.ok e, r) := by
  have hnext : next? ('(' :: cs) = some '(' := next?_cons rfl cs
  have h1 : g.markup n (skip ('(' :: cs)) = none := markup_eq_none (by rw [skip_cons rfl]; simp) g n
  have h2 : stringLiteral ('(' :: cs) = none := stringLiteral_eq_none (by simp [hnext])
  have h3 : number ('(' :: cs) = none := number_eq_none (by simp [hnext])
  have h4 : symbol "[" ('(' :: cs) = none := rfl
  have h5 : symbol "\x7b" ('(' :: cs) = none := rfl
  simp [primary, h1, h2, h3, items, object, h4, h5, h]

lemma reads_parenthesized (hlen : t.length + 2 ≤ n) (h : ∀ n, t.length ≤ n → Reads n t e .whole) :
    Reads n ('(' :: (t ++ [')'])) e .postfixed := by
  obtain ⟨n, rfl⟩ : ∃ k, n = k + 1 := ⟨n - 1, by omega⟩
  intro r _
  have hread : (grammar (n + 1)).expression (t ++ ')' :: r) = some (.ok e, ')' :: r) :=
    (h n (by omega)).stop (by omega) (free_cons rfl rfl rfl r)
  have hparens : (grammar (n + 1)).parenthesized ('(' :: (t ++ ')' :: r)) = some (.ok e, r) := by
    have h1 : symbol "(" ('(' :: (t ++ ')' :: r)) = some (t ++ ')' :: r) := rfl
    have h2 : symbol ")" (')' :: r) = some r := rfl
    simp [parenthesized, h1, hread, h2]
  refine ⟨n + 1 + 1, by omega, ?_⟩
  rw [List.cons_append, List.append_assoc]
  exact postfixed_of_primary (primary_parenthesized hparens)

end Primary

end Reads

end TemplateScript.Parser
