import TemplateScript.Proofs.Template.PlainCode

namespace TemplateScript

variable {α β : Type}

def Fresh.Gives (x : Fresh α) (P : α → Prop) : Prop := ∀ k, P (x k).1

namespace Fresh.Gives

variable {P : α → Prop} {Q : β → Prop} {x : Fresh α}

lemma pure {a : α} (h : P a) : Gives (Pure.pure a) P := fun _ => h

lemma bind {f : α → Fresh β} (hx : Gives x P) (hf : ∀ a, P a → Gives (f a) Q) : Gives (x >>= f) Q :=
  fun k => hf (x k).1 (hx k) (x k).2

lemma name (kind : Char) : Gives (Fresh.name kind.toString) fun name => ∃ n, name = temporary kind n :=
  fun k => ⟨k + 1, rfl⟩

end Fresh.Gives

def Compile.Gives (x : Compile α) (P : α → Prop) : Prop := ∀ k a k', x k = (.ok a, k') → P a

namespace Compile.Gives

variable {P : α → Prop} {Q : β → Prop} {x : Compile α}

lemma pure {a : α} (h : P a) : Gives (Pure.pure a) P := by
  rintro k b k' heq
  cases heq
  exact h

lemma trivial (x : Compile α) : Gives x fun _ => True := fun _ _ _ _ => True.intro

lemma throw (e : CompileError) : Gives (throw e : Compile α) P := by
  rintro k b k' heq
  cases heq

lemma throw_bind (e : CompileError) (f : α → Compile β) : Gives (MonadExcept.throw e >>= f) Q := by
  rintro k b k' heq
  cases heq

lemma bind {f : α → Compile β} (hx : Gives x P) (hf : ∀ a, P a → Gives (f a) Q) : Gives (x >>= f) Q := by
  intro k b k' heq
  cases hxk : x k with
  | mk result k₁ =>
    cases result with
    | error e =>
      rw [bind_error hxk] at heq
      cases heq
    | ok a =>
      rw [bind_ok hxk] at heq
      exact hf a (hx k a k₁ hxk) k₁ b k' heq

lemma mono {P' : α → Prop} (h : Gives x P) (hp : ∀ a, P a → P' a) : Gives x P' :=
  fun k a k' heq => hp a (h k a k' heq)

lemma lift {y : Fresh α} (h : y.Gives P) : Gives (liftM y : Compile α) P := by
  rintro k a k' heq
  cases heq
  exact h k

end Compile.Gives

lemma Compile.expression_stringValue? {c : Config} (e : Expr) (he : ∀ node, e ≠ .markup node) :
    Gives (expression c e) fun code => code.stringValue? = e.stringValue? := by
  cases e with
  | markup node => exact absurd rfl (he node)
  | literal l =>
    cases l <;> simp only [expression] <;> exact .pure rfl
  | identifier name =>
    simp only [expression]
    exact .pure rfl
  | array | object | member | not | arrow =>
    simp only [expression]
    exact (Gives.trivial _).bind fun _ _ => .pure rfl
  | index | call | binary =>
    simp only [expression]
    exact (Gives.trivial _).bind fun _ _ => (Gives.trivial _).bind fun _ _ => .pure rfl
  | conditional =>
    simp only [expression]
    exact (Gives.trivial _).bind fun _ _ => (Gives.trivial _).bind fun _ _ => (Gives.trivial _).bind fun _ _ => .pure rfl

end TemplateScript
