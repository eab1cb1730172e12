import TemplateScript.Proofs.Document.Patches
import TemplateScript.Proofs.Template.StreamElement

/-! A medium is a sink together with what it means that a text has been written into it: a text or bytes
outside of the store, in which every leaf writes into a sink of its own first, or a sink of the store, which all
leaves share. -/

namespace TemplateScript

open Evaluation

variable {α σ τ : Type}

abbrev Ending := Except Fault String

namespace Ending

def andThen (o o' : Ending) : Ending := do return (← o) ++ (← o')

def joined : List Ending → Ending
  | [] => .ok ""
  | o :: os => andThen o (joined os)

def element (tag : String) (shown : Attributes) (own added : List Ending) : Ending :=
  .andThen (.ok (String.join ["<", tag, shown.render, ">"])) (.andThen (joined own) (.andThen (joined added)
    (.ok (if isVoidTag tag then "" else String.join ["</", tag, ">"]))))

def payload (w : Writing) : Ending :=
  .andThen (.ok (String.join w.chunks)) (match w.failure with
    | none => .ok ""
    | some fault => .error fault)

end Ending

inductive Delivered (Wrote : String → σ → Prop) : Ending → EStateM.Result Halt σ α → Prop
  | ok {text : String} {a : α} {st : σ} : Wrote text st → Delivered Wrote (.ok text) (.ok a st)
  | error (fault : Fault) (st : σ) : Delivered Wrote (.error fault) (.error (.fault fault) st)

instance {P : String → σ → Prop} [∀ text st, Decidable (P text st)] (o : Ending) (r : EStateM.Result Halt σ α) :
    Decidable (Delivered P o r) :=
  match o, r with
  | .ok text, .ok _ st => decidable_of_iff (P text st) ⟨.ok, fun | .ok h => h⟩
  | .error fault, .error (.fault fault') st =>
    decidable_of_iff (fault' = fault) ⟨fun h => h ▸ .error fault' st, fun | .error _ _ => rfl⟩
  | .ok _, .error _ _ => .isFalse nofun
  | .error _, .ok _ _ => .isFalse nofun
  | .error _, .error .outOfFuel _ => .isFalse nofun

lemma Delivered.mono {P Q : String → σ → Prop} (h : ∀ text st, P text st → Q text st) {o : Ending}
    {r : EStateM.Result Halt σ α} (hr : Delivered P o r) : Delivered Q o r := by
  cases hr with
  | ok hw => exact .ok (h _ _ hw)
  | error fault st => exact .error fault st

def Store.Appended (i : Nat) (l : Store) (text : String) (l' : Store) : Prop :=
  Store.Grows none l l' ∧ l'.sinks[i]? = l.sinks[i]?.map (· ++ text)

/-- A sink that a node can be rendered into. The function of a leaf is run such that it does to the medium what it does
to the sink that it is called with. -/
structure Medium (σ : Type) where
  sink : Call → Sink Value Halt σ
  store : σ → Store
  Wrote : σ → String → σ → Prop
  grows {a b : σ} {x : String} : Wrote a x b → Store.Grows none (store a) (store b)
  nothing (a : σ) : Wrote a "" a
  append {a b c : σ} {x y : String} : Wrote a x b → Wrote b y c → Wrote a (x ++ y) c
  write (call : Call) (chunk : String) (a : σ) : Wrote a chunk ((sink call).write chunk a)
  fail (call : Call) : (sink call).fail = .fault
  run {call : Call} {code : Value} {e : Extension (StreamNode Value)} {o : Ending} {a : σ} :
    (∀ i v l, StreamElement.Extended e v → Store.Grows none (store a) l →
      Delivered (Store.Appended i l) o (call code [.sink i, v] l)) →
    Delivered (Wrote a) o ((sink call).run code e a)

namespace Medium

open StreamNode StreamElement

def Delivers (M : Medium σ) (s : Store) (o : Ending) (m : EStateM Halt σ Unit) : Prop :=
  ∀ a, Store.Grows none s (M.store a) → Delivered (M.Wrote a) o (m a)

section Delivers

variable {M : Medium σ} {s : Store} {o o' : Ending} {m k : EStateM Halt σ Unit}

lemma Delivers.seq (hm : M.Delivers s o m) (hk : M.Delivers s o' k) :
    M.Delivers s (o.andThen o') (m >>= fun _ => k) := by
  intro a ha
  have h := hm a ha
  simp only [Bind.bind, EStateM.bind]
  generalize m a = x at h ⊢
  cases h with
  | error fault b => exact .error fault b
  | @ok text _ b hw =>
    have h' := hk b (ha.trans (M.grows hw))
    dsimp only
    generalize k b = y at h' ⊢
    cases h' with
    | error fault b' => exact .error fault b'
    | ok hw' => exact .ok (M.append hw hw')

end Delivers

end Medium

namespace StreamElement

open StreamNode

variable {s : Store} {o : Ending} {i n : Nat} {l₀ r₀ : Store}

def emit (o : Ending) : Staged Value Halt (Store × String) :=
  let sink := outsideSink (fun (out : String) chunk => out ++ chunk) (callWithin 0)
  (.text "", match o with
    | .ok written => sink.put written
    | .error fault => sink.stop fault)

end StreamElement

namespace StreamNode

open StreamElement

variable {s : Store} {x : StreamNode Value} {xs : List (StreamNode Value)}

def isText : StreamNode Value → Bool
  | .text _ => true
  | _ => false

end StreamNode

end TemplateScript
