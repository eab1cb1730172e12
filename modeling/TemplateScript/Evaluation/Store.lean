import TemplateScript.Evaluation.Value

/-!
The store of an evaluation: frames of bindings, sinks with what has been written into them, and the number
of identities in use. An evaluation ends with a value or halts; either way the store that it reached
remains.
-/

namespace TemplateScript

structure Store where
  frames : Array (List (String × Value)) := #[]
  sinks : Array String := #[]
  identities : Nat := 0

inductive Halt where
  | fault (fault : Fault)
  | outOfFuel

def Halt.message : Halt → String
  | .fault f => f.message
  | .outOfFuel => "calls nest too deeply"

abbrev Eval := EStateM Halt Store

namespace Eval

def fail {α : Type} (f : Fault) : Eval α := throw (.fault f)

def failType {α : Type} (f : TypeFault) : Eval α := throw (.fault (.type f))

def ofExcept {α : Type} : Except Fault α → Eval α
  | .ok a => pure a
  | .error f => fail f

def newIdentity : Eval Nat :=
  modifyGet fun s => (s.identities, { s with identities := s.identities + 1 })

def newArray (items : List Value) : Eval Value := return .array (← newIdentity) items

def newObject (fields : List (String × Value)) : Eval Value := return .object (← newIdentity) fields

def newScope (outer : Scope) : Eval Scope :=
  modifyGet fun s => (s.frames.size :: outer, { s with frames := s.frames.push [] })

def define (scope : Scope) (name : String) (value : Value) : Eval Unit :=
  match scope with
  | [] => pure ()
  | frame :: _ => modify fun s => { s with frames := s.frames.modify frame (Entries.set name value) }

def newSink (contents : String) : Eval Nat :=
  modifyGet fun s => (s.sinks.size, { s with sinks := s.sinks.push contents })

def writeSink (place : Nat) (text : String) : Eval Unit :=
  modify fun s => { s with sinks := s.sinks.modify place (· ++ text) }

def sinkContents (place : Nat) : Eval String := return (← get).sinks[place]?.getD ""

end Eval

def Store.get? (s : Store) (name : String) : Scope → Option Value
  | [] => none
  | frame :: outer =>
    match Entries.get? name (s.frames[frame]?.getD []) with
    | some value => some value
    | none => s.get? name outer

def Eval.lookup (scope : Scope) (name : String) : Eval Value := do
  match (← get).get? name scope with
  | some value => return value
  | none => fail (.unbound name)

end TemplateScript
