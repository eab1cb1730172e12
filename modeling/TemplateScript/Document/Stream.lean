import TemplateScript.Document.Attribute
import TemplateScript.Document.Tag

/-! A node is a leaf under a tower of patches, which are resolved whenever the node is rendered. A patch that
does not apply fails before anything of its leaf or of its children is written. The parameter `γ` is the type of
code that a generated leaf runs. -/

namespace TemplateScript

inductive LeafKind where
  | text
  | prerendered
  | element (tag : String)
  deriving DecidableEq

structure Extension (α : Type) where
  attributes : Option AttributeValues := none
  children : Option (List α) := none

def Extension.map {α β : Type} (f : α → β) (e : Extension α) : Extension β :=
  ⟨e.attributes, e.children.map (List.map f)⟩

structure AttributePatch where
  clear : Bool := false
  unset : List String := []
  set : AttributeValues := OrderedMap.empty

def AttributePatch.apply (p : AttributePatch) (current : AttributeValues) : AttributeValues :=
  (p.unset.foldl OrderedMap.erase (if p.clear then OrderedMap.empty else current)).setAll p.set

structure ChildrenPatch (α : Type) where
  clear : Bool := false
  before : List α := []
  after : List α := []

def ChildrenPatch.apply {α : Type} (p : ChildrenPatch α) (current : List α) : List α :=
  p.before ++ (if p.clear then [] else current) ++ p.after

/-- Extends a leaf of the given kind once more. Elements that are not void take everything, texts
nothing, other leaves not even nothing. -/
def LeafKind.extend {α : Type} (kind : LeafKind) (onAttributes : AttributeValues → AttributeValues)
    (onChildren : List α → List α) (e : Extension α) : Except Fault (Extension α) :=
  let attributes := onAttributes (e.attributes.getD OrderedMap.empty)
  let children := onChildren (e.children.getD [])
  let extended : Extension α := ⟨some attributes, some children⟩
  match kind with
  | .prerendered => .error .prerendered
  | .text => if attributes.isEmpty && children.isEmpty then .ok extended else .error .notAnElement
  | .element tag => if isVoidTag tag then .error (.voidElement tag) else .ok extended

def LeafKind.extendAll {α : Type} (kind : LeafKind) :
    List ((AttributeValues → AttributeValues) × (List α → List α)) → Extension α →
      Except Fault (Extension α)
  | [], e => .ok e
  | (onAttributes, onChildren) :: changes, e =>
    match kind.extend onAttributes onChildren e with
    | .ok extended => kind.extendAll changes extended
    | .error fault => .error fault

structure Writing where
  chunks : List String
  failure : Option Fault := none

inductive StreamNode (γ : Type) where
  | text (escaped : String)
  | prerendered (payload : Writing)
  | element (tag : String) (attributes : Attributes) (children : List (StreamNode γ))
  | generated (code : γ) (kind : LeafKind)
  | patched (base : StreamNode γ) (attributes : AttributePatch)
      (children : ChildrenPatch (StreamNode γ))

/-- Where a rendering goes. The sink is part of the state `σ`: `write` puts a chunk into it, `run` lets
the code of a generated leaf write into it, and `fail` is how a fault ends the rendering. -/
structure Sink (γ ε σ : Type) where
  write : String → σ → σ
  run : γ → Extension (StreamNode γ) → EStateM ε σ Unit
  fail : Fault → ε

namespace Sink

variable {γ ε σ : Type}

def put (sink : Sink γ ε σ) (chunk : String) : EStateM ε σ Unit := modify (sink.write chunk)

def putAll (sink : Sink γ ε σ) : List String → EStateM ε σ Unit
  | [] => pure ()
  | chunk :: chunks => do
    sink.put chunk
    sink.putAll chunks

def stop (sink : Sink γ ε σ) (fault : Fault) : EStateM ε σ Unit := throw (sink.fail fault)

def putWriting (sink : Sink γ ε σ) (w : Writing) : EStateM ε σ Unit := do
  sink.putAll w.chunks
  match w.failure with
  | none => pure ()
  | some fault => sink.stop fault

end Sink

namespace StreamNode

variable {γ ε σ : Type}

def kind : StreamNode γ → LeafKind
  | .text _ => .text
  | .prerendered _ => .prerendered
  | .element tag _ _ => .element tag
  | .generated _ kind => kind
  | .patched base _ _ => base.kind

/-- A node together with its rendering, which has not taken place. -/
abbrev Staged (γ ε σ : Type) := StreamNode γ × EStateM ε σ Unit

abbrev Change (γ ε σ : Type) :=
  (AttributeValues → AttributeValues) × (List (Staged γ ε σ) → List (Staged γ ε σ))

def renderStaged : List (Staged γ ε σ) → EStateM ε σ Unit
  | [] => pure ()
  | child :: children => do
    child.2
    renderStaged children

def shownAttributes (attributes : Attributes) : Option AttributeValues → Attributes
  | none => attributes
  | some extra => (attributes.merge extra).normalize

def renderElement (sink : Sink γ ε σ) (tag : String) (attributes : Attributes)
    (children : EStateM ε σ Unit) (e : Extension (Staged γ ε σ)) : EStateM ε σ Unit := do
  sink.putAll ["<", tag, (shownAttributes attributes e.attributes).render, ">"]
  children
  renderStaged (e.children.getD [])
  if isVoidTag tag then pure () else sink.putAll ["</", tag, ">"]

def renderLeaf (sink : Sink γ ε σ) (kind : LeafKind) (changes : List (Change γ ε σ))
    (body : Extension (Staged γ ε σ) → EStateM ε σ Unit) : EStateM ε σ Unit :=
  match kind.extendAll changes {} with
  | .ok e => body e
  | .error fault => sink.stop fault

mutual

def changes (sink : Sink γ ε σ) : StreamNode γ → List (Change γ ε σ)
  | .patched base attributes ⟨clear, before, after⟩ =>
    let children : ChildrenPatch (Staged γ ε σ) := ⟨clear, stageAll sink before, stageAll sink after⟩
    base.changes sink ++ [(attributes.apply, children.apply)]
  | _ => []

def leafBody (sink : Sink γ ε σ) : StreamNode γ → Extension (Staged γ ε σ) → EStateM ε σ Unit
  | .text escaped, _ => sink.put escaped
  | .prerendered payload, _ => sink.putWriting payload
  | .element tag attributes children, e =>
    renderElement sink tag attributes (fun s => renderAll sink children s) e
  | .generated code _, e => sink.run code (e.map Prod.fst)
  | .patched base _ _, e => base.leafBody sink e

def renderAll (sink : Sink γ ε σ) : List (StreamNode γ) → EStateM ε σ Unit
  | [] => pure ()
  | node :: nodes => do
    renderLeaf sink node.kind (node.changes sink) (node.leafBody sink)
    renderAll sink nodes

def stageAll (sink : Sink γ ε σ) : List (StreamNode γ) → List (Staged γ ε σ)
  | [] => []
  | node :: nodes =>
    (node, fun s => renderLeaf sink node.kind (node.changes sink) (node.leafBody sink) s) ::
      stageAll sink nodes

end

def render (sink : Sink γ ε σ) (node : StreamNode γ) : EStateM ε σ Unit :=
  renderLeaf sink node.kind (node.changes sink) (node.leafBody sink)

end StreamNode

end TemplateScript
