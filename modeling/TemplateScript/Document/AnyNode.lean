import TemplateScript.Document.Child

/-!
Nodes of any representation, how they are built, and adding attributes and children to a node that is
already built: a tree is built anew, a stream node is patched, and a raw node refuses.
-/

namespace TemplateScript

inductive AnyNode (γ : Type) where
  | structured (node : Node)
  | stream (node : StreamNode γ)
  | raw (node : RawNode)

namespace AnyNode

variable {γ : Type}

def representation : AnyNode γ → Representation
  | .structured _ => .structured
  | .stream _ => .stream
  | .raw _ => .raw

def toStructured : AnyNode γ → Except Fault Node
  | .structured node => .ok node
  | node => .error (.representationMismatch .structured node.representation)

def toStream : AnyNode γ → Except Fault (StreamNode γ)
  | .stream node => .ok node
  | node => .error (.representationMismatch .stream node.representation)

def toRaw : AnyNode γ → Except Fault RawNode
  | .raw node => .ok node
  | node => .error (.representationMismatch .raw node.representation)

/-- Makes a node with the builder of a representation. What is made may depend on the builder only, and
on the way in which nodes are narrowed to its representation. -/
def build (stream : Builder (StreamNode γ)) (r : Representation)
    (make : {N : Type} → Builder N → (AnyNode γ → Except Fault N) → Except Fault N) :
    Except Fault (AnyNode γ) :=
  match r with
  | .structured => (make structuredBuilder toStructured).map .structured
  | .stream => (make stream toStream).map .stream
  | .raw => (make rawBuilder toRaw).map .raw

def element {α : Type} (stream : Builder (StreamNode γ)) (r : Representation) (tag : String)
    (values : AttributeValues) (read : α → Child (AnyNode γ)) (items : List α) :
    Except Fault (AnyNode γ) :=
  build stream r fun b narrow => do
    let children ← Child.readAll read narrow items
    b.element tag values (← Child.flatten b children)

def normalize {α : Type} (stream : Builder (StreamNode γ)) (r : Representation)
    (read : α → Child (AnyNode γ)) (items : List α) : Except Fault (List (AnyNode γ)) :=
  match r with
  | .structured => do
    let children ← Child.readAll read toStructured items
    return (← Child.flatten structuredBuilder children).map .structured
  | .stream => do
    let children ← Child.readAll read toStream items
    return (← Child.flatten stream children).map .stream
  | .raw => do
    let children ← Child.readAll read toRaw items
    return (← Child.flatten rawBuilder children).map .raw

def narrow (r : Representation) (node : AnyNode γ) : Except Fault (AnyNode γ) :=
  if node.representation = r then .ok node
  else .error (.representationMismatch r node.representation)

end AnyNode

def Node.addItems (node : Node) (values : AttributeValues) (children : List (Child Node)) :
    Except Fault Node :=
  match node with
  | .text _ => .error .notAnElement
  | .prerendered _ => .error .prerendered
  | .element tag attributes own =>
    if isVoidTag tag then .error (.voidElement tag)
    else do
      let added ← Child.flatten structuredBuilder children
      return .element tag (attributes.merge values).normalize (own ++ added)

/-- The node under a patch that sets attributes and appends children. Only a prerendered leaf refuses at
once; other faults are left to rendering. -/
def StreamNode.addItems {γ : Type} (node : StreamNode γ) (values : AttributeValues)
    (children : List (Child (StreamNode γ))) : Except Fault (StreamNode γ) :=
  if node.kind = .prerendered then .error .prerendered
  else do
    let added ← Child.flatten streamBuilder children
    return .patched node ⟨false, [], values⟩ ⟨false, [], added⟩

def RawNode.addItems (_ : RawNode) (_ : AttributeValues) (_ : List (Child RawNode)) :
    Except Fault RawNode :=
  .error (.unsupported .raw)

def AnyNode.addItems {γ : Type} (node : AnyNode γ) (values : AttributeValues)
    (children : List (Child (AnyNode γ))) : Except Fault (AnyNode γ) :=
  match node with
  | .structured node => do
    let children ← Child.mapAll AnyNode.toStructured children
    return .structured (← node.addItems values children)
  | .stream node => do
    let children ← Child.mapAll AnyNode.toStream children
    return .stream (← node.addItems values children)
  | .raw node => do
    let children ← Child.mapAll AnyNode.toRaw children
    return .raw (← node.addItems values children)

end TemplateScript
