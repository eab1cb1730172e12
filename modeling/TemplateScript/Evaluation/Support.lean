import TemplateScript.Evaluation.Conversion

namespace TemplateScript

namespace Support

def path : String := "marklit/runtime"

def moduleValue : Eval Value := Eval.newObject (Native.all.map fun f => (f.name, .native f))

def first (arguments : List Value) : Value := arguments.head?.getD .undefined

def second (arguments : List Value) : Value := arguments[1]?.getD .undefined

def normalizeChildren : List Value → Eval Value
  | .builder r :: children => do
    let nodes ← Eval.ofExcept (AnyNode.normalize streamBuilder r Value.toChild children)
    Eval.newArray (← AnyNode.toValues nodes)
  | [] => Eval.failType (.builderExpected "nothing")
  | other :: _ => Eval.failType (.builderExpected other.typeName)

def flattenCompact (children : List Value) : Eval Value := do
  let children ← Eval.ofExcept (Child.readAll Value.toChild AnyNode.toStructured children)
  let nodes ← Eval.ofExcept (Child.flatten structuredBuilder children)
  Eval.newArray (← Node.toValues (Node.joinTexts nodes))

def normalizeAttribute (value : Value) : Value :=
  match value.toAttributeValue.normalize with
  | some a => a.toValue
  | none => .null

def addItems (arguments : List Value) : Eval Value :=
  let target := first arguments
  match target.toNode? with
  | none => Eval.failType (.nodeExpected target.typeName)
  | some node => do
    let values ← Eval.ofExcept (second arguments).attributeValues
    let extended ← Eval.ofExcept (node.addItems values (Value.toChildren (arguments.drop 2)))
    extended.toValue

def hasChildren : Option Value → Bool
  | some (.array _ items) => !items.isEmpty
  | some .undefined | none => false
  | some _ => true

def checkVoid (arguments : List Value) : Eval Value := do
  let tag := (first arguments).text
  Eval.ofExcept (checkTag tag (hasChildren arguments[1]?))
  return .bool (isVoidTag tag)

end Support

def Native.run : Native → List Value → Eval Value
  | .structured, _ => return .builder .structured
  | .stream, _ => return .builder .stream
  | .raw, _ => return .builder .raw
  | .normalizeChildren, arguments => Support.normalizeChildren arguments
  | .flattenCompact, arguments => Support.flattenCompact arguments
  | .escapeHTML, arguments => return .string (escapeText (Support.first arguments).text)
  | .isVoidElement, arguments => return .bool (isVoidTag (Support.first arguments).text)
  | .normalizeAttribute, arguments => return Support.normalizeAttribute (Support.first arguments)
  | .normalizeAttributes, arguments => do
    let values ← Eval.ofExcept (Support.first arguments).attributeValues
    (AttributeValues.normalize values).toValue
  | .renderAttributes, arguments => do
    let values ← Eval.ofExcept (Support.first arguments).attributeValues
    return .string (AttributeValues.normalize values).render
  | .addItems, arguments => Support.addItems arguments
  | .safe, arguments => return .safe (Support.first arguments).text
  | .fragment, arguments => Eval.newArray (arguments.drop 1)
  | .checkVoid, arguments => Support.checkVoid arguments

namespace Representation

def build (r : Representation) (make : {N : Type} → Builder N → N) : Eval Value := do
  (← Eval.ofExcept (AnyNode.build streamBuilder r fun b _ => .ok (make b))).toValue

def leafKind : Option Value → LeafKind
  | some (.string tag) => .element tag
  | _ => .text

def method (r : Representation) (name : String) (arguments : List Value) : Eval Value :=
  if name = "text" then r.build fun b => b.text (Support.first arguments).text
  else if name = "prerendered" then r.build fun b => b.prerendered (Support.first arguments).text
  else if name = "element" then
    match arguments with
    | .string tag :: _ => do
      let values ← Eval.ofExcept (Support.second arguments).attributeValues
      let element := AnyNode.element streamBuilder r tag values Value.toChild (arguments.drop 2)
      (← Eval.ofExcept element).toValue
    | [] => Eval.failType (.tagExpected "nothing")
    | other :: _ => Eval.failType (.tagExpected other.typeName)
  else if name = "leaf" ∧ r = .stream then
    return .stream (.generated (Support.first arguments) (leafKind arguments[1]?))
  else Eval.failType (.noBuilderMethod r name)

end Representation

end TemplateScript
