import TemplateScript.Evaluation.Store

/-!
Documents as values. A tree is an object with a field `type` and a raw node likewise; a stream node is a
value of its own. Reading a value as a node is the other direction, and accepts attributes that are not
normalized yet.
-/

namespace TemplateScript

def Attribute.toValue : Attribute → Value
  | .bare => .bool true
  | .text s => .string s

def AttributeValue.toValue : AttributeValue → Value
  | .string s => .string s
  | .number n => .number n
  | .bool b => .bool b
  | .null => .null
  | .undefined => .undefined

def Attributes.toValue (attributes : Attributes) : Eval Value :=
  Eval.newObject (attributes.entries.map fun (name, a) => (name, a.toValue))

def AttributeValues.toValue (values : AttributeValues) : Eval Value :=
  Eval.newObject (values.entries.map fun (name, v) => (name, v.toValue))

mutual

def Node.toValue : Node → Eval Value
  | .text value => Eval.newObject [("type", .string "text"), ("value", .string value)]
  | .prerendered html => Eval.newObject [("type", .string "prerendered"), ("value", .string html)]
  | .element tag attributes children => do
    let attributes ← attributes.toValue
    let children ← Eval.newArray (← Node.toValues children)
    Eval.newObject [("type", .string "element"), ("tag", .string tag), ("attributes", attributes),
      ("children", children)]

def Node.toValues : List Node → Eval (List Value)
  | [] => return []
  | node :: nodes => return (← node.toValue) :: (← Node.toValues nodes)

end

def RawNode.toValue (node : RawNode) : Eval Value :=
  Eval.newObject [("type", .string "raw"), ("value", .string node.html)]

def AnyNode.toValue : AnyNode Value → Eval Value
  | .structured node => node.toValue
  | .stream node => return .stream node
  | .raw node => node.toValue

def AnyNode.toValues : List (AnyNode Value) → Eval (List Value)
  | [] => return []
  | node :: nodes => return (← node.toValue) :: (← AnyNode.toValues nodes)

def Extension.toValue (e : Extension (StreamNode Value)) : Eval Value := do
  let attributes ← match e.attributes with
    | some values => values.toValue
    | none => pure .undefined
  let children ← match e.children with
    | some nodes => Eval.newArray (nodes.map .stream)
    | none => pure .undefined
  Eval.newObject [("attributes", attributes), ("children", children)]

namespace Value

def string? : Value → Option String
  | .string s => some s
  | _ => none

def stringField? (name : String) (fields : List (String × Value)) : Option String :=
  (Entries.get? name fields).bind string?

def toAttributeValue : Value → AttributeValue
  | .undefined => .undefined
  | .null => .null
  | .bool b => .bool b
  | .number n => .number n
  | .string s => .string s
  | other => .string other.text

def toAttributeValues (fields : List (String × Value)) : AttributeValues :=
  OrderedMap.ofList (fields.map fun (name, v) => (name, v.toAttributeValue))

def attributeValues : Value → Except Fault AttributeValues
  | .undefined | .null => .ok OrderedMap.empty
  | .object _ fields => .ok (toAttributeValues fields)
  | other => .error (.type (.attributesExpected other.typeName))

def elementAttributes? (fields : List (String × Value)) : Option Attributes :=
  match Entries.get? "attributes" fields with
  | none | some .undefined | some .null => some OrderedMap.empty
  | some (.object _ attributes) => some (toAttributeValues attributes).normalize
  | some _ => none

def objectNode? (fields : List (String × Value)) (children : Unit → Option (List Node)) :
    Option (AnyNode Value) := do
  let kind ← stringField? "type" fields
  if kind = "raw" then
    return .raw ⟨← stringField? "value" fields⟩
  else if kind = "text" then
    return .structured (.text (← stringField? "value" fields))
  else if kind = "prerendered" then
    return .structured (.prerendered (← stringField? "value" fields))
  else if kind = "element" then
    let attributes ← elementAttributes? fields
    let children ← children ()
    let tag ← stringField? "tag" fields
    return .structured (.element tag attributes children)
  else none

mutual

def toNode? : Value → Option (AnyNode Value)
  | .stream node => some (.stream node)
  | .object _ fields => objectNode? fields fun _ => childTrees? fields
  | _ => none

def childTrees? : List (String × Value) → Option (List Node)
  | [] => some []
  | (name, value) :: fields => if name = "children" then value.listedTrees? else childTrees? fields

def listedTrees? : Value → Option (List Node)
  | .undefined => some []
  | .array _ items => trees? items
  | _ => none

def trees? : List Value → Option (List Node)
  | [] => some []
  | item :: items =>
    match item.toNode? with
    | some (.structured node) => (trees? items).map (node :: ·)
    | _ => none

end

mutual

def toChild : Value → Child (AnyNode Value)
  | .undefined | .null | .bool false => .absent
  | .string s => .text s
  | .number n => .number n
  | .safe html => .safe html
  | .array _ items => .list (toChildren items)
  | other =>
    match other.toNode? with
    | some node => .node node
    | none => .invalid other.typeName

def toChildren : List Value → List (Child (AnyNode Value))
  | [] => []
  | item :: items => item.toChild :: toChildren items

end

end Value

end TemplateScript
