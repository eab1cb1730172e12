import TemplateScript.Template.Code

namespace TemplateScript

namespace RawElement

inductive Segment where
  | constant (text : String)
  | computed (text : Expr)

def constantPart (text : String) : List Expr := if text = "" then [] else [.string text]

def operands : (pending : String) → List Segment → List Expr
  | pending, [] => constantPart pending
  | pending, .constant text :: rest => operands (pending ++ text) rest
  | pending, .computed text :: rest => constantPart pending ++ text :: operands "" rest

def node (segments : List Segment) : Expr :=
  .fields [("type", .string "raw"), ("value", .concat (operands "" segments))]

def constantAttribute (name : String) (value : AttributeValue) : Segment :=
  .constant ((value.normalize.map (Attribute.render name)).getD "")

def separateAttributes (c : Config) : List AttributeCode → Fresh (List Segment)
  | [] => return []
  | .static name value :: rest => do
    let rest ← separateAttributes c rest
    return constantAttribute name value :: rest
  | .computed name value :: rest => do
    let text ← computedAttribute c name value
    let rest ← separateAttributes c rest
    return .computed text :: rest
  | .spread _ :: rest => separateAttributes c rest

def attributes (c : Config) (codes : List AttributeCode) : Fresh (List Segment) :=
  if AttributeCode.needMerge codes then
    return [.computed (c.callWith "renderAttributes" [AttributeCode.toObject codes])]
  else separateAttributes c codes

def children (c : Config) : List Compiled → Fresh (List Segment)
  | [] => return []
  | child :: rest =>
    match child.raw? with
    | some node => do
      let rest ← children c rest
      return .constant node.html :: rest
    | none => do
      let text ← joinValues (c.normalizeChildren .raw [child])
      let rest ← children c rest
      return .computed text :: rest

def static (c : Config) (tag : String) (codes : List AttributeCode) (content : List Compiled) :
    Fresh Expr := do
  let shown ← attributes c codes
  let inner ← children c content
  let close := if isVoidTag tag then "" else "</" ++ tag ++ ">"
  return node (.constant ("<" ++ tag) :: shown ++ .constant ">" :: inner ++ [.constant close])

def computed (c : Config) (tag : Expr) (codes : List AttributeCode) (content : List Compiled) :
    Fresh Expr := do
  let name ← Fresh.name "t"
  let shown ← attributes c codes
  let nodes ← Fresh.name "c"
  let joined ← joinValues (.identifier nodes)
  let inner := Expr.conditional (c.callWith "checkVoid" [.identifier name, .identifier nodes]) (.string "")
    (.concat [joined, .string "</", .identifier name, .string ">"])
  let result := node
    (.constant "<" :: .computed (.identifier name) :: shown ++ [.constant ">", .computed inner])
  return bindNames [(name, tag), (nodes, c.normalizeChildren .raw content)] (.expression result)

end RawElement

end TemplateScript
