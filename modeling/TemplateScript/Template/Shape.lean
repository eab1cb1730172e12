import TemplateScript.Document.Builder
import TemplateScript.Script.Expr
import TemplateScript.Template.Config
import TemplateScript.Text.Whitespace

namespace TemplateScript

inductive TagCode where
  | static (name : String)
  | computed (name : Expr)

inductive AttributeCode where
  | static (name : String) (value : AttributeValue)
  | computed (name : String) (value : Expr)
  | spread (source : Expr)

def AttributeValue.literal : AttributeValue → Expr
  | .string s => .string s
  | .number n => .literal (.number n)
  | .bool b => .bool b
  | .null => .null
  | .undefined => .undefined

def Expr.constant? : Expr → Option AttributeValue
  | .literal (.string s _) => some (.string s)
  | .literal (.number n) => some (.number n)
  | .literal (.bool b) => some (.bool b)
  | .literal .null => some .null
  | .literal .undefined => some .undefined
  | _ => none

namespace AttributeCode

def isStatic : AttributeCode → Bool
  | .static .. => true
  | _ => false

def name? : AttributeCode → Option String
  | .static name _ => some name
  | .computed name _ => some name
  | .spread _ => none

def property : AttributeCode → Property
  | .static name value => .keyed name value.literal
  | .computed name value => .keyed name value
  | .spread source => .spread source

/-- Whether a later attribute may replace an earlier one: there is a spread, or a name comes twice. -/
def needMerge (attributes : List AttributeCode) : Bool :=
  attributes.any (fun a => a.name?.isNone) || !decide (attributes.filterMap name?).Nodup

def staticEntries? : List AttributeCode → Option (List (String × AttributeValue))
  | [] => some []
  | .static name value :: rest => (staticEntries? rest).map ((name, value) :: ·)
  | _ :: _ => none

def staticValues? (attributes : List AttributeCode) : Option AttributeValues :=
  (staticEntries? attributes).map OrderedMap.ofList

def toObject (attributes : List AttributeCode) : Expr := .object (attributes.map property)

end AttributeCode

inductive Constant where
  | structured (node : Node)
  | raw (node : RawNode)

inductive Shape where
  | dynamic
  | text (value : String)
  | constant (node : Constant)

/-- The expression that a piece of markup compiles to, with what is known of its value. -/
structure Compiled where
  expr : Expr
  shape : Shape

namespace Compiled

def dynamic (e : Expr) : Compiled := ⟨e, .dynamic⟩

def text (value : String) : Compiled := ⟨.string value, .text value⟩

def isStatic (c : Compiled) : Bool :=
  match c.shape with
  | .dynamic => false
  | _ => true

def isEmptyText (c : Compiled) : Bool :=
  match c.shape with
  | .text value => value == ""
  | _ => false

def structured? (c : Compiled) : Option Node :=
  match c.shape with
  | .text value => some (.text value)
  | .constant (.structured node) => some node
  | _ => none

def raw? (c : Compiled) : Option RawNode :=
  match c.shape with
  | .text value => some (rawBuilder.text value)
  | .constant (.raw node) => some node
  | _ => none

end Compiled

def Expr.fields (entries : List (String × Expr)) : Expr :=
  .object (entries.map fun (name, value) => .keyed name value)

def Attribute.literal : Attribute → Expr
  | .bare => .bool true
  | .text s => .string s

def Attributes.literal (attributes : Attributes) : Expr :=
  .fields (attributes.entries.map fun (name, a) => (name, a.literal))

mutual

def Node.literal : Node → Expr
  | .text value => .fields [("type", .string "text"), ("value", .string value)]
  | .prerendered html => .fields [("type", .string "prerendered"), ("value", .string html)]
  | .element tag attributes children =>
    .fields [("type", .string "element"), ("tag", .string tag), ("attributes", attributes.literal),
      ("children", .array (Node.literals children))]

def Node.literals : List Node → List Item
  | [] => []
  | node :: nodes => .single node.literal :: Node.literals nodes

end

def RawNode.literal (node : RawNode) : Expr :=
  .fields [("type", .string "raw"), ("value", .string node.html)]

def Constant.literal : Constant → Expr
  | .structured node => node.literal
  | .raw node => node.literal

def allSome {α : Type} : List (Option α) → Option (List α)
  | [] => some []
  | none :: _ => none
  | some a :: as => (allSome as).map (a :: ·)

def Constant.element (target : Representation) (tag : String) (values : AttributeValues)
    (children : List Compiled) : Except CompileError (Option Constant) :=
  match target with
  | .structured =>
    match allSome (children.map Compiled.structured?) with
    | none => .ok none
    | some nodes =>
      match structuredBuilder.element tag values nodes with
      | .ok node => .ok (some (.structured node.compact))
      | .error fault => .error (.constantElement fault)
  | .raw =>
    match allSome (children.map Compiled.raw?) with
    | none => .ok none
    | some nodes =>
      match rawBuilder.element tag values nodes with
      | .ok node => .ok (some (.raw node))
      | .error fault => .error (.constantElement fault)
  | .stream => .ok none

def normalizeText (s : String) : String := String.ofList (Text.foldBreaks s.toList)

end TemplateScript
