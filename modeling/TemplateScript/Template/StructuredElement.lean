import TemplateScript.Template.Code

namespace TemplateScript

namespace StructuredElement

def attributes (c : Config) (codes : List AttributeCode) : Expr :=
  match AttributeCode.staticValues? codes with
  | some values => values.normalize.literal
  | none => c.callWith "normalizeAttributes" [AttributeCode.toObject codes]

def children (c : Config) (content : List Compiled) : Expr :=
  if content.all Compiled.isStatic then
    .array (Node.literals (Node.joinTexts (content.filterMap Compiled.structured?)))
  else c.callWith "flattenCompact" (content.map Compiled.expr)

def static (c : Config) (tag : String) (codes : List AttributeCode) (content : List Compiled) : Expr :=
  .fields [("type", .string "element"), ("tag", .string tag), ("attributes", attributes c codes),
    ("children", children c content)]

def computed (c : Config) (tag : Expr) (codes : List AttributeCode) (content : List Compiled) : Expr :=
  c.elementCall .structured tag codes content

end StructuredElement

end TemplateScript
