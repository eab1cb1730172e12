import TemplateScript.Template.Shape

namespace TemplateScript

abbrev Fresh := StateM Nat

def Fresh.name (kind : String) : Fresh String := do
  modify (· + 1)
  return "_" ++ kind ++ toString (← get)

namespace Config

variable (c : Config)

def member (name : String) : Expr := .member (.identifier c.support) name

def call (name : String) (arguments : List Item) : Expr := .call (c.member name) arguments

def callWith (name : String) (arguments : List Expr) : Expr := .callWith (c.member name) arguments

def builder (r : Representation) : Expr := c.call r.name []

def normalizeChildren (r : Representation) (children : List Compiled) : Expr :=
  c.callWith "normalizeChildren" (c.builder r :: children.map Compiled.expr)

def spreadChildren (r : Representation) (children : List Compiled) : List Item :=
  if children.isEmpty then [] else [.spread (c.normalizeChildren r children)]

def elementCall (r : Representation) (tag : Expr) (attributes : List AttributeCode)
    (children : List Compiled) : Expr :=
  .call (.member (c.builder r) "element")
    (.single tag :: .single (AttributeCode.toObject attributes) :: c.spreadChildren r children)

def componentCall (callee : Expr) (attributes : List AttributeCode) (children : List Compiled) : Expr :=
  .call callee (.single (AttributeCode.toObject attributes) :: c.spreadChildren c.target children)

end Config

def bindNames (bindings : List (String × Expr)) (body : Body) : Expr :=
  .callWith (.arrow (bindings.map Prod.fst) body) (bindings.map Prod.snd)

def joinValues (nodes : Expr) : Fresh Expr := do
  let item ← Fresh.name "n"
  let value := Expr.arrow [item] (.expression (.member (.identifier item) "value"))
  return .callWith (.member (.callWith (.member nodes "map") [value]) "join") [.string ""]

def computedAttribute (c : Config) (name : String) (value : Expr) : Fresh Expr := do
  let temp ← Fresh.name "a"
  let reference := Expr.identifier temp
  let valued := Expr.concat
    [.string (" " ++ name ++ "=\""), c.callWith "escapeHTML" [reference], .string "\""]
  let body := Expr.conditional (.binary .strictEq reference (.bool true)) (.string (" " ++ name))
    (.conditional (.binary .strictEq reference .null) (.string "") valued)
  return bindNames [(temp, c.callWith "normalizeAttribute" [value])] (.expression body)

end TemplateScript
