import TemplateScript.Template.Code

namespace TemplateScript

namespace StreamElement

def constantChunk (text : String) : List Expr := if text = "" then [] else [.string text]

def separateChunks (c : Config) (base : Expr) : (pending : String) → List AttributeCode → Fresh (List Expr)
  | pending, [] => return constantChunk pending
  | pending, .static name value :: rest =>
    separateChunks c base (pending ++ (value.normalize.map (Attribute.render name)).getD "") rest
  | pending, .computed name _ :: rest => do
    let text ← computedAttribute c name (.index base (.string name))
    let rest ← separateChunks c base "" rest
    return constantChunk pending ++ text :: rest
  | pending, .spread _ :: rest => separateChunks c base pending rest

def plainChunks (c : Config) (base : Expr) (codes : List AttributeCode) : Fresh (List Expr) :=
  match AttributeCode.staticValues? codes with
  | some values => return constantChunk values.normalize.render
  | none =>
    if AttributeCode.needMerge codes then return [c.callWith "renderAttributes" [base]]
    else separateChunks c base "" codes

def write (sink : String) (chunk : Expr) : Stmt :=
  .expression (.callWith (.member (.identifier sink) "write") [chunk])

def renderEach (sink item : String) (nodes : Expr) : Stmt :=
  .forOf item nodes
    (.expression (.callWith (.member (.identifier item) "render") [.identifier sink]))

def writeAttributes (c : Config) (sink extension : String) (base : Expr) (plain : List Expr) : Stmt :=
  let added := Expr.member (.identifier extension) "attributes"
  let merged := Expr.object [.spread (c.callWith "normalizeAttributes" [base]), .spread added]
  .branch (.binary .strictEq added .undefined) (.block (plain.map (write sink)))
    (some (.block [write sink (c.callWith "renderAttributes" [merged])]))

def renderAdded (sink extension item : String) : Stmt :=
  let added := Expr.member (.identifier extension) "children"
  .branch (.binary .strictNe added .undefined) (renderEach sink item added) none

def ownChildren (sink : String) (content : List Compiled) : Fresh (Option String × List Stmt) :=
  if content.isEmpty then return (none, [])
  else do
    let nodes ← Fresh.name "c"
    let item ← Fresh.name "n"
    return (some nodes, [renderEach sink item (.identifier nodes)])

def childBinding (c : Config) (content : List Compiled) : Option String → List (String × Expr)
  | none => []
  | some nodes => [(nodes, c.normalizeChildren .stream content)]

def leaf (c : Config) (sink extension : String) (body : List Stmt) (tag : Expr) : Expr :=
  .callWith (.member (c.builder .stream) "leaf") [.arrow [sink, extension] (.block body), tag]

def static (c : Config) (tag : String) (codes : List AttributeCode) (content : List Compiled) :
    Fresh Expr := do
  let sink ← Fresh.name "s"
  let extension ← Fresh.name "e"
  let values ← Fresh.name "a"
  let plain ← plainChunks c (.identifier values) codes
  let (nodes, own) ← ownChildren sink content
  let item ← Fresh.name "n"
  let close := if isVoidTag tag then [] else [write sink (.string ("</" ++ tag ++ ">"))]
  let body :=
    [write sink (.string ("<" ++ tag)), writeAttributes c sink extension (.identifier values) plain,
      write sink (.string ">")] ++ own ++ [renderAdded sink extension item] ++ close
  return bindNames ((values, AttributeCode.toObject codes) :: childBinding c content nodes)
    (.expression (leaf c sink extension body (.string tag)))

def computed (c : Config) (tag : Expr) (codes : List AttributeCode) (content : List Compiled) :
    Fresh Expr := do
  let sink ← Fresh.name "s"
  let extension ← Fresh.name "e"
  let name ← Fresh.name "t"
  let values ← Fresh.name "a"
  let plain ← plainChunks c (.identifier values) codes
  let (nodes, own) ← ownChildren sink content
  let item ← Fresh.name "n"
  let isVoid ← Fresh.name "v"
  let close := write sink (.concat [.string "</", .identifier name, .string ">"])
  let body :=
    [write sink (.concat [.string "<", .identifier name]),
      writeAttributes c sink extension (.identifier values) plain, write sink (.string ">")] ++ own ++
      [renderAdded sink extension item, .branch (.not (.identifier isVoid)) close none]
  let checked := c.callWith "checkVoid"
    [.identifier name, (nodes.map Expr.identifier).getD (.array [])]
  return bindNames
    ((name, tag) :: (values, AttributeCode.toObject codes) :: childBinding c content nodes)
    (.block [.declare .constant isVoid checked,
      .leave (some (leaf c sink extension body (.identifier name)))])

end StreamElement

end TemplateScript
