import TemplateScript.Document.Tag
import TemplateScript.Script.Expr
import TemplateScript.Script.Lexeme
import TemplateScript.Text.Whitespace

/-! Reading a text finds out whether it has the shape of a program at all; closing tags are compared only in
a text of the right shape. -/

namespace TemplateScript

structure TagMismatch where
  opened : String
  closed : String
  remaining : Nat

abbrev Checked := Except TagMismatch

inductive ParseError where
  | malformed
  | mismatchedTag (opened closed : String) (line column : Nat) (sourceLine : String)
  deriving DecidableEq

def ParseError.message : ParseError → String
  | .malformed => "syntax error"
  | .mismatchedTag opened closed line column sourceLine =>
    "closing tag </" ++ closed ++ "> does not match <" ++ opened ++ "> at " ++ toString line ++ ":" ++
      toString column ++ " `" ++ sourceLine ++ "`"

namespace Parser

open Lexeme

def sequence {α : Type} : List (Checked α) → Checked (List α)
  | [] => .ok []
  | a :: as => do
    let a ← a
    let as ← sequence as
    return a :: as

def memberChain (path : String) : Expr :=
  match path.toList.splitOn '.' with
  | [] => .identifier ""
  | root :: names => names.foldl (fun e name => .member e (String.ofList name)) (.identifier (String.ofList root))

def classifyTag (name : String) : Tag :=
  match name.toList with
  | '$' :: path => .computed (memberChain (String.ofList path))
  | cs => if cs.contains '.' || isComponentName name then .component (memberChain name) else .static name

/-- The readers of the parts that contain one another. A lone semicolon is a statement that leaves
nothing behind. -/
structure Grammar where
  expression : Reader (Checked Expr)
  statement : Reader (Option (Checked Stmt))

namespace Grammar

variable (g : Grammar) (n : Nat)

def item : Reader (Checked Item) := fun cs =>
  match symbol "..." cs with
  | some rest => do
    let (source, rest) ← g.expression rest
    return (source.map .spread, rest)
  | none => do
    let (value, rest) ← g.expression cs
    return (value.map .single, rest)

def items (opening closing : String) : Reader (Checked (List Item)) := fun cs => do
  let cs ← symbol opening cs
  let (parts, cs) ← Reader.commaSeparated g.item n cs
  let cs ← symbol closing cs
  return (sequence parts, cs)

def keyedProperty : Reader (Checked Property) := fun cs => do
  let (key, cs) ← match stringLiteral cs with
    | some ((value, _), rest) => some (value, rest)
    | none => propertyName cs
  let cs ← symbol ":" cs
  let (value, cs) ← g.expression cs
  return (value.map (.keyed key), cs)

def property : Reader (Checked Property) := fun cs =>
  match symbol "..." cs with
  | some rest => do
    let (source, rest) ← g.expression rest
    return (source.map .spread, rest)
  | none =>
    g.keyedProperty cs <|> do
      let (name, rest) ← identifier cs
      return (.ok (.keyed name (.identifier name)), rest)

def object : Reader (Checked Expr) := fun cs => do
  let cs ← symbol "\x7b" cs
  let (parts, cs) ← Reader.commaSeparated g.property n cs
  let cs ← symbol "\x7d" cs
  return ((sequence parts).map .object, cs)

def block : Reader (Checked (List Stmt)) := fun cs => do
  let cs ← symbol "\x7b" cs
  let (parts, cs) ← Reader.many g.statement n cs
  let cs ← symbol "\x7d" cs
  return (sequence (parts.filterMap id), cs)

def params : Reader (List String) := fun cs =>
  (do
    let cs ← symbol "(" cs
    let (names, cs) ← match identifier cs with
      | none => some ([], cs)
      | some (name, cs) =>
        (Reader.many (fun cs => (symbol "," cs).bind identifier) n cs).map fun (names, cs) =>
          (name :: names, cs)
    let cs ← symbol ")" cs
    return (names, cs)) <|> do
    let (name, cs) ← identifier cs
    return ([name], cs)

def arrow : Reader (Checked Expr) := fun cs => do
  let (names, cs) ← params n cs
  let cs ← symbol "=>" cs
  (do
    let (body, rest) ← g.block n cs
    return (body.map fun body => .arrow names (.block body), rest)) <|> do
    let (value, rest) ← g.expression cs
    return (value.map fun value => .arrow names (.expression value), rest)

def markupAttribute : Reader (Checked MarkupAttribute) := fun cs =>
  (do
    let cs ← symbol "\x7b" cs
    let cs ← symbol "..." cs
    let (source, cs) ← g.expression cs
    let cs ← symbol "\x7d" cs
    return (source.map .spread, cs)) <|> do
    let (name, cs) ← attributeName cs
    let value : Option (Checked Expr × List Char) := do
      let cs ← symbol "=" cs
      (do
        let ((value, source), cs) ← stringLiteral cs
        return (.ok (.literal (.string value (some source))), cs)) <|> do
        let cs ← symbol "\x7b" cs
        let (value, cs) ← g.expression cs
        let cs ← symbol "\x7d" cs
        return (value, cs)
    match value with
    | some (value, rest) => some (value.map fun value => .named name (some value), rest)
    | none => some (.ok (.named name none), cs)

def container : Reader (Checked Markup) := fun cs => do
  let cs ← strip? ['{'] cs
  let (value, cs) := match g.expression cs with
    | some (value, rest) => (value.map fun value => Markup.container (some value), rest)
    | none => (.ok (.container none), cs)
  let cs ← symbol "\x7d" cs
  return (value, cs)

def text : Reader (Checked Markup) := fun cs =>
  let isText (c : Char) := c != '<' && c != '{'
  let value := cs.takeWhile isText
  if value.isEmpty then none else some (.ok (.text (String.ofList value)), cs.dropWhile isText)

def tagEnd : Reader Bool := fun cs =>
  match symbol ">" cs with
  | some rest => some (false, rest)
  | none => do
    let cs ← symbol "/" cs
    let cs ← symbol ">" cs
    return (true, cs)

def closingTag : Reader (String × Nat) := fun cs => do
  let cs ← strip? ['<'] cs
  let cs ← symbol "/" cs
  let start := skip cs
  let (name, cs) ← tagName start
  let cs ← symbol ">" cs
  return ((name, start.length), cs)

def markup : Nat → Reader (Checked Markup)
  | 0, _ => none
  | n + 1, cs =>
    let children : Reader (Checked (List Markup)) := fun cs => do
      let (parts, cs) ← Reader.many
        (fun cs => markup n cs <|> g.container cs <|> text cs) (n + 1) cs
      return (sequence parts, cs)
    match strip? ['<', '>'] cs with
    | some cs => do
      let (parts, cs) ← children cs
      let cs ← strip? ['<', '/', '>'] cs
      return (parts.map .fragment, cs)
    | none => do
      let cs ← strip? ['<'] cs
      let (name, cs) ← tagName cs
      let (attributes, cs) ← Reader.many g.markupAttribute (n + 1) cs
      let (complete, cs) ← tagEnd cs
      if complete then
        return ((sequence attributes).map fun attributes =>
          .element (classifyTag name) attributes [] true, cs)
      else
        let (parts, cs) ← children cs
        let ((closed, remaining), cs) ← closingTag cs
        let element : Checked Markup := do
          let attributes ← sequence attributes
          let parts ← parts
          if closed = name then return .element (classifyTag name) attributes parts false
          else throw ⟨name, closed, remaining⟩
        return (element, cs)

def word : Reader (Checked Expr) := fun cs => do
  let (name, cs) ← propertyName cs
  if name = "true" then return (.ok (.bool true), cs)
  else if name = "false" then return (.ok (.bool false), cs)
  else if name = "null" then return (.ok .null, cs)
  else if name = "undefined" then return (.ok .undefined, cs)
  else if reserved.contains name then none
  else return (.ok (.identifier name), cs)

def parenthesized : Reader (Checked Expr) := fun cs => do
  let cs ← symbol "(" cs
  let (value, cs) ← g.expression cs
  let cs ← symbol ")" cs
  return (value, cs)

def primary : Reader (Checked Expr) := fun cs =>
  (do
    let (node, cs) ← g.markup n (skip cs)
    return (node.map .markup, cs)) <|>
  (do
    let ((value, source), cs) ← stringLiteral cs
    return (.ok (.literal (.string value (some source))), cs)) <|>
  (do
    let (value, cs) ← number cs
    return (.ok (.literal (.number value)), cs)) <|>
  (do
    let (parts, cs) ← g.items n "[" "]" cs
    return (parts.map .array, cs)) <|>
  g.object n cs <|> g.parenthesized cs <|> word cs

inductive Suffix where
  | call (arguments : Checked (List Item))
  | member (name : String)
  | index (value : Checked Expr)

def suffix : Reader Suffix := fun cs =>
  (do
    let (arguments, cs) ← g.items n "(" ")" cs
    return (.call arguments, cs)) <|>
  (do
    let cs ← symbol "." cs
    let (name, cs) ← propertyName cs
    return (.member name, cs)) <|>
  (do
    let cs ← symbol "[" cs
    let (value, cs) ← g.expression cs
    let cs ← symbol "]" cs
    return (.index value, cs))

def Suffix.apply (e : Expr) : Suffix → Checked Expr
  | .call arguments => arguments.map (.call e)
  | .member name => .ok (.member e name)
  | .index value => value.map (.index e)

def postfixed : Reader (Checked Expr) := fun cs => do
  let (operand, cs) ← g.primary n cs
  let (suffixes, cs) ← Reader.many (g.suffix n) n cs
  return (operand.bind fun e => suffixes.foldlM Suffix.apply e, cs)

def unary : Reader (Checked Expr) := fun cs => do
  let (signs, cs) ← Reader.many (fun cs => (symbol "!" cs).map fun cs => ((), cs)) n cs
  let (operand, cs) ← g.postfixed n cs
  return (operand.map fun e => signs.foldl (fun e _ => .not e) e, cs)

def operator (ops : List BinaryOp) : Reader BinaryOp := fun cs =>
  ops.findSome? fun op => (symbol op.symbol cs).map fun cs => (op, cs)

def chain (ops : List BinaryOp) (operand : Reader (Checked Expr)) : Reader (Checked Expr) := fun cs => do
  let (first, cs) ← operand cs
  let (rest, cs) ← Reader.many
    (fun cs => do
      let (op, cs) ← operator ops cs
      let (e, cs) ← operand cs
      return ((op, e), cs)) n cs
  return (first.bind fun e => rest.foldlM (fun e (op, r) => r.map (.binary op e)) e, cs)

def binary : Reader (Checked Expr) :=
  chain n [.or] (chain n [.and] (chain n [.strictEq, .strictNe] (chain n [.add] (g.unary n))))

def conditional : Reader (Checked Expr) := fun cs => do
  let (test, cs) ← g.binary n cs
  let branches : Option ((Checked Expr × Checked Expr) × List Char) := do
    let cs ← symbol "?" cs
    let (consequent, cs) ← g.expression cs
    let cs ← symbol ":" cs
    let (alternate, cs) ← g.expression cs
    return ((consequent, alternate), cs)
  match branches with
  | some ((consequent, alternate), cs) =>
    return (do return .conditional (← test) (← consequent) (← alternate), cs)
  | none => return (test, cs)

def semicolon (cs : List Char) : List Char := (symbol ";" cs).getD cs

def importStatement : Reader (Checked Stmt) := fun cs => do
  let cs ← keyword "import" cs
  let cs ← symbol "*" cs
  let cs ← keyword "as" cs
  let (name, cs) ← identifier cs
  let cs ← keyword "from" cs
  let ((path, _), cs) ← stringLiteral cs
  return (.ok (.importModule name path), semicolon cs)

def bindingKind : Reader Binding := fun cs =>
  ((keyword "const" cs).map fun cs => (.constant, cs)) <|>
    (keyword "let" cs).map fun cs => (.variable, cs)

def declaration : Reader (Checked Stmt) := fun cs => do
  let (kind, cs) ← bindingKind cs
  let (name, cs) ← identifier cs
  let cs ← symbol "=" cs
  let (value, cs) ← g.expression cs
  return (value.map (.declare kind name), semicolon cs)

def bodyOf (body : Option (Checked Stmt)) : Checked Stmt := body.getD (.ok (.block []))

/-- A conditional statement. Lone semicolons leave nothing behind, so where the first branch is one, the
second takes its place. -/
def branch : Reader (Checked Stmt) := fun cs => do
  let cs ← keyword "if" cs
  let cs ← symbol "(" cs
  let (test, cs) ← g.expression cs
  let cs ← symbol ")" cs
  let (first, cs) ← g.statement cs
  let (second, cs) := ((keyword "else" cs).bind g.statement).getD (none, cs)
  let bodies := [first, second].filterMap id
  let result : Checked Stmt := do
    let alternate ← match bodies[1]? with
      | some s => s.map some
      | none => .ok none
    let test ← test
    let consequent ← bodyOf bodies[0]?
    return .branch test consequent alternate
  return (result, cs)

def loop : Reader (Checked Stmt) := fun cs => do
  let cs ← keyword "for" cs
  let cs ← symbol "(" cs
  let (_, cs) ← bindingKind cs
  let (name, cs) ← identifier cs
  let cs ← keyword "of" cs
  let (source, cs) ← g.expression cs
  let cs ← symbol ")" cs
  let (body, cs) ← g.statement cs
  return (do return .forOf name (← source) (← bodyOf body), cs)

def leave : Reader (Checked Stmt) := fun cs => do
  let cs ← keyword "return" cs
  let value :=
    if (symbol ";" cs).isSome || (symbol "\x7d" cs).isSome then none else g.expression cs
  match value with
  | some (value, cs) => return (value.map fun value => .leave (some value), semicolon cs)
  | none => return (.ok (.leave none), semicolon cs)

def statementOf : Reader (Option (Checked Stmt)) := fun cs =>
  let kept (p : Reader (Checked Stmt)) := (p cs).map fun (s, cs) => (some s, cs)
  kept importStatement <|> kept g.declaration <|> kept g.branch <|> kept g.loop <|> kept g.leave <|>
    kept (fun cs => (g.block n cs).map fun (body, cs) => (body.map .block, cs)) <|>
    kept (fun cs => (g.expression cs).map fun (value, cs) => (value.map .expression, semicolon cs)) <|>
    (symbol ";" cs).map fun cs => (none, cs)

def expressionOf : Reader (Checked Expr) := fun cs => g.arrow n cs <|> g.conditional n cs

end Grammar

def grammar : Nat → Grammar
  | 0 => ⟨fun _ => none, fun _ => none⟩
  | n + 1 =>
    let inner := grammar n
    ⟨inner.expressionOf (n + 1), inner.statementOf (n + 1)⟩

def depth (cs : List Char) : Nat := 2 * cs.length + 2

def locate (cs : List Char) (offset : Nat) : Nat × Nat × String :=
  let before := cs.take offset
  let line := before.count '\n' + 1
  let start := (before.reverse.takeWhile (· != '\n')).reverse
  let rest := (cs.drop offset).takeWhile (· != '\n')
  (line, start.length + 1, String.ofList (Text.trim (start ++ rest)))

def readAll {α : Type} (p : Nat → Reader (Checked α)) (source : String) : Except ParseError α :=
  let cs := source.toList
  match p (depth cs) cs with
  | none => .error .malformed
  | some (value, rest) =>
    if (Lexeme.skip rest).isEmpty then
      match value with
      | .ok value => .ok value
      | .error fault =>
        let (line, column, sourceLine) := locate cs (cs.length - fault.remaining)
        .error (.mismatchedTag fault.opened fault.closed line column sourceLine)
    else .error .malformed

end Parser

def Expr.parse (source : String) : Except ParseError Expr :=
  Parser.readAll (fun n => (Parser.grammar n).expression) source

def Program.parse (source : String) : Except ParseError Program :=
  Parser.readAll
    (fun n cs => (Reader.many (Parser.grammar n).statement n cs).map fun (parts, cs) =>
      (Parser.sequence (parts.filterMap id), cs)) source

end TemplateScript
