import TemplateScript.Script.Expr
import TemplateScript.Script.Lexeme

/-!
The text of programs. Every statement starts on a line of its own, indented by two spaces for each
enclosing block, and an operand stands in parentheses exactly when it binds too weakly for its place.
-/

namespace TemplateScript

namespace Printer

def arrowLevel : Nat := 2

def conditionalLevel : Nat := 3

def unaryLevel : Nat := 16

def postfixLevel : Nat := 18

def joinWith (separator : String) : List String → String
  | [] => ""
  | [s] => s
  | s :: ss => s ++ separator ++ joinWith separator ss

def indent : Nat → String
  | 0 => ""
  | n + 1 => "  " ++ indent n

def enclose (min level : Nat) (s : String) : String := if level < min then "(" ++ s ++ ")" else s

def opensBrace (s : String) : Bool := s.toList.head? == some '{'

def protect (s : String) : String := if opensBrace s then "(" ++ s ++ ")" else s

def key (name : String) : String := if Lexeme.isName name then name else Text.quote name

def literal : Literal → String
  | .string _ (some source) => source
  | .string value none => Text.quote value
  | .number value => value.text
  | .bool value => if value then "true" else "false"
  | .null => "null"
  | .undefined => "undefined"

mutual

def expression (min tabs : Nat) : Expr → String
  | .identifier name => name
  | .literal value => literal value
  | .array parts => "[" ++ joinWith ", " (items tabs parts) ++ "]"
  | .object [] => "\x7b\x7d"
  | .object parts => "\x7b " ++ joinWith ", " (properties tabs parts) ++ " \x7d"
  | .member object name => expression postfixLevel tabs object ++ "." ++ name
  | .index object index =>
    expression postfixLevel tabs object ++ "[" ++ expression 0 tabs index ++ "]"
  | .call callee arguments =>
    expression postfixLevel tabs callee ++ "(" ++ joinWith ", " (items tabs arguments) ++ ")"
  | .not operand => enclose min unaryLevel ("!" ++ expression unaryLevel tabs operand)
  | .binary op left right =>
    enclose min op.precedence
      (expression op.precedence tabs left ++ " " ++ op.symbol ++ " " ++
        expression (op.precedence + 1) tabs right)
  | .conditional test consequent alternate =>
    enclose min conditionalLevel
      (expression (conditionalLevel + 1) tabs test ++ " ? " ++
        expression arrowLevel tabs consequent ++ " : " ++ expression arrowLevel tabs alternate)
  | .arrow params body =>
    enclose min arrowLevel ("(" ++ joinWith ", " params ++ ") => " ++ function tabs body)
  | .markup node => markup tabs node

def items (tabs : Nat) : List Item → List String
  | [] => []
  | .single value :: parts => expression arrowLevel tabs value :: items tabs parts
  | .spread source :: parts => ("..." ++ expression arrowLevel tabs source) :: items tabs parts

def properties (tabs : Nat) : List Property → List String
  | [] => []
  | .keyed name value :: parts =>
    (key name ++ ": " ++ expression arrowLevel tabs value) :: properties tabs parts
  | .spread source :: parts =>
    ("..." ++ expression arrowLevel tabs source) :: properties tabs parts

def function (tabs : Nat) : Body → String
  | .expression value => protect (expression arrowLevel tabs value)
  | .block [] => "\x7b\x7d"
  | .block body =>
    "\x7b\n" ++ joinWith "\n" (statements (tabs + 1) body) ++ "\n" ++ indent tabs ++ "\x7d"

/-- The lines of a statement. A block that is the body of another statement leaves its braces to that
statement. -/
def statement (isBody : Bool) (tabs : Nat) : Stmt → List String
  | .importModule name path =>
    [indent tabs ++ "import * as " ++ name ++ " from " ++ Text.quote path ++ ";"]
  | .declare kind name value =>
    [indent tabs ++ kind.name ++ " " ++ name ++ " = " ++ expression arrowLevel tabs value ++ ";"]
  | .expression value => [indent tabs ++ protect (expression 0 tabs value) ++ ";"]
  | .branch test consequent alternate =>
    (indent tabs ++ "if (" ++ expression 0 tabs test ++ ") \x7b") ::
      (statement true (tabs + 1) consequent ++ otherwise tabs alternate)
  | .block body =>
    if isBody then statements tabs body
    else (indent tabs ++ "\x7b") :: (statements (tabs + 1) body ++ [indent tabs ++ "\x7d"])
  | .forOf name source body =>
    (indent tabs ++ "for (const " ++ name ++ " of " ++ expression 0 tabs source ++ ") \x7b") ::
      (statement true (tabs + 1) body ++ [indent tabs ++ "\x7d"])
  | .leave none => [indent tabs ++ "return;"]
  | .leave (some value) => [indent tabs ++ "return " ++ expression 0 tabs value ++ ";"]

def otherwise (tabs : Nat) : Option Stmt → List String
  | none => [indent tabs ++ "\x7d"]
  | some (.branch test consequent alternate) =>
    (indent tabs ++ "\x7d else if (" ++ expression 0 tabs test ++ ") \x7b") ::
      (statement true (tabs + 1) consequent ++ otherwise tabs alternate)
  | some other =>
    (indent tabs ++ "\x7d else \x7b") ::
      (statement true (tabs + 1) other ++ [indent tabs ++ "\x7d"])

def statements (tabs : Nat) : List Stmt → List String
  | [] => []
  | s :: ss => statement false tabs s ++ statements tabs ss

def markup (tabs : Nat) : Markup → String
  | .text value => value
  | .container none => "\x7b\x7d"
  | .container (some value) => "\x7b" ++ expression 0 tabs value ++ "\x7d"
  | .fragment children => "<>" ++ markups tabs children ++ "</>"
  | .element name attributes children selfClosing =>
    let opening := "<" ++ tag tabs name ++ markupAttributes tabs attributes
    if selfClosing && children.isEmpty then opening ++ " />"
    else opening ++ ">" ++ markups tabs children ++ "</" ++ tag tabs name ++ ">"

def markups (tabs : Nat) : List Markup → String
  | [] => ""
  | child :: children => markup tabs child ++ markups tabs children

def tag (tabs : Nat) : Tag → String
  | .static name => name
  | .computed name => "$" ++ expression 0 tabs name
  | .component callee => expression 0 tabs callee

def markupAttributes (tabs : Nat) : List MarkupAttribute → String
  | [] => ""
  | .named name none :: rest => " " ++ name ++ markupAttributes tabs rest
  | .named name (some (.literal (.string value source))) :: rest =>
    " " ++ name ++ "=" ++ literal (.string value source) ++ markupAttributes tabs rest
  | .named name (some value) :: rest =>
    " " ++ name ++ "=\x7b" ++ expression 0 tabs value ++ "\x7d" ++ markupAttributes tabs rest
  | .spread source :: rest =>
    " \x7b..." ++ expression 0 tabs source ++ "\x7d" ++ markupAttributes tabs rest

end

end Printer

def Expr.print (e : Expr) : String := Printer.expression 0 0 e

def Program.print (p : Program) : String := Printer.joinWith "\n" (Printer.statements 0 p) ++ "\n"

end TemplateScript
