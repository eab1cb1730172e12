import TemplateScript.Number.Basic

namespace TemplateScript

inductive Binding where
  | constant
  | variable
  deriving DecidableEq

namespace Binding

def name : Binding → String
  | .constant => "const"
  | .variable => "let"

def ofName? (s : String) : Option Binding := [constant, .variable].find? fun b => b.name == s

end Binding

inductive BinaryOp where
  | add
  | strictEq
  | strictNe
  | and
  | or
  deriving DecidableEq

namespace BinaryOp

def all : List BinaryOp := [.add, .strictEq, .strictNe, .and, .or]

def symbol : BinaryOp → String
  | .add => "+"
  | .strictEq => "==="
  | .strictNe => "!=="
  | .and => "&&"
  | .or => "||"

def ofSymbol? (s : String) : Option BinaryOp := all.find? fun op => op.symbol == s

def precedence : BinaryOp → Nat
  | .or => 4
  | .and => 5
  | .strictEq | .strictNe => 10
  | .add => 13

end BinaryOp

inductive Literal where
  | string (value : String) (source : Option String)
  | number (value : Number)
  | bool (value : Bool)
  | null
  | undefined
  deriving DecidableEq

mutual

inductive Expr where
  | identifier (name : String)
  | literal (value : Literal)
  | array (items : List Item)
  | object (properties : List Property)
  | member (object : Expr) (name : String)
  | index (object index : Expr)
  | call (callee : Expr) (arguments : List Item)
  | not (operand : Expr)
  | binary (op : BinaryOp) (left right : Expr)
  | conditional (test consequent alternate : Expr)
  | arrow (params : List String) (body : Body)
  | markup (node : Markup)

inductive Item where
  | single (value : Expr)
  | spread (source : Expr)

inductive Property where
  | keyed (key : String) (value : Expr)
  | spread (source : Expr)

inductive Body where
  | expression (value : Expr)
  | block (statements : List Stmt)

inductive Stmt where
  | importModule (name path : String)
  | declare (kind : Binding) (name : String) (value : Expr)
  | expression (value : Expr)
  | branch (test : Expr) (consequent : Stmt) (alternate : Option Stmt)
  | block (statements : List Stmt)
  | forOf (name : String) (source : Expr) (body : Stmt)
  | leave (value : Option Expr)

inductive Markup where
  | element (tag : Tag) (attributes : List MarkupAttribute) (children : List Markup)
      (selfClosing : Bool)
  | text (value : String)
  | container (value : Option Expr)
  | fragment (children : List Markup)

/-- What the tag of an element names: an element, an expression that computes the element's name, or a
component that is called in place of the element. -/
inductive Tag where
  | static (name : String)
  | computed (name : Expr)
  | component (callee : Expr)

inductive MarkupAttribute where
  | named (name : String) (value : Option Expr)
  | spread (source : Expr)

end

abbrev Program := List Stmt

namespace Expr

def string (value : String) : Expr := .literal (.string value none)

def bool (value : Bool) : Expr := .literal (.bool value)

def null : Expr := .literal .null

def undefined : Expr := .literal .undefined

def callWith (callee : Expr) (arguments : List Expr) : Expr := .call callee (arguments.map .single)

def concat : List Expr → Expr
  | [] => string ""
  | e :: es => es.foldl (.binary .add) e

def stringValue? : Expr → Option String
  | .literal (.string value _) => some value
  | _ => none

end Expr

end TemplateScript
