import TemplateScript.Document.AnyNode
import TemplateScript.Script.Expr

/-!
Values of the scripting language. Arrays, objects and functions carry an identity, which is all that tells
two of them apart; a sink is known by its place in the store.
-/

namespace TemplateScript

inductive Native where
  | structured
  | stream
  | raw
  | normalizeChildren
  | flattenCompact
  | escapeHTML
  | isVoidElement
  | normalizeAttribute
  | normalizeAttributes
  | renderAttributes
  | addItems
  | safe
  | fragment
  | checkVoid
  deriving DecidableEq

namespace Native

def all : List Native :=
  [.structured, .stream, .raw, .normalizeChildren, .flattenCompact, .escapeHTML, .isVoidElement,
    .normalizeAttribute, .normalizeAttributes, .renderAttributes, .addItems, .safe, .fragment, .checkVoid]

def name : Native → String
  | .structured => "structured"
  | .stream => "stream"
  | .raw => "raw"
  | .normalizeChildren => "normalizeChildren"
  | .flattenCompact => "flattenCompact"
  | .escapeHTML => "escapeHTML"
  | .isVoidElement => "isVoidElement"
  | .normalizeAttribute => "normalizeAttribute"
  | .normalizeAttributes => "normalizeAttributes"
  | .renderAttributes => "renderAttributes"
  | .addItems => "addItems"
  | .safe => "safe"
  | .fragment => "Fragment"
  | .checkVoid => "checkVoid"

end Native

abbrev Scope := List Nat

inductive Value where
  | undefined
  | null
  | bool (value : Bool)
  | number (value : Number)
  | string (value : String)
  | array (identity : Nat) (items : List Value)
  | object (identity : Nat) (fields : List (String × Value))
  | closure (identity : Nat) (params : List String) (body : Body) (scope : Scope)
  | native (function : Native)
  | stream (node : StreamNode Value)
  | safe (html : String)
  | sink (place : Nat)
  | builder (representation : Representation)

namespace Value

def typeName : Value → String
  | .undefined => "undefined"
  | .null => "null"
  | .bool _ => "boolean"
  | .number _ => "number"
  | .string _ => "string"
  | .array .. => "array"
  | .object .. => "object"
  | .closure .. | .native _ => "function"
  | .stream _ => "stream node"
  | .safe _ => "safe string"
  | .sink _ => "sink"
  | .builder _ => "builder"

def isTruthy : Value → Bool
  | .undefined | .null => false
  | .bool b => b
  | .number n => n.isTruthy
  | .string s => s != ""
  | _ => true

/-- Equality without conversion: compound values equal only themselves, and safe strings and stream nodes
not even themselves. -/
def strictEquals : Value → Value → Bool
  | .undefined, .undefined => true
  | .null, .null => true
  | .bool a, .bool b => a == b
  | .number a, .number b => a.equals b
  | .string a, .string b => a == b
  | .array a _, .array b _ => a == b
  | .object a _, .object b _ => a == b
  | .closure a _ _ _, .closure b _ _ _ => a == b
  | .native a, .native b => a == b
  | .sink a, .sink b => a == b
  | .builder a, .builder b => a == b
  | _, _ => false

mutual

def text : Value → String
  | .undefined => "undefined"
  | .null => "null"
  | .bool b => if b then "true" else "false"
  | .number n => n.text
  | .string s => s
  | .array _ items => ",".intercalate (itemTexts items)
  | .safe html => html
  | .closure .. | .native _ => "function"
  | .object .. | .stream _ | .sink _ | .builder _ => "[object Object]"

def itemTexts : List Value → List String
  | [] => []
  | .undefined :: items => "" :: itemTexts items
  | .null :: items => "" :: itemTexts items
  | item :: items => item.text :: itemTexts items

end

def addend? : Value → Option Number
  | .undefined => some .nan
  | .null => some .zero
  | .bool b => some (if b then .ofNat 1 else .zero)
  | .number n => some n
  | _ => none

/-- The sum of two values: numeric where both are numbers or can stand for one, else a
concatenation. -/
def add (a b : Value) : Value :=
  match a.addend?, b.addend? with
  | some m, some n => .number (m.add n)
  | _, _ => .string (a.text ++ b.text)

end Value

end TemplateScript
