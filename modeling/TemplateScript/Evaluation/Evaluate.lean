import TemplateScript.Evaluation.Render

/-!
Running programs. Expressions and statements are run by recursion on their form, given a way to call
functions; calling functions is bounded by the depth to which calls may nest.
-/

namespace TemplateScript

inductive Flow where
  | next
  | leave (value : Value)

namespace Evaluation

def property (receiver : Value) (name : String) : Eval Value :=
  match receiver with
  | .undefined | .null => Eval.failType (.cannotRead name receiver.typeName)
  | .object _ fields => return (Entries.get? name fields).getD .undefined
  | .array _ items => return if name = "length" then .number (.ofNat items.length) else .undefined
  | .string s => return if name = "length" then .number (.ofNat s.length) else .undefined
  | _ => return .undefined

def element (object index : Value) : Eval Value :=
  match object, index with
  | .array _ items, .number n => return (n.toNat?.bind (items[·]?)).getD .undefined
  | _, _ => property object index.text

def mapItems (call : Call) (function : Value) : Nat → List Value → Eval (List Value)
  | _, [] => return []
  | i, item :: items => do
    let mapped ← call function [item, .number (.ofNat i)]
    return mapped :: (← mapItems call function (i + 1) items)

def separator : Option Value → String
  | none | some .undefined => ","
  | some value => value.text

def method (call : Call) (receiver : Value) (name : String) (arguments : List Value) : Eval Value :=
  match receiver with
  | .undefined | .null => Eval.failType (.cannotCall name receiver.typeName)
  | .array _ items =>
    if name = "map" then do
      Eval.newArray (← mapItems call (Support.first arguments) 0 items)
    else if name = "join" then
      return .string ((separator arguments.head?).intercalate (Value.itemTexts items))
    else receiver.callMethod call name arguments
  | _ => receiver.callMethod call name arguments

def forEach (step : Value → Eval Flow) : List Value → Eval Flow
  | [] => return .next
  | item :: items => do
    match ← step item with
    | .next => forEach step items
    | .leave value => return .leave value

def spreadFields : Value → List (String × Value)
  | .object _ fields => fields
  | .array _ items => items.zipIdx.map fun (item, i) => (toString i, item)
  | _ => []

def literal : Literal → Value
  | .string value _ => .string value
  | .number value => .number value
  | .bool value => .bool value
  | .null => .null
  | .undefined => .undefined

mutual

def expression (call : Call) (scope : Scope) : Expr → Eval Value
  | .identifier name => Eval.lookup scope name
  | .literal value => return literal value
  | .array parts => do Eval.newArray (← items call scope parts)
  | .object parts => do Eval.newObject (← fields call scope [] parts)
  | .member object name => do property (← expression call scope object) name
  | .index object index => do
    let object ← expression call scope object
    element object (← expression call scope index)
  | .call (.member receiver name) arguments => do
    let receiver ← expression call scope receiver
    let arguments ← items call scope arguments
    match receiver with
    | .object _ fields => call ((Entries.get? name fields).getD .undefined) arguments
    | _ => method call receiver name arguments
  | .call callee arguments => do
    let callee ← expression call scope callee
    call callee (← items call scope arguments)
  | .not operand => return .bool (!(← expression call scope operand).isTruthy)
  | .binary op left right => do
    let left ← expression call scope left
    match op with
    | .and => if left.isTruthy then expression call scope right else return left
    | .or => if left.isTruthy then return left else expression call scope right
    | .add => return left.add (← expression call scope right)
    | .strictEq => return .bool (left.strictEquals (← expression call scope right))
    | .strictNe => return .bool (!left.strictEquals (← expression call scope right))
  | .conditional test consequent alternate => do
    if (← expression call scope test).isTruthy then expression call scope consequent
    else expression call scope alternate
  | .arrow params body => return .closure (← Eval.newIdentity) params body scope
  | .markup _ => Eval.failType .markupLeft

def items (call : Call) (scope : Scope) : List Item → Eval (List Value)
  | [] => return []
  | .single value :: parts => do
    let value ← expression call scope value
    return value :: (← items call scope parts)
  | .spread source :: parts => do
    match ← expression call scope source with
    | .array _ spread => return spread ++ (← items call scope parts)
    | other => Eval.failType (.cannotSpread other.typeName)

def fields (call : Call) (scope : Scope) (entries : List (String × Value)) :
    List Property → Eval (List (String × Value))
  | [] => return entries
  | .keyed key value :: parts => do
    let value ← expression call scope value
    fields call scope (Entries.set key value entries) parts
  | .spread source :: parts => do
    let source ← expression call scope source
    fields call scope (Entries.setAll entries (spreadFields source)) parts

def statement (call : Call) (scope : Scope) : Stmt → Eval Flow
  | .importModule _ path => Eval.failType (.nestedImport path)
  | .declare _ name value => do
    let value ← expression call scope value
    Eval.define scope name value
    return .next
  | .expression value => do
    let _ ← expression call scope value
    return .next
  | .branch test consequent alternate => do
    if (← expression call scope test).isTruthy then
      statement call (← Eval.newScope scope) consequent
    else otherwise call scope alternate
  | .block body => do statements call (← Eval.newScope scope) body
  | .forOf name source body => do
    match ← expression call scope source with
    | .array _ values =>
      forEach (fun value => do
        let inner ← Eval.newScope scope
        Eval.define inner name value
        statement call inner body) values
    | other => Eval.failType (.notIterable other.typeName)
  | .leave none => return .leave .undefined
  | .leave (some value) => return .leave (← expression call scope value)

def otherwise (call : Call) (scope : Scope) : Option Stmt → Eval Flow
  | none => return .next
  | some alternate => do statement call (← Eval.newScope scope) alternate

def statements (call : Call) (scope : Scope) : List Stmt → Eval Flow
  | [] => return .next
  | s :: ss => do
    match ← statement call scope s with
    | .next => statements call scope ss
    | .leave value => return .leave value

end

def bindParams (scope : Scope) : List String → List Value → Eval Unit
  | [], _ => return
  | param :: params, arguments => do
    Eval.define scope param (Support.first arguments)
    bindParams scope params (arguments.drop 1)

def body (call : Call) (scope : Scope) : Body → Eval Value
  | .expression value => expression call scope value
  | .block ss => do
    match ← statements call scope ss with
    | .next => return .undefined
    | .leave value => return value

/-- Calls a function, in which calls may nest `n` deep. -/
def callWithin (n : Nat) (callee : Value) (arguments : List Value) : Eval Value :=
  match callee with
  | .native function => function.run arguments
  | .closure _ params code outer =>
    match n with
    | 0 => throw .outOfFuel
    | n + 1 => do
      let scope ← Eval.newScope outer
      bindParams scope params arguments
      body (callWithin n) scope code
  | other => Eval.failType (.notCallable other.typeName)

def depthLimit : Nat := 100000

def call : Call := callWithin depthLimit

def resultOf (call : Call) (value : Value) : Eval Value :=
  match value with
  | .closure .. | .native _ => call value []
  | other => return other

abbrev Modules := List (String × Value)

def supportModules : Eval Modules := return [(Support.path, ← Support.moduleValue)]

def program (call : Call) (modules : Modules) (scope : Scope) : Program → Eval Unit
  | [] => return
  | .importModule name path :: ss =>
    match Entries.get? path modules with
    | none => Eval.fail (.unknownModule path)
    | some value => do
      Eval.define scope name value
      program call modules scope ss
  | s :: ss => do
    match ← statement call scope s with
    | .next => program call modules scope ss
    | .leave _ => return

end Evaluation

end TemplateScript
