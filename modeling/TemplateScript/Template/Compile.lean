import TemplateScript.Template.RawElement
import TemplateScript.Template.StreamElement
import TemplateScript.Template.StructuredElement

/-!
Compilation of markup literals into plain expressions that build one of the representations. Children are
compiled before their parent, so that a parent of constant parts can be built ahead of time.
-/

namespace TemplateScript

/-- A compilation that may fail. The count of temporary names goes on after a failure. -/
abbrev Compile := ExceptT CompileError Fresh

namespace Compile

def specialized (c : Config) (tag : TagCode) (codes : List AttributeCode) (content : List Compiled) :
    Fresh Expr :=
  match c.target, tag with
  | .structured, .static name => return StructuredElement.static c name codes content
  | .structured, .computed name => return StructuredElement.computed c name codes content
  | .stream, .static name => StreamElement.static c name codes content
  | .stream, .computed name => StreamElement.computed c name codes content
  | .raw, .static name => RawElement.static c name codes content
  | .raw, .computed name => RawElement.computed c name codes content

def constant? (c : Config) (tag : TagCode) (codes : List AttributeCode) (content : List Compiled) :
    Except CompileError (Option Constant) :=
  match tag with
  | .computed _ => .ok none
  | .static name =>
    match AttributeCode.staticValues? codes with
    | none => .ok none
    | some values =>
      if c.target.supportsLiterals && content.all Compiled.isStatic then
        Constant.element c.target name values content
      else .ok none

def element (c : Config) (tag : TagCode) (codes : List AttributeCode) (content : List Compiled) :
    Compile Compiled :=
  match c.mode, tag with
  | .direct, .static name => return .dynamic (c.elementCall c.target (.string name) codes content)
  | .direct, .computed name => return .dynamic (c.elementCall c.target name codes content)
  | .optimizing, tag =>
    match constant? c tag codes content with
    | .error e => throw e
    | .ok (some node) => return ⟨node.literal, .constant node⟩
    | .ok none => return .dynamic (← specialized c tag codes content)

def checkContent (tag : String) (content : List Compiled) : Compile Unit :=
  if isVoidTag tag && !content.isEmpty then throw (.voidElementChildren tag) else return

mutual

def expression (c : Config) : Expr → Compile Expr
  | .identifier name => return .identifier name
  | .literal (.string value _) => return .string value
  | .literal value => return .literal value
  | .array parts => return .array (← items c parts)
  | .object parts => return .object (← properties c parts)
  | .member object name => return .member (← expression c object) name
  | .index object index => return .index (← expression c object) (← expression c index)
  | .call callee arguments => return .call (← expression c callee) (← items c arguments)
  | .not operand => return .not (← expression c operand)
  | .binary op left right => return .binary op (← expression c left) (← expression c right)
  | .conditional test consequent alternate =>
    return .conditional (← expression c test) (← expression c consequent) (← expression c alternate)
  | .arrow params body => return .arrow params (← function c body)
  | .markup node => return (← markup c node).expr

def items (c : Config) : List Item → Compile (List Item)
  | [] => return []
  | .single value :: parts => return .single (← expression c value) :: (← items c parts)
  | .spread source :: parts => return .spread (← expression c source) :: (← items c parts)

def properties (c : Config) : List Property → Compile (List Property)
  | [] => return []
  | .keyed key value :: parts =>
    return .keyed key (← expression c value) :: (← properties c parts)
  | .spread source :: parts => return .spread (← expression c source) :: (← properties c parts)

def function (c : Config) : Body → Compile Body
  | .expression value => return .expression (← expression c value)
  | .block body => return .block (← statements c body)

def statement (c : Config) : Stmt → Compile Stmt
  | .importModule name path => return .importModule name path
  | .declare kind name value => return .declare kind name (← expression c value)
  | .expression value => return .expression (← expression c value)
  | .branch test consequent alternate =>
    return .branch (← expression c test) (← statement c consequent) (← otherwise c alternate)
  | .block body => return .block (← statements c body)
  | .forOf name source body => return .forOf name (← expression c source) (← statement c body)
  | .leave none => return .leave none
  | .leave (some value) => return .leave (some (← expression c value))

def otherwise (c : Config) : Option Stmt → Compile (Option Stmt)
  | none => return none
  | some s => return some (← statement c s)

def statements (c : Config) : List Stmt → Compile (List Stmt)
  | [] => return []
  | s :: ss => return (← statement c s) :: (← statements c ss)

def markup (c : Config) : Markup → Compile Compiled
  | .text value => return .text (normalizeText value)
  | .container none => return .dynamic .undefined
  | .container (some (.markup node)) => markup c node
  | .container (some value) => do
    let value ← expression c value
    match value.stringValue? with
    | some s => return .text s
    | none => return .dynamic value
  | .fragment parts => do
    let content ← children c parts
    return .dynamic (c.componentCall (c.member "Fragment") [] content)
  | .element (.static name) attributes parts _ => do
    if isComponentName name then throw (.componentTag name)
    let codes ← attributeCodes c attributes
    let content ← children c parts
    checkContent name content
    element c (.static name) codes content
  | .element (.computed name) attributes parts _ => do
    let name ← expression c name
    let codes ← attributeCodes c attributes
    let content ← children c parts
    element c (.computed name) codes content
  | .element (.component callee) attributes parts _ => do
    let callee ← expression c callee
    let codes ← attributeCodes c attributes
    let content ← children c parts
    return .dynamic (c.componentCall callee codes content)

def children (c : Config) : List Markup → Compile (List Compiled)
  | [] => return []
  | .container none :: parts => children c parts
  | child :: parts => do
    let child ← markup c child
    let rest ← children c parts
    return if child.isEmptyText then rest else child :: rest

def attributeCodes (c : Config) : List MarkupAttribute → Compile (List AttributeCode)
  | [] => return []
  | .named name none :: parts => return .static name (.bool true) :: (← attributeCodes c parts)
  | .named name (some value) :: parts => do
    let value ← expression c value
    let code := match value.constant? with
      | some value => AttributeCode.static name value
      | none => .computed name value
    return code :: (← attributeCodes c parts)
  | .spread source :: parts => do
    let source ← expression c source
    return .spread source :: (← attributeCodes c parts)

end

end Compile

def Expr.compileShape (c : Config) : Expr → Compile Compiled
  | .markup node => Compile.markup c node
  | e => return .dynamic (← Compile.expression c e)

def Program.compile (c : Config) (p : Program) : Except CompileError Program := do
  let body ← ((Compile.statements c p).run 0).1
  return (c.importPath.map (Stmt.importModule c.support)).toList ++ body

end TemplateScript
