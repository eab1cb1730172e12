import Mathlib.Tactic.Common
import TemplateScript.Script.Parser
import TemplateScript.Script.Printer

/-!
The programs that can be written down, and what they are read back as. A program that is read back has the source
text of every string, and its bodies are blocks; it is printed as the same text.
-/

namespace TemplateScript

open Lexeme

/-- A number is finite and not negative, and the source text of a string is a literal that is read as the string. -/
def Literal.WellFormed : Literal → Prop
  | .string value (some source) => literalHere source.toList = some ((value, source), [])
  | .number (.finite units _) => 0 ≤ units
  | .number _ => False
  | _ => True

def Tag.WellFormed (tag : Tag) : Prop := ∃ name, isTagName name ∧ Parser.classifyTag name = tag

namespace Markup

def isTree : Markup → Bool
  | .element .. | .fragment _ => true
  | _ => false

def isText : Markup → Bool
  | .text _ => true
  | _ => false

end Markup

mutual

def Expr.WellFormed : Expr → Prop
  | .identifier name => isIdentifier name
  | .literal value => value.WellFormed
  | .array parts => Item.AllWellFormed parts
  | .object parts => Property.AllWellFormed parts
  | .member object name => object.WellFormed ∧ isName name
  | .index object index => object.WellFormed ∧ index.WellFormed
  | .call callee arguments => callee.WellFormed ∧ Item.AllWellFormed arguments
  | .not operand => operand.WellFormed
  | .binary _ left right => left.WellFormed ∧ right.WellFormed
  | .conditional test consequent alternate => test.WellFormed ∧ consequent.WellFormed ∧ alternate.WellFormed
  | .arrow params body => (∀ name ∈ params, isIdentifier name) ∧ body.WellFormed
  | .markup node => node.isTree ∧ node.WellFormed

def Item.AllWellFormed : List Item → Prop
  | [] => True
  | .single value :: parts => value.WellFormed ∧ Item.AllWellFormed parts
  | .spread source :: parts => source.WellFormed ∧ Item.AllWellFormed parts

def Property.AllWellFormed : List Property → Prop
  | [] => True
  | .keyed _ value :: parts => value.WellFormed ∧ Property.AllWellFormed parts
  | .spread source :: parts => source.WellFormed ∧ Property.AllWellFormed parts

def Body.WellFormed : Body → Prop
  | .expression value => value.WellFormed
  | .block ss => Stmt.AllWellFormed ss

def Stmt.WellFormed : Stmt → Prop
  | .importModule name _ => isIdentifier name
  | .declare _ name value => isIdentifier name ∧ value.WellFormed
  | .expression value => value.WellFormed
  | .branch test consequent none => test.WellFormed ∧ consequent.WellFormed
  | .branch test consequent (some alternate) => test.WellFormed ∧ consequent.WellFormed ∧ alternate.WellFormed
  | .block ss => Stmt.AllWellFormed ss
  | .forOf name source body => isIdentifier name ∧ source.WellFormed ∧ body.WellFormed
  | .leave none => True
  | .leave (some value) => value.WellFormed

def Stmt.AllWellFormed : List Stmt → Prop
  | [] => True
  | s :: ss => s.WellFormed ∧ Stmt.AllWellFormed ss

def Markup.WellFormed : Markup → Prop
  | .element tag attributes children selfClosing =>
    tag.WellFormed ∧ MarkupAttribute.AllWellFormed attributes ∧ Markup.AllWellFormed children ∧
      (selfClosing → children = [])
  | .text value => value ≠ "" ∧ ∀ c ∈ value.toList, c ≠ '<' ∧ c ≠ '{'
  | .container none => True
  | .container (some value) => value.WellFormed
  | .fragment children => Markup.AllWellFormed children

def Markup.AllWellFormed : List Markup → Prop
  | [] => True
  | node :: nodes => node.WellFormed ∧ (node.isText → ∀ next ∈ nodes.head?, ¬ next.isText) ∧ Markup.AllWellFormed nodes

def MarkupAttribute.AllWellFormed : List MarkupAttribute → Prop
  | [] => True
  | .named name none :: parts => isAttributeName name ∧ MarkupAttribute.AllWellFormed parts
  | .named name (some value) :: parts => isAttributeName name ∧ value.WellFormed ∧ MarkupAttribute.AllWellFormed parts
  | .spread source :: parts => source.WellFormed ∧ MarkupAttribute.AllWellFormed parts

end

def Literal.reread : Literal → Literal
  | .string value source => .string value (some (Printer.literal (.string value source)))
  | l => l

namespace Stmt

def parts : Stmt → List Stmt
  | .block ss => ss
  | s => [s]

def asBody (s : Stmt) : Stmt := .block s.parts

def asAlternate : Stmt → Stmt
  | .branch test consequent alternate => .branch test consequent alternate
  | s => s.asBody

end Stmt

mutual

/-- What the text of an expression is read as: its strings get the source texts that they are written as, and its
bodies become blocks. -/
def Expr.reread : Expr → Expr
  | .identifier name => .identifier name
  | .literal value => .literal value.reread
  | .array parts => .array (Item.rereadAll parts)
  | .object parts => .object (Property.rereadAll parts)
  | .member object name => .member object.reread name
  | .index object index => .index object.reread index.reread
  | .call callee arguments => .call callee.reread (Item.rereadAll arguments)
  | .not operand => .not operand.reread
  | .binary op left right => .binary op left.reread right.reread
  | .conditional test consequent alternate => .conditional test.reread consequent.reread alternate.reread
  | .arrow params body => .arrow params body.reread
  | .markup node => .markup node.reread

def Item.rereadAll : List Item → List Item
  | [] => []
  | .single value :: parts => .single value.reread :: Item.rereadAll parts
  | .spread source :: parts => .spread source.reread :: Item.rereadAll parts

def Property.rereadAll : List Property → List Property
  | [] => []
  | .keyed key value :: parts => .keyed key value.reread :: Property.rereadAll parts
  | .spread source :: parts => .spread source.reread :: Property.rereadAll parts

def Body.reread : Body → Body
  | .expression value => .expression value.reread
  | .block ss => .block (Stmt.rereadAll ss)

def Stmt.reread : Stmt → Stmt
  | .importModule name path => .importModule name path
  | .declare kind name value => .declare kind name value.reread
  | .expression value => .expression value.reread
  | .branch test consequent none => .branch test.reread consequent.reread.asBody none
  | .branch test consequent (some alternate) =>
    .branch test.reread consequent.reread.asBody (some alternate.reread.asAlternate)
  | .block ss => .block (Stmt.rereadAll ss)
  | .forOf name source body => .forOf name source.reread body.reread.asBody
  | .leave none => .leave none
  | .leave (some value) => .leave (some value.reread)

def Stmt.rereadAll : List Stmt → List Stmt
  | [] => []
  | s :: ss => s.reread :: Stmt.rereadAll ss

def Markup.reread : Markup → Markup
  | .element tag attributes children selfClosing =>
    .element tag (MarkupAttribute.rereadAll attributes) (Markup.rereadAll children) selfClosing
  | .text value => .text value
  | .container none => .container none
  | .container (some value) => .container (some value.reread)
  | .fragment children => .fragment (Markup.rereadAll children)

def Markup.rereadAll : List Markup → List Markup
  | [] => []
  | node :: nodes => node.reread :: Markup.rereadAll nodes

def MarkupAttribute.rereadAll : List MarkupAttribute → List MarkupAttribute
  | [] => []
  | .named name none :: parts => .named name none :: MarkupAttribute.rereadAll parts
  | .named name (some value) :: parts => .named name (some value.reread) :: MarkupAttribute.rereadAll parts
  | .spread source :: parts => .spread source.reread :: MarkupAttribute.rereadAll parts

end

abbrev Program.WellFormed (p : Program) : Prop := Stmt.AllWellFormed p

abbrev Program.reread (p : Program) : Program := Stmt.rereadAll p

namespace Printer

lemma literal_reread (l : Literal) : literal l.reread = literal l := by
  cases l <;> rfl

lemma statement_body (tabs : Nat) (s : Stmt) : statement true tabs s = statements tabs s.parts := by
  cases s with
  | leave value => cases value <;> simp [Stmt.parts, statement, statements]
  | _ => simp [Stmt.parts, statement, statements]

lemma statement_asBody (tabs : Nat) (s : Stmt) : statement true tabs s.asBody = statement true tabs s := by
  rw [statement_body, statement_body]
  rfl

def attributeValue (value : Expr) (text : String) : String :=
  match value with
  | .literal (.string s source) => literal (.string s source)
  | _ => "\x7b" ++ text ++ "\x7d"

lemma markupAttributes_named (tabs : Nat) (name : String) (value : Expr) (rest : List MarkupAttribute) :
    markupAttributes tabs (.named name (some value) :: rest) =
      " " ++ name ++ "=" ++ attributeValue value (expression 0 tabs value) ++ markupAttributes tabs rest := by
  have hbrace : "=\x7b" = "=" ++ "\x7b" := rfl
  cases value with
  | literal l => cases l <;> simp only [markupAttributes, attributeValue, hbrace, String.append_assoc]
  | _ => simp only [markupAttributes, attributeValue, hbrace, String.append_assoc]

lemma attributeValue_reread (value : Expr) (text : String) :
    attributeValue value.reread text = attributeValue value text := by
  cases value with
  | literal l => cases l <;> rfl
  | _ => rfl

lemma otherwise_asAlternate (tabs : Nat) (s : Stmt) :
    otherwise tabs (some s.asAlternate) = otherwise tabs (some s) := by
  cases s with
  | branch => rfl
  | _ => simp only [Stmt.asAlternate, otherwise, Stmt.asBody, statement_body, Stmt.parts]

end Printer

lemma Markup.rereadAll_isEmpty (nodes : List Markup) : (Markup.rereadAll nodes).isEmpty = nodes.isEmpty := by
  cases nodes <;> rfl

section Print

open Printer

mutual

lemma Expr.print_reread : (e : Expr) → (min tabs : Nat) → expression min tabs e.reread = expression min tabs e
  | .identifier _, _, _ => rfl
  | .literal l, _, _ => literal_reread l
  | .array parts, _, tabs => by simp only [Expr.reread, expression, Item.print_reread parts tabs]
  | .object [], _, _ => rfl
  | .object (part :: parts), _, tabs => by
    have h := Property.print_reread (part :: parts) tabs
    cases part <;> simp only [Expr.reread, Property.rereadAll, expression] at h ⊢ <;> rw [h]
  | .member object _, _, tabs => by simp only [Expr.reread, expression, object.print_reread]
  | .index object index, _, tabs => by simp only [Expr.reread, expression, object.print_reread, index.print_reread]
  | .call callee arguments, _, tabs => by
    simp only [Expr.reread, expression, callee.print_reread, Item.print_reread arguments tabs]
  | .not operand, _, _ => by simp only [Expr.reread, expression, operand.print_reread]
  | .binary _ left right, _, _ => by simp only [Expr.reread, expression, left.print_reread, right.print_reread]
  | .conditional test consequent alternate, _, _ => by
    simp only [Expr.reread, expression, test.print_reread, consequent.print_reread, alternate.print_reread]
  | .arrow _ body, _, tabs => by simp only [Expr.reread, expression, body.print_reread]
  | .markup node, _, tabs => by simp only [Expr.reread, expression, node.print_reread]

lemma Item.print_reread : (parts : List Item) → (tabs : Nat) → items tabs (Item.rereadAll parts) = items tabs parts
  | [], _ => rfl
  | .single value :: parts, tabs => by
    simp only [Item.rereadAll, items, value.print_reread, Item.print_reread parts tabs]
  | .spread source :: parts, tabs => by
    simp only [Item.rereadAll, items, source.print_reread, Item.print_reread parts tabs]

lemma Property.print_reread : (parts : List Property) → (tabs : Nat) →
    properties tabs (Property.rereadAll parts) = properties tabs parts
  | [], _ => rfl
  | .keyed _ value :: parts, tabs => by
    simp only [Property.rereadAll, properties, value.print_reread, Property.print_reread parts tabs]
  | .spread source :: parts, tabs => by
    simp only [Property.rereadAll, properties, source.print_reread, Property.print_reread parts tabs]

lemma Body.print_reread : (body : Body) → (tabs : Nat) → function tabs body.reread = function tabs body
  | .expression value, tabs => by simp only [Body.reread, function, value.print_reread]
  | .block [], _ => rfl
  | .block (s :: ss), tabs => by
    have h := Stmt.print_rereadAll (s :: ss) (tabs + 1)
    simp only [Body.reread, Stmt.rereadAll, function] at h ⊢
    rw [h]

lemma Stmt.print_reread : (s : Stmt) → (isBody : Bool) → (tabs : Nat) →
    statement isBody tabs s.reread = statement isBody tabs s
  | .importModule _ _, _, _ => rfl
  | .declare _ _ value, _, _ => by simp only [Stmt.reread, statement, value.print_reread]
  | .expression value, _, _ => by simp only [Stmt.reread, statement, value.print_reread]
  | .branch test consequent none, _, tabs => by
    simp only [Stmt.reread, statement, test.print_reread, statement_asBody, consequent.print_reread]
  | .branch test consequent (some alternate), _, tabs => by
    simp only [Stmt.reread, statement, test.print_reread, statement_asBody, consequent.print_reread,
      otherwise_asAlternate, Stmt.print_otherwise alternate]
  | .block ss, _, tabs => by simp only [Stmt.reread, statement, Stmt.print_rereadAll ss]
  | .forOf _ source body, _, tabs => by
    simp only [Stmt.reread, statement, source.print_reread, statement_asBody, body.print_reread]
  | .leave none, _, _ => rfl
  | .leave (some value), _, _ => by simp only [Stmt.reread, statement, value.print_reread]

lemma Stmt.print_otherwise : (s : Stmt) → (tabs : Nat) → otherwise tabs (some s.reread) = otherwise tabs (some s)
  | .importModule _ _, _ => rfl
  | .declare kind name value, tabs => by
    simp only [Stmt.reread, otherwise, statement, value.print_reread]
  | .expression value, tabs => by
    simp only [Stmt.reread, otherwise, statement, value.print_reread]
  | .branch test consequent none, tabs => by
    simp only [Stmt.reread, otherwise, test.print_reread, statement_asBody, consequent.print_reread]
  | .branch test consequent (some alternate), tabs => by
    simp only [Stmt.reread, otherwise, test.print_reread, statement_asBody, consequent.print_reread,
      otherwise_asAlternate, Stmt.print_otherwise alternate]
  | .block ss, tabs => by simp only [Stmt.reread, otherwise, statement, Stmt.print_rereadAll ss]
  | .forOf name source body, tabs => by
    simp only [Stmt.reread, otherwise, statement, source.print_reread, statement_asBody, body.print_reread]
  | .leave none, _ => rfl
  | .leave (some value), tabs => by
    simp only [Stmt.reread, otherwise, statement, value.print_reread]

lemma Stmt.print_rereadAll : (ss : List Stmt) → (tabs : Nat) → statements tabs (Stmt.rereadAll ss) = statements tabs ss
  | [], _ => rfl
  | s :: ss, tabs => by simp only [Stmt.rereadAll, statements, s.print_reread, Stmt.print_rereadAll ss]

lemma Markup.print_reread : (node : Markup) → (tabs : Nat) → markup tabs node.reread = markup tabs node
  | .element tag attributes children selfClosing, tabs => by
    simp only [Markup.reread, markup, MarkupAttribute.print_reread attributes, Markup.rereadAll_isEmpty,
      Markup.print_rereadAll children]
  | .text _, _ => rfl
  | .container none, _ => rfl
  | .container (some value), tabs => by simp only [Markup.reread, markup, value.print_reread]
  | .fragment children, tabs => by simp only [Markup.reread, markup, Markup.print_rereadAll children]

lemma Markup.print_rereadAll : (nodes : List Markup) → (tabs : Nat) →
    markups tabs (Markup.rereadAll nodes) = markups tabs nodes
  | [], _ => rfl
  | node :: nodes, tabs => by
    simp only [Markup.rereadAll, markups, node.print_reread, Markup.print_rereadAll nodes]

lemma MarkupAttribute.print_reread : (parts : List MarkupAttribute) → (tabs : Nat) →
    markupAttributes tabs (MarkupAttribute.rereadAll parts) = markupAttributes tabs parts
  | [], _ => rfl
  | .named _ none :: parts, tabs => by
    simp only [MarkupAttribute.rereadAll, markupAttributes, MarkupAttribute.print_reread parts]
  | .named name (some value) :: parts, tabs => by
    rw [MarkupAttribute.rereadAll, markupAttributes_named, markupAttributes_named, attributeValue_reread,
      value.print_reread, MarkupAttribute.print_reread parts]
  | .spread source :: parts, tabs => by
    simp only [MarkupAttribute.rereadAll, markupAttributes, source.print_reread, MarkupAttribute.print_reread parts]

end

end Print

end TemplateScript
