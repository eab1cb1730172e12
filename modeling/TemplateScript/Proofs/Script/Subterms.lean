import Mathlib.Tactic.Common
import TemplateScript.Script.Expr

namespace TemplateScript

inductive Subterm where
  | expression (e : Expr)
  | statement (s : Stmt)
  | markup (node : Markup)

mutual

def Expr.subterms : Expr → List Subterm
  | .identifier name => [.expression (.identifier name)]
  | .literal value => [.expression (.literal value)]
  | .array items => .expression (.array items) :: Item.subterms items
  | .object properties => .expression (.object properties) :: Property.subterms properties
  | .member object name => .expression (.member object name) :: object.subterms
  | .index object index => .expression (.index object index) :: (object.subterms ++ index.subterms)
  | .call callee arguments => .expression (.call callee arguments) :: (callee.subterms ++ Item.subterms arguments)
  | .not operand => .expression (.not operand) :: operand.subterms
  | .binary op left right => .expression (.binary op left right) :: (left.subterms ++ right.subterms)
  | .conditional test consequent alternate =>
    .expression (.conditional test consequent alternate) ::
      (test.subterms ++ (consequent.subterms ++ alternate.subterms))
  | .arrow params body => .expression (.arrow params body) :: body.subterms
  | .markup node => .expression (.markup node) :: node.subterms

def Item.subterms : List Item → List Subterm
  | [] => []
  | .single value :: items => value.subterms ++ Item.subterms items
  | .spread source :: items => source.subterms ++ Item.subterms items

def Property.subterms : List Property → List Subterm
  | [] => []
  | .keyed _ value :: properties => value.subterms ++ Property.subterms properties
  | .spread source :: properties => source.subterms ++ Property.subterms properties

def Body.subterms : Body → List Subterm
  | .expression value => value.subterms
  | .block ss => Stmt.allSubterms ss

def Stmt.subterms : Stmt → List Subterm
  | .importModule name path => [.statement (.importModule name path)]
  | .declare kind name value => .statement (.declare kind name value) :: value.subterms
  | .expression value => .statement (.expression value) :: value.subterms
  | .branch test consequent none =>
    .statement (.branch test consequent none) :: (test.subterms ++ consequent.subterms)
  | .branch test consequent (some alternate) =>
    .statement (.branch test consequent (some alternate)) ::
      (test.subterms ++ (consequent.subterms ++ alternate.subterms))
  | .block ss => .statement (.block ss) :: Stmt.allSubterms ss
  | .forOf name source body => .statement (.forOf name source body) :: (source.subterms ++ body.subterms)
  | .leave none => [.statement (.leave none)]
  | .leave (some value) => .statement (.leave (some value)) :: value.subterms

def Stmt.allSubterms : List Stmt → List Subterm
  | [] => []
  | s :: ss => s.subterms ++ Stmt.allSubterms ss

def Markup.subterms : Markup → List Subterm
  | .element tag attributes children selfClosing =>
    .markup (.element tag attributes children selfClosing) ::
      (tag.subterms ++ (MarkupAttribute.subterms attributes ++ Markup.allSubterms children))
  | .text value => [.markup (.text value)]
  | .container none => [.markup (.container none)]
  | .container (some value) => .markup (.container (some value)) :: value.subterms
  | .fragment children => .markup (.fragment children) :: Markup.allSubterms children

def Markup.allSubterms : List Markup → List Subterm
  | [] => []
  | node :: nodes => node.subterms ++ Markup.allSubterms nodes

def Tag.subterms : Tag → List Subterm
  | .static _ => []
  | .computed name => name.subterms
  | .component callee => callee.subterms

def MarkupAttribute.subterms : List MarkupAttribute → List Subterm
  | [] => []
  | .named _ none :: attributes => MarkupAttribute.subterms attributes
  | .named _ (some value) :: attributes => value.subterms ++ MarkupAttribute.subterms attributes
  | .spread source :: attributes => source.subterms ++ MarkupAttribute.subterms attributes

end

attribute [simp] Expr.subterms Item.subterms Property.subterms Body.subterms Stmt.subterms Stmt.allSubterms Markup.subterms
  Markup.allSubterms Tag.subterms MarkupAttribute.subterms

abbrev Program.subterms (p : Program) : List Subterm := Stmt.allSubterms p

end TemplateScript
