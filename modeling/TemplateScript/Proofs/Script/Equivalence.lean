import TemplateScript.Proofs.Script.WellFormed

/-!
Programs that differ in writing only: in the source texts of strings, and in whether the bodies of `if`, `else`
and `for` that are single statements have braces. Such programs have the same canonical form, which a program
shares with what its text is read as.
-/

namespace TemplateScript

def Literal.unsourced : Literal → Literal
  | .string value _ => .string value none
  | l => l

mutual

def Expr.canonical : Expr → Expr
  | .identifier name => .identifier name
  | .literal l => .literal l.unsourced
  | .array parts => .array (Item.canonicalAll parts)
  | .object parts => .object (Property.canonicalAll parts)
  | .member object name => .member object.canonical name
  | .index object index => .index object.canonical index.canonical
  | .call callee arguments => .call callee.canonical (Item.canonicalAll arguments)
  | .not operand => .not operand.canonical
  | .binary op left right => .binary op left.canonical right.canonical
  | .conditional test consequent alternate =>
    .conditional test.canonical consequent.canonical alternate.canonical
  | .arrow params body => .arrow params body.canonical
  | .markup node => .markup node.canonical

def Item.canonicalAll : List Item → List Item
  | [] => []
  | .single value :: parts => .single value.canonical :: Item.canonicalAll parts
  | .spread source :: parts => .spread source.canonical :: Item.canonicalAll parts

def Property.canonicalAll : List Property → List Property
  | [] => []
  | .keyed key value :: parts => .keyed key value.canonical :: Property.canonicalAll parts
  | .spread source :: parts => .spread source.canonical :: Property.canonicalAll parts

def Body.canonical : Body → Body
  | .expression value => .expression value.canonical
  | .block ss => .block (Stmt.canonicalAll ss)

def Stmt.canonical : Stmt → Stmt
  | .importModule name path => .importModule name path
  | .declare kind name value => .declare kind name value.canonical
  | .expression value => .expression value.canonical
  | .branch test consequent none => .branch test.canonical consequent.canonical.asBody none
  | .branch test consequent (some alternate) =>
    .branch test.canonical consequent.canonical.asBody (some alternate.canonical.asBody)
  | .block ss => .block (Stmt.canonicalAll ss)
  | .forOf name source body => .forOf name source.canonical body.canonical.asBody
  | .leave none => .leave none
  | .leave (some value) => .leave (some value.canonical)

def Stmt.canonicalAll : List Stmt → List Stmt
  | [] => []
  | s :: ss => s.canonical :: Stmt.canonicalAll ss

def Markup.canonical : Markup → Markup
  | .element tag attributes children selfClosing =>
    .element tag.canonical (MarkupAttribute.canonicalAll attributes) (Markup.canonicalAll children) selfClosing
  | .text value => .text value
  | .container none => .container none
  | .container (some value) => .container (some value.canonical)
  | .fragment children => .fragment (Markup.canonicalAll children)

def Markup.canonicalAll : List Markup → List Markup
  | [] => []
  | node :: nodes => node.canonical :: Markup.canonicalAll nodes

def Tag.canonical : Tag → Tag
  | .static name => .static name
  | .computed name => .computed name.canonical
  | .component callee => .component callee.canonical

def MarkupAttribute.canonicalAll : List MarkupAttribute → List MarkupAttribute
  | [] => []
  | .named name none :: parts => .named name none :: MarkupAttribute.canonicalAll parts
  | .named name (some value) :: parts => .named name (some value.canonical) :: MarkupAttribute.canonicalAll parts
  | .spread source :: parts => .spread source.canonical :: MarkupAttribute.canonicalAll parts

end

/-- Programs that are equal up to the source texts of strings and up to braces around single statements. -/
def Program.Equivalent (p q : Program) : Prop := Stmt.canonicalAll p = Stmt.canonicalAll q

namespace Stmt

lemma parts_block (ss : List Stmt) : (block ss).parts = ss := rfl

lemma parts_canonical (s : Stmt) : s.canonical.parts = canonicalAll s.parts := by
  cases s with
  | block ss => simp only [canonical, parts]
  | branch test consequent alternate => cases alternate <;> simp only [canonical, parts, canonicalAll]
  | leave value => cases value <;> simp only [canonical, parts, canonicalAll]
  | _ => simp only [canonical, parts, canonicalAll]

lemma asBody_canonical (s : Stmt) : s.canonical.asBody = .block (canonicalAll s.parts) := by
  rw [asBody, parts_canonical]

lemma canonical_asBody (s : Stmt) : s.asBody.canonical.asBody = s.canonical.asBody := by
  rw [asBody_canonical, asBody_canonical, asBody, parts]

lemma canonical_asAlternate (s : Stmt) : s.asAlternate.canonical.asBody = s.canonical.asBody := by
  cases s with
  | branch => rfl
  | _ => exact canonical_asBody _

end Stmt

section Reread

lemma Literal.unsourced_reread (l : Literal) : l.reread.unsourced = l.unsourced := by
  cases l <;> rfl

mutual

lemma Expr.canonical_reread : (e : Expr) → e.reread.canonical = e.canonical
  | .identifier _ => rfl
  | .literal l => by simp only [Expr.reread, Expr.canonical, l.unsourced_reread]
  | .array parts => by simp only [Expr.reread, Expr.canonical, Item.canonical_rereadAll parts]
  | .object parts => by simp only [Expr.reread, Expr.canonical, Property.canonical_rereadAll parts]
  | .member object _ => by simp only [Expr.reread, Expr.canonical, object.canonical_reread]
  | .index object index => by simp only [Expr.reread, Expr.canonical, object.canonical_reread, index.canonical_reread]
  | .call callee arguments => by
    simp only [Expr.reread, Expr.canonical, callee.canonical_reread, Item.canonical_rereadAll arguments]
  | .not operand => by simp only [Expr.reread, Expr.canonical, operand.canonical_reread]
  | .binary _ left right => by simp only [Expr.reread, Expr.canonical, left.canonical_reread, right.canonical_reread]
  | .conditional test consequent alternate => by
    simp only [Expr.reread, Expr.canonical, test.canonical_reread, consequent.canonical_reread,
      alternate.canonical_reread]
  | .arrow _ body => by simp only [Expr.reread, Expr.canonical, body.canonical_reread]
  | .markup node => by simp only [Expr.reread, Expr.canonical, node.canonical_reread]

lemma Item.canonical_rereadAll : (parts : List Item) →
    Item.canonicalAll (Item.rereadAll parts) = Item.canonicalAll parts
  | [] => rfl
  | .single value :: parts => by
    simp only [Item.rereadAll, Item.canonicalAll, value.canonical_reread, Item.canonical_rereadAll parts]
  | .spread source :: parts => by
    simp only [Item.rereadAll, Item.canonicalAll, source.canonical_reread, Item.canonical_rereadAll parts]

lemma Property.canonical_rereadAll : (parts : List Property) →
    Property.canonicalAll (Property.rereadAll parts) = Property.canonicalAll parts
  | [] => rfl
  | .keyed _ value :: parts => by
    simp only [Property.rereadAll, Property.canonicalAll, value.canonical_reread, Property.canonical_rereadAll parts]
  | .spread source :: parts => by
    simp only [Property.rereadAll, Property.canonicalAll, source.canonical_reread, Property.canonical_rereadAll parts]

lemma Body.canonical_reread : (body : Body) → body.reread.canonical = body.canonical
  | .expression value => by simp only [Body.reread, Body.canonical, value.canonical_reread]
  | .block ss => by simp only [Body.reread, Body.canonical, Stmt.canonical_rereadAll ss]

lemma Stmt.canonical_reread : (s : Stmt) → s.reread.canonical = s.canonical
  | .importModule _ _ => rfl
  | .declare _ _ value => by simp only [Stmt.reread, Stmt.canonical, value.canonical_reread]
  | .expression value => by simp only [Stmt.reread, Stmt.canonical, value.canonical_reread]
  | .branch test consequent none => by
    simp only [Stmt.reread, Stmt.canonical, test.canonical_reread, Stmt.canonical_asBody, consequent.canonical_reread]
  | .branch test consequent (some alternate) => by
    simp only [Stmt.reread, Stmt.canonical, test.canonical_reread, Stmt.canonical_asBody, consequent.canonical_reread,
      Stmt.canonical_asAlternate, alternate.canonical_reread]
  | .block ss => by simp only [Stmt.reread, Stmt.canonical, Stmt.canonical_rereadAll ss]
  | .forOf _ source body => by
    simp only [Stmt.reread, Stmt.canonical, source.canonical_reread, Stmt.canonical_asBody, body.canonical_reread]
  | .leave none => rfl
  | .leave (some value) => by simp only [Stmt.reread, Stmt.canonical, value.canonical_reread]

lemma Stmt.canonical_rereadAll : (ss : List Stmt) → Stmt.canonicalAll (Stmt.rereadAll ss) = Stmt.canonicalAll ss
  | [] => rfl
  | s :: ss => by simp only [Stmt.rereadAll, Stmt.canonicalAll, s.canonical_reread, Stmt.canonical_rereadAll ss]

lemma Markup.canonical_reread : (node : Markup) → node.reread.canonical = node.canonical
  | .element _ attributes children _ => by
    simp only [Markup.reread, Markup.canonical, MarkupAttribute.canonical_rereadAll attributes,
      Markup.canonical_rereadAll children]
  | .text _ => rfl
  | .container none => rfl
  | .container (some value) => by simp only [Markup.reread, Markup.canonical, value.canonical_reread]
  | .fragment children => by simp only [Markup.reread, Markup.canonical, Markup.canonical_rereadAll children]

lemma Markup.canonical_rereadAll : (nodes : List Markup) →
    Markup.canonicalAll (Markup.rereadAll nodes) = Markup.canonicalAll nodes
  | [] => rfl
  | node :: nodes => by
    simp only [Markup.rereadAll, Markup.canonicalAll, node.canonical_reread, Markup.canonical_rereadAll nodes]

lemma MarkupAttribute.canonical_rereadAll : (parts : List MarkupAttribute) →
    MarkupAttribute.canonicalAll (MarkupAttribute.rereadAll parts) = MarkupAttribute.canonicalAll parts
  | [] => rfl
  | .named _ none :: parts => by
    simp only [MarkupAttribute.rereadAll, MarkupAttribute.canonicalAll, MarkupAttribute.canonical_rereadAll parts]
  | .named _ (some value) :: parts => by
    simp only [MarkupAttribute.rereadAll, MarkupAttribute.canonicalAll, value.canonical_reread,
      MarkupAttribute.canonical_rereadAll parts]
  | .spread source :: parts => by
    simp only [MarkupAttribute.rereadAll, MarkupAttribute.canonicalAll, source.canonical_reread,
      MarkupAttribute.canonical_rereadAll parts]

end

theorem Program.reread_equivalent (p : Program) : Program.Equivalent p.reread p :=
  Stmt.canonical_rereadAll p

end Reread

end TemplateScript
