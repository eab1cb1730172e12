import TemplateScript.Proofs.Script.Subterms

namespace TemplateScript

section Definitions

variable (f : String → String)

mutual

def Expr.rename : Expr → Expr
  | .identifier name => .identifier (f name)
  | .literal value => .literal value
  | .array parts => .array (Item.renameAll parts)
  | .object parts => .object (Property.renameAll parts)
  | .member object name => .member object.rename name
  | .index object index => .index object.rename index.rename
  | .call callee arguments => .call callee.rename (Item.renameAll arguments)
  | .not operand => .not operand.rename
  | .binary op left right => .binary op left.rename right.rename
  | .conditional test consequent alternate => .conditional test.rename consequent.rename alternate.rename
  | .arrow params body => .arrow (params.map f) body.rename
  | .markup node => .markup node.rename

def Item.renameAll : List Item → List Item
  | [] => []
  | .single value :: parts => .single value.rename :: Item.renameAll parts
  | .spread source :: parts => .spread source.rename :: Item.renameAll parts

def Property.renameAll : List Property → List Property
  | [] => []
  | .keyed key value :: parts => .keyed key value.rename :: Property.renameAll parts
  | .spread source :: parts => .spread source.rename :: Property.renameAll parts

def Body.rename : Body → Body
  | .expression value => .expression value.rename
  | .block ss => .block (Stmt.renameAll ss)

def Stmt.rename : Stmt → Stmt
  | .importModule name path => .importModule (f name) path
  | .declare kind name value => .declare kind (f name) value.rename
  | .expression value => .expression value.rename
  | .branch test consequent none => .branch test.rename consequent.rename none
  | .branch test consequent (some alternate) => .branch test.rename consequent.rename (some alternate.rename)
  | .block ss => .block (Stmt.renameAll ss)
  | .forOf name source body => .forOf (f name) source.rename body.rename
  | .leave none => .leave none
  | .leave (some value) => .leave (some value.rename)

def Stmt.renameAll : List Stmt → List Stmt
  | [] => []
  | s :: ss => s.rename :: Stmt.renameAll ss

def Markup.rename : Markup → Markup
  | .element tag attributes children closed =>
    .element tag.rename (MarkupAttribute.renameAll attributes) (Markup.renameAll children) closed
  | .text value => .text value
  | .container none => .container none
  | .container (some value) => .container (some value.rename)
  | .fragment children => .fragment (Markup.renameAll children)

def Markup.renameAll : List Markup → List Markup
  | [] => []
  | node :: nodes => node.rename :: Markup.renameAll nodes

def Tag.rename : Tag → Tag
  | .static name => .static name
  | .computed name => .computed name.rename
  | .component callee => .component callee.rename

def MarkupAttribute.renameAll : List MarkupAttribute → List MarkupAttribute
  | [] => []
  | .named name none :: parts => .named name none :: MarkupAttribute.renameAll parts
  | .named name (some value) :: parts => .named name (some value.rename) :: MarkupAttribute.renameAll parts
  | .spread source :: parts => .spread source.rename :: MarkupAttribute.renameAll parts

end

abbrev Program.rename (p : Program) : Program := Stmt.renameAll f p

def Subterm.rename : Subterm → Subterm
  | .expression e => .expression (e.rename f)
  | .statement s => .statement (s.rename f)
  | .markup node => .markup (node.rename f)

end Definitions

section Inverse

variable {f g : String → String}

mutual

lemma Expr.rename_inverse (h : ∀ name, g (f name) = name) : (e : Expr) → (e.rename f).rename g = e
  | .identifier _ | .literal _ => by simp [Expr.rename, h]
  | .array parts => by simp [Expr.rename, Item.rename_inverse h parts]
  | .object parts => by simp [Expr.rename, Property.rename_inverse h parts]
  | .member object _ => by simp [Expr.rename, object.rename_inverse h]
  | .index object index => by simp [Expr.rename, object.rename_inverse h, index.rename_inverse h]
  | .call callee arguments => by simp [Expr.rename, callee.rename_inverse h, Item.rename_inverse h arguments]
  | .not operand => by simp [Expr.rename, operand.rename_inverse h]
  | .binary _ left right => by simp [Expr.rename, left.rename_inverse h, right.rename_inverse h]
  | .conditional test consequent alternate => by
    simp [Expr.rename, test.rename_inverse h, consequent.rename_inverse h, alternate.rename_inverse h]
  | .arrow params body => by simp [Expr.rename, body.rename_inverse h, Function.comp_def, h]
  | .markup node => by simp [Expr.rename, node.rename_inverse h]

lemma Item.rename_inverse (h : ∀ name, g (f name) = name) : (parts : List Item) →
    Item.renameAll g (Item.renameAll f parts) = parts
  | [] => by simp [Item.renameAll]
  | .single value :: parts => by simp [Item.renameAll, value.rename_inverse h, Item.rename_inverse h parts]
  | .spread source :: parts => by simp [Item.renameAll, source.rename_inverse h, Item.rename_inverse h parts]

lemma Property.rename_inverse (h : ∀ name, g (f name) = name) : (parts : List Property) →
    Property.renameAll g (Property.renameAll f parts) = parts
  | [] => by simp [Property.renameAll]
  | .keyed _ value :: parts => by simp [Property.renameAll, value.rename_inverse h, Property.rename_inverse h parts]
  | .spread source :: parts => by simp [Property.renameAll, source.rename_inverse h, Property.rename_inverse h parts]

lemma Body.rename_inverse (h : ∀ name, g (f name) = name) : (body : Body) → (body.rename f).rename g = body
  | .expression value => by simp [Body.rename, value.rename_inverse h]
  | .block ss => by simp [Body.rename, Stmt.renameAll_inverse h ss]

lemma Stmt.rename_inverse (h : ∀ name, g (f name) = name) : (s : Stmt) → (s.rename f).rename g = s
  | .importModule _ _ => by simp [Stmt.rename, h]
  | .declare _ _ value => by simp [Stmt.rename, value.rename_inverse h, h]
  | .expression value => by simp [Stmt.rename, value.rename_inverse h]
  | .branch test consequent none => by simp [Stmt.rename, test.rename_inverse h, consequent.rename_inverse h]
  | .branch test consequent (some alternate) => by
    simp [Stmt.rename, test.rename_inverse h, consequent.rename_inverse h, alternate.rename_inverse h]
  | .block ss => by simp [Stmt.rename, Stmt.renameAll_inverse h ss]
  | .forOf _ source body => by simp [Stmt.rename, source.rename_inverse h, body.rename_inverse h, h]
  | .leave none => by simp [Stmt.rename]
  | .leave (some value) => by simp [Stmt.rename, value.rename_inverse h]

lemma Stmt.renameAll_inverse (h : ∀ name, g (f name) = name) : (ss : List Stmt) →
    Stmt.renameAll g (Stmt.renameAll f ss) = ss
  | [] => by simp [Stmt.renameAll]
  | s :: ss => by simp [Stmt.renameAll, s.rename_inverse h, Stmt.renameAll_inverse h ss]

lemma Markup.rename_inverse (h : ∀ name, g (f name) = name) : (node : Markup) → (node.rename f).rename g = node
  | .element tag attributes children _ => by
    simp [Markup.rename, tag.rename_inverse h, MarkupAttribute.rename_inverse h attributes,
      Markup.renameAll_inverse h children]
  | .text _ | .container none => by simp [Markup.rename]
  | .container (some value) => by simp [Markup.rename, value.rename_inverse h]
  | .fragment children => by simp [Markup.rename, Markup.renameAll_inverse h children]

lemma Markup.renameAll_inverse (h : ∀ name, g (f name) = name) : (nodes : List Markup) →
    Markup.renameAll g (Markup.renameAll f nodes) = nodes
  | [] => by simp [Markup.renameAll]
  | node :: nodes => by simp [Markup.renameAll, node.rename_inverse h, Markup.renameAll_inverse h nodes]

lemma Tag.rename_inverse (h : ∀ name, g (f name) = name) : (tag : Tag) → (tag.rename f).rename g = tag
  | .static _ => by simp [Tag.rename]
  | .computed name => by simp [Tag.rename, name.rename_inverse h]
  | .component callee => by simp [Tag.rename, callee.rename_inverse h]

lemma MarkupAttribute.rename_inverse (h : ∀ name, g (f name) = name) : (parts : List MarkupAttribute) →
    MarkupAttribute.renameAll g (MarkupAttribute.renameAll f parts) = parts
  | [] => by simp [MarkupAttribute.renameAll]
  | .named _ none :: parts => by simp [MarkupAttribute.renameAll, MarkupAttribute.rename_inverse h parts]
  | .named _ (some value) :: parts => by
    simp [MarkupAttribute.renameAll, value.rename_inverse h, MarkupAttribute.rename_inverse h parts]
  | .spread source :: parts => by
    simp [MarkupAttribute.renameAll, source.rename_inverse h, MarkupAttribute.rename_inverse h parts]

end

end Inverse

section Subterms

variable (f : String → String)

mutual

lemma Expr.subterms_rename : (e : Expr) → (e.rename f).subterms = e.subterms.map (Subterm.rename f)
  | .identifier _ | .literal _ => by simp [Expr.rename, Subterm.rename]
  | .array parts => by simp [Expr.rename, Subterm.rename, Item.subterms_rename parts]
  | .object parts => by simp [Expr.rename, Subterm.rename, Property.subterms_rename parts]
  | .member object _ => by simp [Expr.rename, Subterm.rename, object.subterms_rename]
  | .index object index => by
    simp [Expr.rename, Subterm.rename, object.subterms_rename, index.subterms_rename]
  | .call callee arguments => by
    simp [Expr.rename, Subterm.rename, callee.subterms_rename, Item.subterms_rename arguments]
  | .not operand => by simp [Expr.rename, Subterm.rename, operand.subterms_rename]
  | .binary _ left right => by
    simp [Expr.rename, Subterm.rename, left.subterms_rename, right.subterms_rename]
  | .conditional test consequent alternate => by
    simp [Expr.rename, Subterm.rename, test.subterms_rename, consequent.subterms_rename, alternate.subterms_rename]
  | .arrow _ body => by simp [Expr.rename, Subterm.rename, body.subterms_rename]
  | .markup node => by simp [Expr.rename, Subterm.rename, node.subterms_rename]

lemma Item.subterms_rename : (parts : List Item) →
    Item.subterms (Item.renameAll f parts) = (Item.subterms parts).map (Subterm.rename f)
  | [] => by simp [Item.renameAll]
  | .single value :: parts => by simp [Item.renameAll, value.subterms_rename, Item.subterms_rename parts]
  | .spread source :: parts => by simp [Item.renameAll, source.subterms_rename, Item.subterms_rename parts]

lemma Property.subterms_rename : (parts : List Property) →
    Property.subterms (Property.renameAll f parts) = (Property.subterms parts).map (Subterm.rename f)
  | [] => by simp [Property.renameAll]
  | .keyed _ value :: parts => by
    simp [Property.renameAll, value.subterms_rename, Property.subterms_rename parts]
  | .spread source :: parts => by
    simp [Property.renameAll, source.subterms_rename, Property.subterms_rename parts]

lemma Body.subterms_rename : (body : Body) → (body.rename f).subterms = body.subterms.map (Subterm.rename f)
  | .expression value => by simp [Body.rename, value.subterms_rename]
  | .block ss => by simp [Body.rename, Stmt.allSubterms_rename ss]

lemma Stmt.subterms_rename : (s : Stmt) → (s.rename f).subterms = s.subterms.map (Subterm.rename f)
  | .importModule _ _ => by simp [Stmt.rename, Subterm.rename]
  | .declare _ _ value => by simp [Stmt.rename, Subterm.rename, value.subterms_rename]
  | .expression value => by simp [Stmt.rename, Subterm.rename, value.subterms_rename]
  | .branch test consequent none => by
    simp [Stmt.rename, Subterm.rename, test.subterms_rename, consequent.subterms_rename]
  | .branch test consequent (some alternate) => by
    simp [Stmt.rename, Subterm.rename, test.subterms_rename, consequent.subterms_rename, alternate.subterms_rename]
  | .block ss => by simp [Stmt.rename, Subterm.rename, Stmt.allSubterms_rename ss]
  | .forOf _ source body => by
    simp [Stmt.rename, Subterm.rename, source.subterms_rename, body.subterms_rename]
  | .leave none => by simp [Stmt.rename, Subterm.rename]
  | .leave (some value) => by simp [Stmt.rename, Subterm.rename, value.subterms_rename]

lemma Stmt.allSubterms_rename : (ss : List Stmt) →
    Stmt.allSubterms (Stmt.renameAll f ss) = (Stmt.allSubterms ss).map (Subterm.rename f)
  | [] => by simp [Stmt.renameAll]
  | s :: ss => by simp [Stmt.renameAll, s.subterms_rename, Stmt.allSubterms_rename ss]

lemma Markup.subterms_rename : (node : Markup) → (node.rename f).subterms = node.subterms.map (Subterm.rename f)
  | .element tag attributes children _ => by
    simp [Markup.rename, Subterm.rename, tag.subterms_rename, MarkupAttribute.subterms_rename attributes,
      Markup.allSubterms_rename children]
  | .text _ | .container none => by simp [Markup.rename, Subterm.rename]
  | .container (some value) => by simp [Markup.rename, Subterm.rename, value.subterms_rename]
  | .fragment children => by simp [Markup.rename, Subterm.rename, Markup.allSubterms_rename children]

lemma Markup.allSubterms_rename : (nodes : List Markup) →
    Markup.allSubterms (Markup.renameAll f nodes) = (Markup.allSubterms nodes).map (Subterm.rename f)
  | [] => by simp [Markup.renameAll]
  | node :: nodes => by simp [Markup.renameAll, node.subterms_rename, Markup.allSubterms_rename nodes]

lemma Tag.subterms_rename : (tag : Tag) → (tag.rename f).subterms = tag.subterms.map (Subterm.rename f)
  | .static _ => by simp [Tag.rename]
  | .computed name => by simp [Tag.rename, name.subterms_rename]
  | .component callee => by simp [Tag.rename, callee.subterms_rename]

lemma MarkupAttribute.subterms_rename : (parts : List MarkupAttribute) →
    MarkupAttribute.subterms (MarkupAttribute.renameAll f parts) = (MarkupAttribute.subterms parts).map (Subterm.rename f)
  | [] => by simp [MarkupAttribute.renameAll]
  | .named _ none :: parts => by
    simp [MarkupAttribute.renameAll, MarkupAttribute.subterms_rename parts]
  | .named _ (some value) :: parts => by
    simp [MarkupAttribute.renameAll, value.subterms_rename, MarkupAttribute.subterms_rename parts]
  | .spread source :: parts => by
    simp [MarkupAttribute.renameAll, source.subterms_rename, MarkupAttribute.subterms_rename parts]

end

end Subterms

end TemplateScript
