import TemplateScript.Proofs.Evaluation.Correspondence

namespace TemplateScript

mutual

def Expr.unsourced : Expr → Expr
  | .identifier name => .identifier name
  | .literal l => .literal l.unsourced
  | .array parts => .array (Item.unsourcedAll parts)
  | .object parts => .object (Property.unsourcedAll parts)
  | .member object name => .member object.unsourced name
  | .index object index => .index object.unsourced index.unsourced
  | .call callee arguments => .call callee.unsourced (Item.unsourcedAll arguments)
  | .not operand => .not operand.unsourced
  | .binary op left right => .binary op left.unsourced right.unsourced
  | .conditional test consequent alternate =>
    .conditional test.unsourced consequent.unsourced alternate.unsourced
  | .arrow params body => .arrow params body.unsourced
  | .markup node => .markup node.unsourced

def Item.unsourcedAll : List Item → List Item
  | [] => []
  | .single value :: parts => .single value.unsourced :: Item.unsourcedAll parts
  | .spread source :: parts => .spread source.unsourced :: Item.unsourcedAll parts

def Property.unsourcedAll : List Property → List Property
  | [] => []
  | .keyed key value :: parts => .keyed key value.unsourced :: Property.unsourcedAll parts
  | .spread source :: parts => .spread source.unsourced :: Property.unsourcedAll parts

def Body.unsourced : Body → Body
  | .expression value => .expression value.unsourced
  | .block ss => .block (Stmt.unsourcedAll ss)

def Stmt.unsourced : Stmt → Stmt
  | .importModule name path => .importModule name path
  | .declare kind name value => .declare kind name value.unsourced
  | .expression value => .expression value.unsourced
  | .branch test consequent none => .branch test.unsourced consequent.unsourced none
  | .branch test consequent (some alternate) =>
    .branch test.unsourced consequent.unsourced (some alternate.unsourced)
  | .block ss => .block (Stmt.unsourcedAll ss)
  | .forOf name source body => .forOf name source.unsourced body.unsourced
  | .leave none => .leave none
  | .leave (some value) => .leave (some value.unsourced)

def Stmt.unsourcedAll : List Stmt → List Stmt
  | [] => []
  | s :: ss => s.unsourced :: Stmt.unsourcedAll ss

def Markup.unsourced : Markup → Markup
  | .element (.static name) attributes children closed =>
    .element (.static name) (MarkupAttribute.unsourcedAll attributes) (Markup.unsourcedAll children) closed
  | .element (.computed name) attributes children closed =>
    .element (.computed name.unsourced) (MarkupAttribute.unsourcedAll attributes) (Markup.unsourcedAll children) closed
  | .element (.component callee) attributes children closed =>
    .element (.component callee.unsourced) (MarkupAttribute.unsourcedAll attributes) (Markup.unsourcedAll children) closed
  | .text value => .text value
  | .container none => .container none
  | .container (some value) => .container (some value.unsourced)
  | .fragment children => .fragment (Markup.unsourcedAll children)

def Markup.unsourcedAll : List Markup → List Markup
  | [] => []
  | node :: nodes => node.unsourced :: Markup.unsourcedAll nodes

def MarkupAttribute.unsourcedAll : List MarkupAttribute → List MarkupAttribute
  | [] => []
  | .named name none :: parts => .named name none :: MarkupAttribute.unsourcedAll parts
  | .named name (some value) :: parts => .named name (some value.unsourced) :: MarkupAttribute.unsourcedAll parts
  | .spread source :: parts => .spread source.unsourced :: MarkupAttribute.unsourcedAll parts

end

mutual

def Expr.isPlain (V : String → Bool) : Expr → Bool
  | .identifier name => V name
  | .literal _ => true
  | .array parts => Item.arePlain V parts
  | .object parts => Property.arePlain V parts
  | .member object _ => object.isPlain V
  | .index object index => object.isPlain V && index.isPlain V
  | .call callee arguments => callee.isPlain V && Item.arePlain V arguments
  | .not operand => operand.isPlain V
  | .binary _ left right => left.isPlain V && right.isPlain V
  | .conditional test consequent alternate => test.isPlain V && consequent.isPlain V && alternate.isPlain V
  | .arrow _ body => body.isPlain V
  | .markup _ => false

def Item.arePlain (V : String → Bool) : List Item → Bool
  | [] => true
  | .single value :: parts => value.isPlain V && Item.arePlain V parts
  | .spread source :: parts => source.isPlain V && Item.arePlain V parts

def Property.arePlain (V : String → Bool) : List Property → Bool
  | [] => true
  | .keyed _ value :: parts => value.isPlain V && Property.arePlain V parts
  | .spread source :: parts => source.isPlain V && Property.arePlain V parts

def Body.isPlain (V : String → Bool) : Body → Bool
  | .expression value => value.isPlain V
  | .block ss => Stmt.arePlain V ss

def Stmt.isPlain (V : String → Bool) : Stmt → Bool
  | .importModule _ _ => true
  | .declare _ _ value => value.isPlain V
  | .expression value => value.isPlain V
  | .branch test consequent none => test.isPlain V && consequent.isPlain V
  | .branch test consequent (some alternate) => test.isPlain V && consequent.isPlain V && alternate.isPlain V
  | .block ss => Stmt.arePlain V ss
  | .forOf _ source body => source.isPlain V && body.isPlain V
  | .leave none => true
  | .leave (some value) => value.isPlain V

def Stmt.arePlain (V : String → Bool) : List Stmt → Bool
  | [] => true
  | s :: ss => s.isPlain V && Stmt.arePlain V ss

end

lemma Literal.evaluates_unsourced (l : Literal) : Evaluation.literal l = Evaluation.literal l.unsourced := by
  cases l <;> rfl

section Alike

variable {V : String → Bool}

mutual

lemma Expr.Alike.unsourced : (e : Expr) → e.isPlain V = true → Expr.Alike (V · = true) e e.unsourced
  | .identifier name, h => by
    simp only [Expr.isPlain] at h
    simpa only [Expr.unsourced] using .identifier h
  | .literal l, _ => by simpa only [Expr.unsourced] using .literal l.evaluates_unsourced
  | .array parts, h => by
    simp only [Expr.isPlain] at h
    simpa only [Expr.unsourced] using .array (Item.Alike.unsourced_all parts h)
  | .object parts, h => by
    simp only [Expr.isPlain] at h
    simpa only [Expr.unsourced] using .object (Property.Alike.unsourced_all parts h)
  | .member object name, h => by
    simp only [Expr.isPlain] at h
    simpa only [Expr.unsourced] using .member name (Expr.Alike.unsourced object h)
  | .index object index, h => by
    simp only [Expr.isPlain, Bool.and_eq_true] at h
    simpa only [Expr.unsourced] using .index (Expr.Alike.unsourced object h.1) (Expr.Alike.unsourced index h.2)
  | .call callee arguments, h => by
    simp only [Expr.isPlain, Bool.and_eq_true] at h
    simpa only [Expr.unsourced] using
      .call (Expr.Alike.unsourced callee h.1) (Item.Alike.unsourced_all arguments h.2)
  | .not operand, h => by
    simp only [Expr.isPlain] at h
    simpa only [Expr.unsourced] using .not (Expr.Alike.unsourced operand h)
  | .binary op left right, h => by
    simp only [Expr.isPlain, Bool.and_eq_true] at h
    simpa only [Expr.unsourced] using
      .binary op (Expr.Alike.unsourced left h.1) (Expr.Alike.unsourced right h.2)
  | .conditional test consequent alternate, h => by
    simp only [Expr.isPlain, Bool.and_eq_true] at h
    simpa only [Expr.unsourced] using .conditional (Expr.Alike.unsourced test h.1.1)
      (Expr.Alike.unsourced consequent h.1.2) (Expr.Alike.unsourced alternate h.2)
  | .arrow params body, h => by
    simp only [Expr.isPlain] at h
    simpa only [Expr.unsourced] using .arrow params (Body.Alike.unsourced body h)
  | .markup node, h => by simp [Expr.isPlain] at h

lemma Item.Alike.unsourced_all : (parts : List Item) → Item.arePlain V parts = true →
    List.Forall₂ (Item.Alike (V · = true)) parts (Item.unsourcedAll parts)
  | [], _ => by simp only [Item.unsourcedAll, List.Forall₂.nil]
  | .single value :: parts, h => by
    simp only [Item.arePlain, Bool.and_eq_true] at h
    simpa only [Item.unsourcedAll] using
      .cons (.single (Expr.Alike.unsourced value h.1)) (Item.Alike.unsourced_all parts h.2)
  | .spread source :: parts, h => by
    simp only [Item.arePlain, Bool.and_eq_true] at h
    simpa only [Item.unsourcedAll] using
      .cons (.spread (Expr.Alike.unsourced source h.1)) (Item.Alike.unsourced_all parts h.2)

lemma Property.Alike.unsourced_all : (parts : List Property) → Property.arePlain V parts = true →
    List.Forall₂ (Property.Alike (V · = true)) parts (Property.unsourcedAll parts)
  | [], _ => by simp only [Property.unsourcedAll, List.Forall₂.nil]
  | .keyed key value :: parts, h => by
    simp only [Property.arePlain, Bool.and_eq_true] at h
    simpa only [Property.unsourcedAll] using
      .cons (.keyed key (Expr.Alike.unsourced value h.1)) (Property.Alike.unsourced_all parts h.2)
  | .spread source :: parts, h => by
    simp only [Property.arePlain, Bool.and_eq_true] at h
    simpa only [Property.unsourcedAll] using
      .cons (.spread (Expr.Alike.unsourced source h.1)) (Property.Alike.unsourced_all parts h.2)

lemma Body.Alike.unsourced : (body : Body) → body.isPlain V = true → Body.Alike (V · = true) body body.unsourced
  | .expression value, h => by
    simp only [Body.isPlain] at h
    simpa only [Body.unsourced] using .expression (Expr.Alike.unsourced value h)
  | .block ss, h => by
    simp only [Body.isPlain] at h
    simpa only [Body.unsourced] using .block (Stmt.Alike.unsourced_all ss h)

lemma Stmt.Alike.unsourced : (s : Stmt) → s.isPlain V = true → Stmt.Alike (V · = true) s s.unsourced
  | .importModule name path, _ => by simpa only [Stmt.unsourced] using .importModule name path
  | .declare kind name value, h => by
    simp only [Stmt.isPlain] at h
    simpa only [Stmt.unsourced] using .declare kind name (Expr.Alike.unsourced value h)
  | .expression value, h => by
    simp only [Stmt.isPlain] at h
    simpa only [Stmt.unsourced] using .expression (Expr.Alike.unsourced value h)
  | .branch test consequent none, h => by
    simp only [Stmt.isPlain, Bool.and_eq_true] at h
    simpa only [Stmt.unsourced] using
      .branch (Expr.Alike.unsourced test h.1) (.same (Stmt.Alike.unsourced consequent h.2)) .none
  | .branch test consequent (some alternate), h => by
    simp only [Stmt.isPlain, Bool.and_eq_true] at h
    simpa only [Stmt.unsourced] using .branch (Expr.Alike.unsourced test h.1.1)
      (.same (Stmt.Alike.unsourced consequent h.1.2)) (.some (.same (Stmt.Alike.unsourced alternate h.2)))
  | .block ss, h => by
    simp only [Stmt.isPlain] at h
    simpa only [Stmt.unsourced] using .block (Stmt.Alike.unsourced_all ss h)
  | .forOf name source body, h => by
    simp only [Stmt.isPlain, Bool.and_eq_true] at h
    simpa only [Stmt.unsourced] using
      .forOf name (Expr.Alike.unsourced source h.1) (.same (Stmt.Alike.unsourced body h.2))
  | .leave none, _ => by simpa only [Stmt.unsourced] using .leave .none
  | .leave (some value), h => by
    simp only [Stmt.isPlain] at h
    simpa only [Stmt.unsourced] using .leave (.some (Expr.Alike.unsourced value h))

lemma Stmt.Alike.unsourced_all : (ss : List Stmt) → Stmt.arePlain V ss = true →
    List.Forall₂ (Stmt.Alike (V · = true)) ss (Stmt.unsourcedAll ss)
  | [], _ => by simp only [Stmt.unsourcedAll, List.Forall₂.nil]
  | s :: ss, h => by
    simp only [Stmt.arePlain, Bool.and_eq_true] at h
    simpa only [Stmt.unsourcedAll] using .cons (Stmt.Alike.unsourced s h.1) (Stmt.Alike.unsourced_all ss h.2)

end

end Alike

section Plain

variable {V : String → Bool}

mutual

lemma Expr.Alike.plain : (e : Expr) → e.isPlain V = true → Expr.Alike (V · = true) e e
  | .identifier _, h => .identifier (by rwa [Expr.isPlain] at h)
  | .literal _, _ => .literal rfl
  | .array parts, h => .array (Item.Alike.plain_all parts (by rwa [Expr.isPlain] at h))
  | .object parts, h => .object (Property.Alike.plain_all parts (by rwa [Expr.isPlain] at h))
  | .member object name, h => .member name (Expr.Alike.plain object (by rwa [Expr.isPlain] at h))
  | .index object index, h => by
    rw [Expr.isPlain, Bool.and_eq_true] at h
    exact .index (Expr.Alike.plain object h.1) (Expr.Alike.plain index h.2)
  | .call callee arguments, h => by
    rw [Expr.isPlain, Bool.and_eq_true] at h
    exact .call (Expr.Alike.plain callee h.1) (Item.Alike.plain_all arguments h.2)
  | .not operand, h => .not (Expr.Alike.plain operand (by rwa [Expr.isPlain] at h))
  | .binary op left right, h => by
    rw [Expr.isPlain, Bool.and_eq_true] at h
    exact .binary op (Expr.Alike.plain left h.1) (Expr.Alike.plain right h.2)
  | .conditional test consequent alternate, h => by
    rw [Expr.isPlain, Bool.and_eq_true, Bool.and_eq_true] at h
    exact .conditional (Expr.Alike.plain test h.1.1) (Expr.Alike.plain consequent h.1.2) (Expr.Alike.plain alternate h.2)
  | .arrow params body, h => .arrow params (Body.Alike.plain body (by rwa [Expr.isPlain] at h))
  | .markup _, _ => .markup rfl

lemma Item.Alike.plain_all : (parts : List Item) → Item.arePlain V parts = true →
    List.Forall₂ (Item.Alike (V · = true)) parts parts
  | [], _ => .nil
  | .single value :: parts, h => by
    rw [Item.arePlain, Bool.and_eq_true] at h
    exact .cons (.single (Expr.Alike.plain value h.1)) (Item.Alike.plain_all parts h.2)
  | .spread source :: parts, h => by
    rw [Item.arePlain, Bool.and_eq_true] at h
    exact .cons (.spread (Expr.Alike.plain source h.1)) (Item.Alike.plain_all parts h.2)

lemma Property.Alike.plain_all : (parts : List Property) → Property.arePlain V parts = true →
    List.Forall₂ (Property.Alike (V · = true)) parts parts
  | [], _ => .nil
  | .keyed key value :: parts, h => by
    rw [Property.arePlain, Bool.and_eq_true] at h
    exact .cons (.keyed key (Expr.Alike.plain value h.1)) (Property.Alike.plain_all parts h.2)
  | .spread source :: parts, h => by
    rw [Property.arePlain, Bool.and_eq_true] at h
    exact .cons (.spread (Expr.Alike.plain source h.1)) (Property.Alike.plain_all parts h.2)

lemma Body.Alike.plain : (body : Body) → body.isPlain V = true → Body.Alike (V · = true) body body
  | .expression value, h => .expression (Expr.Alike.plain value (by rwa [Body.isPlain] at h))
  | .block ss, h => .block (Stmt.Alike.plain_all ss (by rwa [Body.isPlain] at h))

lemma Stmt.Alike.plain : (s : Stmt) → s.isPlain V = true → Stmt.Alike (V · = true) s s
  | .importModule name path, _ => .importModule name path
  | .declare kind name value, h => .declare kind name (Expr.Alike.plain value (by rwa [Stmt.isPlain] at h))
  | .expression value, h => .expression (Expr.Alike.plain value (by rwa [Stmt.isPlain] at h))
  | .branch test consequent none, h => by
    rw [Stmt.isPlain, Bool.and_eq_true] at h
    exact .branch (Expr.Alike.plain test h.1) (.same (Stmt.Alike.plain consequent h.2)) .none
  | .branch test consequent (some alternate), h => by
    rw [Stmt.isPlain, Bool.and_eq_true, Bool.and_eq_true] at h
    exact .branch (Expr.Alike.plain test h.1.1) (.same (Stmt.Alike.plain consequent h.1.2))
      (.some (.same (Stmt.Alike.plain alternate h.2)))
  | .block ss, h => .block (Stmt.Alike.plain_all ss (by rwa [Stmt.isPlain] at h))
  | .forOf name source body, h => by
    rw [Stmt.isPlain, Bool.and_eq_true] at h
    exact .forOf name (Expr.Alike.plain source h.1) (.same (Stmt.Alike.plain body h.2))
  | .leave none, _ => .leave .none
  | .leave (some value), h => .leave (.some (Expr.Alike.plain value (by rwa [Stmt.isPlain] at h)))

lemma Stmt.Alike.plain_all : (ss : List Stmt) → Stmt.arePlain V ss = true →
    List.Forall₂ (Stmt.Alike (V · = true)) ss ss
  | [], _ => .nil
  | s :: ss, h => by
    rw [Stmt.arePlain, Bool.and_eq_true] at h
    exact .cons (Stmt.Alike.plain s h.1) (Stmt.Alike.plain_all ss h.2)

end

end Plain

end TemplateScript
