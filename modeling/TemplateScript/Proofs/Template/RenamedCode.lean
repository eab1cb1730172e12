import TemplateScript.Proofs.Script.Renaming
import TemplateScript.Proofs.Template.TemplateCode

namespace TemplateScript

section Copies

variable {m : Type → Type} [Monad m] {α β γ δ : Type}

/-- The second computation does what the first one does, and answers with the image of its answer. -/
def Copies (g : α → β) (x : m α) (y : m β) : Prop := y = g <$> x

namespace Copies

variable [LawfulMonad m] {g : α → β} {g' : γ → δ}

lemma pure {a : α} {b : β} (h : b = g a) : Copies g (Pure.pure a : m α) (Pure.pure b) := by
  rw [Copies, map_pure, h]

lemma bind {x : m α} {y : m β} {f : α → m γ} {f' : β → m δ} (hx : Copies g x y) (hf : ∀ a, Copies g' (f a) (f' (g a))) :
    Copies g' (x >>= f) (y >>= f') := by
  have hf' : (fun a => f' (g a)) = fun a => g' <$> f a := funext hf
  rw [Copies, hx, bind_map_left, map_bind, hf']

lemma name (kind : Char) {f : String → Fresh γ} {f' : String → Fresh δ}
    (h : ∀ n, Copies g' (f (temporary kind n)) (f' (temporary kind n))) :
    Copies g' (Fresh.name kind.toString >>= f) (Fresh.name kind.toString >>= f') :=
  funext fun k => congrFun (h (k + 1)) (k + 1)

lemma lift {x : Fresh α} {y : Fresh β} (h : Copies g x y) : Copies g (liftM x : Compile α) (liftM y : Compile β) := by
  rw [Copies, h, liftM_map]

lemma throw (e : CompileError) : Copies g (throw e : Compile α) (MonadExcept.throw e) := rfl

end Copies

end Copies

structure Config.Fixes (c : Config) (f : String → String) : Prop where
  support : f c.support = c.support
  temporary : ∀ {name}, isTemporary name → f name = name

section Pieces

variable {f : String → String} {c : Config}

def AttributeCode.rename (f : String → String) : AttributeCode → AttributeCode
  | .static name value => .static name value
  | .computed name value => .computed name (value.rename f)
  | .spread source => .spread (source.rename f)

def Compiled.rename (f : String → String) (code : Compiled) : Compiled := ⟨code.expr.rename f, code.shape⟩

def TagCode.rename (f : String → String) : TagCode → TagCode
  | .static name => .static name
  | .computed name => .computed (name.rename f)

lemma Stmt.renameAll_eq_map (ss : List Stmt) : Stmt.renameAll f ss = ss.map (Stmt.rename f) := by
  induction ss with
  | nil => simp [Stmt.renameAll]
  | cons s ss ih => simp only [List.map_cons, Stmt.renameAll, ih]

lemma Item.renameAll_map_single (es : List Expr) :
    Item.renameAll f (es.map .single) = (es.map (Expr.rename f)).map .single := by
  induction es with
  | nil => simp [Item.renameAll]
  | cons e es ih => simp only [List.map_cons, Item.renameAll, ih]

@[simp]
lemma Expr.rename_string (s : String) : (Expr.string s).rename f = .string s := by simp [Expr.string, Expr.rename]

@[simp]
lemma Expr.rename_bool (b : Bool) : (Expr.bool b).rename f = .bool b := by simp [Expr.bool, Expr.rename]

@[simp]
lemma Expr.rename_null : Expr.null.rename f = .null := by simp [Expr.null, Expr.rename]

@[simp]
lemma Expr.rename_undefined : Expr.undefined.rename f = .undefined := by simp [Expr.undefined, Expr.rename]

@[simp]
lemma Expr.rename_callWith (callee : Expr) (arguments : List Expr) :
    (Expr.callWith callee arguments).rename f = .callWith (callee.rename f) (arguments.map (Expr.rename f)) := by
  rw [Expr.callWith, Expr.rename, Item.renameAll_map_single, Expr.callWith]

@[simp]
lemma Expr.rename_concat (es : List Expr) : (Expr.concat es).rename f = .concat (es.map (Expr.rename f)) := by
  cases es with
  | nil => simp [Expr.concat]
  | cons e es =>
    simp only [Expr.concat, List.map_cons]
    induction es generalizing e with
    | nil => rfl
    | cons e' es ih =>
      rw [List.foldl_cons, ih, List.map_cons, List.foldl_cons, Expr.rename]

@[simp]
lemma Expr.rename_fields (entries : List (String × Expr)) :
    (Expr.fields entries).rename f = .fields (entries.map fun e => (e.1, e.2.rename f)) := by
  rw [Expr.fields, Expr.rename, Expr.fields]
  congr 1
  induction entries with
  | nil => simp [Property.renameAll]
  | cons e es ih => simp only [List.map_cons, Property.renameAll, ih]

namespace Config.Fixes

variable (hf : c.Fixes f)

include hf

lemma rename_temporary {kind : Char} (h : kind.isAlpha) (n : Nat) :
    f (TemplateScript.temporary kind n) = TemplateScript.temporary kind n :=
  hf.temporary (isTemporary_temporary h n)

lemma rename_member (name : String) : (c.member name).rename f = c.member name := by
  simp [Config.member, Expr.rename, hf.support]

lemma rename_callWith (name : String) (arguments : List Expr) :
    (c.callWith name arguments).rename f = c.callWith name (arguments.map (Expr.rename f)) := by
  rw [Config.callWith, Expr.rename_callWith, hf.rename_member, Config.callWith]

lemma rename_builder (r : Representation) : (c.builder r).rename f = c.builder r := by
  rw [Config.builder, Config.call, Expr.rename, hf.rename_member, Item.renameAll]

lemma rename_normalizeChildren (r : Representation) (content : List Compiled) :
    (c.normalizeChildren r content).rename f = c.normalizeChildren r (content.map (Compiled.rename f)) := by
  rw [Config.normalizeChildren, hf.rename_callWith, List.map_cons, hf.rename_builder, Config.normalizeChildren]
  simp [Compiled.rename, Function.comp_def]

lemma rename_spreadChildren (r : Representation) (content : List Compiled) :
    Item.renameAll f (c.spreadChildren r content) = c.spreadChildren r (content.map (Compiled.rename f)) := by
  unfold Config.spreadChildren
  rw [List.isEmpty_map]
  split
  · simp [Item.renameAll]
  · simp [Item.renameAll, hf.rename_normalizeChildren]

end Config.Fixes

lemma AttributeValue.rename_literal (value : AttributeValue) : value.literal.rename f = value.literal := by
  cases value <;> simp [AttributeValue.literal, Expr.rename]

lemma AttributeCode.rename_toObject (codes : List AttributeCode) :
    (AttributeCode.toObject codes).rename f = AttributeCode.toObject (codes.map (AttributeCode.rename f)) := by
  rw [AttributeCode.toObject, Expr.rename, AttributeCode.toObject]
  congr 1
  induction codes with
  | nil => simp [Property.renameAll]
  | cons code codes ih =>
    cases code <;> simp [AttributeCode.property, AttributeCode.rename, Property.renameAll, AttributeValue.rename_literal, ih]

lemma Config.Fixes.rename_elementCall (hf : c.Fixes f) (r : Representation) (tag : Expr) (codes : List AttributeCode)
    (content : List Compiled) : (c.elementCall r tag codes content).rename f =
      c.elementCall r (tag.rename f) (codes.map (AttributeCode.rename f)) (content.map (Compiled.rename f)) := by
  simp [Config.elementCall, Expr.rename, Item.renameAll, hf.rename_builder, hf.rename_spreadChildren,
    AttributeCode.rename_toObject]

lemma Config.Fixes.rename_componentCall (hf : c.Fixes f) (callee : Expr) (codes : List AttributeCode)
    (content : List Compiled) : (c.componentCall callee codes content).rename f =
      c.componentCall (callee.rename f) (codes.map (AttributeCode.rename f)) (content.map (Compiled.rename f)) := by
  simp [Config.componentCall, Expr.rename, Item.renameAll, hf.rename_spreadChildren, AttributeCode.rename_toObject]

lemma rename_bindNames (bindings : List (String × Expr)) (body : Body) :
    (bindNames bindings body).rename f = bindNames (bindings.map fun b => (f b.1, b.2.rename f)) (body.rename f) := by
  simp [bindNames, Expr.rename, Function.comp_def]

end Pieces

section Literals

variable {f : String → String}

lemma Attributes.rename_literal (attributes : Attributes) : attributes.literal.rename f = attributes.literal := by
  simp only [Attributes.literal, Expr.rename_fields, List.map_map]
  congr 1
  refine List.map_congr_left ?_
  rintro ⟨name, a⟩ -
  cases a <;> simp [Attribute.literal]

mutual

lemma Node.rename_literal : (node : Node) → node.literal.rename f = node.literal
  | .text value => by simp [Node.literal]
  | .prerendered html => by simp [Node.literal]
  | .element tag attributes children => by
    simp [Node.literal, Expr.rename, attributes.rename_literal, Node.rename_literals children]

lemma Node.rename_literals : (nodes : List Node) → Item.renameAll f (Node.literals nodes) = Node.literals nodes
  | [] => by simp [Node.literals, Item.renameAll]
  | node :: nodes => by simp [Node.literals, Item.renameAll, node.rename_literal, Node.rename_literals nodes]

end

lemma Constant.rename_literal (constant : Constant) : constant.literal.rename f = constant.literal := by
  cases constant with
  | structured node => exact node.rename_literal
  | raw node => simp [Constant.literal, RawNode.literal]

end Literals

section Static

variable {f : String → String} (codes : List AttributeCode) (content : List Compiled)

lemma AttributeCode.needMerge_rename : needMerge (codes.map (AttributeCode.rename f)) = needMerge codes := by
  have hname : AttributeCode.name? ∘ AttributeCode.rename f = AttributeCode.name? :=
    funext fun code => by cases code <;> rfl
  have hany : ((fun a => (AttributeCode.name? a).isNone) ∘ AttributeCode.rename f) = fun a => (AttributeCode.name? a).isNone :=
    funext fun code => by cases code <;> rfl
  rw [needMerge, List.any_map, List.filterMap_map, hname, hany, needMerge]

lemma AttributeCode.staticValues?_rename :
    AttributeCode.staticValues? (codes.map (AttributeCode.rename f)) = AttributeCode.staticValues? codes := by
  have hentries : AttributeCode.staticEntries? (codes.map (AttributeCode.rename f)) = AttributeCode.staticEntries? codes := by
    induction codes with
    | nil => rfl
    | cons code codes ih => cases code <;> simp [AttributeCode.rename, AttributeCode.staticEntries?, ih]
  rw [AttributeCode.staticValues?, hentries, AttributeCode.staticValues?]

lemma Compiled.all_isStatic_rename :
    (content.map (Compiled.rename f)).all Compiled.isStatic = content.all Compiled.isStatic := by
  rw [List.all_map]
  rfl

lemma Compile.constant?_rename (c : Config) (tag : TagCode) :
    constant? c (tag.rename f) (codes.map (AttributeCode.rename f)) (content.map (Compiled.rename f)) =
      constant? c tag codes content := by
  cases tag with
  | computed name => rfl
  | static name =>
    have helement (values : AttributeValues) :
        Constant.element c.target name values (content.map (Compiled.rename f)) =
          Constant.element c.target name values content := by
      simp only [Constant.element, List.map_map]
      rfl
    simp only [TagCode.rename, constant?, AttributeCode.staticValues?_rename, Compiled.all_isStatic_rename, helement]

end Static

section Shared

variable {f : String → String} {c : Config}

lemma joinValues_rename (hf : c.Fixes f) (nodes : Expr) :
    Copies (Expr.rename f) (joinValues nodes) (joinValues (nodes.rename f)) := by
  refine .name 'n' fun n => .pure ?_
  simp [Expr.rename, Body.rename, hf.rename_temporary]

lemma computedAttribute_rename (hf : c.Fixes f) (name : String) (value : Expr) :
    Copies (Expr.rename f) (computedAttribute c name value) (computedAttribute c name (value.rename f)) := by
  refine .name 'a' fun n => .pure ?_
  simp [rename_bindNames, Expr.rename, Body.rename, hf.rename_callWith, hf.rename_temporary]

end Shared

namespace RawElement

variable {f : String → String} {c : Config} (codes : List AttributeCode) (content : List Compiled)

def Segment.rename (f : String → String) : Segment → Segment
  | .constant text => .constant text
  | .computed text => .computed (text.rename f)

lemma rename_node (segments : List Segment) : (node segments).rename f = node (segments.map (Segment.rename f)) := by
  have hconstant (text : String) : (constantPart text).map (Expr.rename f) = constantPart text := by
    unfold constantPart
    split <;> simp
  have hoperands (pending : String) :
      (operands pending segments).map (Expr.rename f) = operands pending (segments.map (Segment.rename f)) := by
    induction segments generalizing pending with
    | nil => exact hconstant pending
    | cons s segments ih => cases s <;> simp [operands, Segment.rename, hconstant, ih]
  simp [node, hoperands]

lemma attributes_rename (hf : c.Fixes f) : Copies (List.map (Segment.rename f)) (attributes c codes)
    (attributes c (codes.map (AttributeCode.rename f))) := by
  have hseparate : Copies (List.map (Segment.rename f)) (separateAttributes c codes)
      (separateAttributes c (codes.map (AttributeCode.rename f))) := by
    induction codes with
    | nil => exact .pure rfl
    | cons code codes ih =>
      cases code with
      | static name value => exact ih.bind fun rest => .pure rfl
      | computed name value => exact (computedAttribute_rename hf name value).bind fun text => ih.bind fun rest => .pure rfl
      | spread source => exact ih
  unfold attributes
  rw [AttributeCode.needMerge_rename]
  split
  · refine .pure ?_
    simp [Segment.rename, hf.rename_callWith, AttributeCode.rename_toObject]
  · exact hseparate

lemma children_rename (hf : c.Fixes f) : Copies (List.map (Segment.rename f)) (children c content)
    (children c (content.map (Compiled.rename f))) := by
  induction content with
  | nil => exact .pure rfl
  | cons child content ih =>
    have hraw : (child.rename f).raw? = child.raw? := rfl
    rw [List.map_cons, children, children, hraw]
    cases child.raw? with
    | some node => exact ih.bind fun rest => .pure rfl
    | none =>
      have htext := joinValues_rename hf (c.normalizeChildren .raw [child])
      rw [hf.rename_normalizeChildren] at htext
      exact htext.bind fun text => ih.bind fun rest => .pure rfl

lemma static_rename (hf : c.Fixes f) (tag : String) : Copies (Expr.rename f) (static c tag codes content)
    (static c tag (codes.map (AttributeCode.rename f)) (content.map (Compiled.rename f))) := by
  refine (attributes_rename codes hf).bind fun shown => (children_rename content hf).bind fun inner => .pure ?_
  simp [rename_node, Segment.rename]

lemma computed_rename (hf : c.Fixes f) (tag : Expr) : Copies (Expr.rename f) (computed c tag codes content)
    (computed c (tag.rename f) (codes.map (AttributeCode.rename f)) (content.map (Compiled.rename f))) := by
  refine .name 't' fun n => (attributes_rename codes hf).bind fun shown => .name 'c' fun m => ?_
  have hjoined := joinValues_rename hf (.identifier (temporary 'c' m))
  rw [Expr.rename, hf.rename_temporary (by decide)] at hjoined
  refine hjoined.bind fun joined => .pure ?_
  simp [rename_bindNames, Body.rename, rename_node, Segment.rename, Expr.rename, hf.rename_callWith,
    hf.rename_normalizeChildren, hf.rename_temporary]

end RawElement

namespace StructuredElement

lemma rename_static {f : String → String} {c : Config} (hf : c.Fixes f) (tag : String) (codes : List AttributeCode)
    (content : List Compiled) : (static c tag codes content).rename f =
      static c tag (codes.map (AttributeCode.rename f)) (content.map (Compiled.rename f)) := by
  have hattributes : (attributes c codes).rename f = attributes c (codes.map (AttributeCode.rename f)) := by
    unfold attributes
    rw [AttributeCode.staticValues?_rename]
    split
    · exact Attributes.rename_literal _
    · simp [hf.rename_callWith, AttributeCode.rename_toObject]
  have hchildren : (children c content).rename f = children c (content.map (Compiled.rename f)) := by
    unfold children
    rw [Compiled.all_isStatic_rename]
    split
    · rw [Expr.rename, Node.rename_literals, List.filterMap_map]
      rfl
    · simp [hf.rename_callWith, Compiled.rename, Function.comp_def]
  simp [static, hattributes, hchildren]

end StructuredElement

namespace StreamElement

variable {f : String → String} {c : Config} (codes : List AttributeCode) (content : List Compiled)

lemma plainChunks_rename (hf : c.Fixes f) (base : Expr) : Copies (List.map (Expr.rename f)) (plainChunks c base codes)
    (plainChunks c (base.rename f) (codes.map (AttributeCode.rename f))) := by
  have hconstant (text : String) : constantChunk text = (constantChunk text).map (Expr.rename f) := by
    unfold constantChunk
    split <;> simp
  have hseparate (pending : String) : Copies (List.map (Expr.rename f)) (separateChunks c base pending codes)
      (separateChunks c (base.rename f) pending (codes.map (AttributeCode.rename f))) := by
    induction codes generalizing pending with
    | nil => exact .pure (hconstant pending)
    | cons code codes ih =>
      cases code with
      | static name value => exact ih _
      | computed name value =>
        have htext := computedAttribute_rename hf name (.index base (.string name))
        rw [Expr.rename, Expr.rename_string] at htext
        refine htext.bind fun text => (ih "").bind fun rest => .pure ?_
        rw [List.map_append, List.map_cons, ← hconstant]
      | spread source => exact ih pending
  unfold plainChunks
  rw [AttributeCode.staticValues?_rename, AttributeCode.needMerge_rename]
  split
  · exact .pure (hconstant _)
  · split
    · refine .pure ?_
      simp [hf.rename_callWith]
    · exact hseparate ""

lemma rename_write (sink : String) (chunk : Expr) : (write sink chunk).rename f = write (f sink) (chunk.rename f) := by
  simp [write, Stmt.rename, Expr.rename]

lemma rename_renderEach (sink item : String) (nodes : Expr) :
    (renderEach sink item nodes).rename f = renderEach (f sink) (f item) (nodes.rename f) := by
  simp [renderEach, Stmt.rename, Expr.rename]

lemma rename_writeAttributes (hf : c.Fixes f) (sink extension : String) (base : Expr) (plain : List Expr) :
    (writeAttributes c sink extension base plain).rename f =
      writeAttributes c (f sink) (f extension) (base.rename f) (plain.map (Expr.rename f)) := by
  simp [writeAttributes, Stmt.rename, Stmt.renameAll_eq_map, Expr.rename, Property.renameAll, hf.rename_callWith, rename_write]

lemma rename_renderAdded (sink extension item : String) :
    (renderAdded sink extension item).rename f = renderAdded (f sink) (f extension) (f item) := by
  simp [renderAdded, Stmt.rename, rename_renderEach, Expr.rename]

lemma rename_leaf (hf : c.Fixes f) (sink extension : String) (body : List Stmt) (tag : Expr) :
    (leaf c sink extension body tag).rename f =
      leaf c (f sink) (f extension) (body.map (Stmt.rename f)) (tag.rename f) := by
  simp [leaf, Expr.rename, Body.rename, Stmt.renameAll_eq_map, hf.rename_builder]

lemma ownChildren_rename (hf : c.Fixes f) {sink : String} (hsink : f sink = sink) :
    Copies (fun own => (own.1.map f, own.2.map (Stmt.rename f))) (ownChildren sink content)
      (ownChildren sink (content.map (Compiled.rename f))) := by
  unfold ownChildren
  rw [List.isEmpty_map]
  split
  · exact .pure rfl
  · refine .name 'c' fun n => .name 'n' fun m => .pure ?_
    simp [rename_renderEach, Expr.rename, hsink, hf.rename_temporary]

lemma childBinding_rename (hf : c.Fixes f) (nodes : Option String) :
    childBinding c (content.map (Compiled.rename f)) (nodes.map f) =
      (childBinding c content nodes).map fun b => (f b.1, b.2.rename f) := by
  cases nodes with
  | none => rfl
  | some nodes => simp [childBinding, hf.rename_normalizeChildren]

lemma static_rename (hf : c.Fixes f) (tag : String) : Copies (Expr.rename f) (static c tag codes content)
    (static c tag (codes.map (AttributeCode.rename f)) (content.map (Compiled.rename f))) := by
  refine .name 's' fun s => .name 'e' fun e => .name 'a' fun a => ?_
  have hplain := plainChunks_rename codes hf (.identifier (temporary 'a' a))
  rw [Expr.rename, hf.rename_temporary (by decide)] at hplain
  have hown := ownChildren_rename content hf (hf.rename_temporary (by decide : 's'.isAlpha) s)
  refine hplain.bind fun plain => hown.bind fun ⟨nodes, own⟩ => .name 'n' fun n => .pure ?_
  have hclose : (if isVoidTag tag then [] else [write (temporary 's' s) (.string ("</" ++ tag ++ ">"))]).map (Stmt.rename f) =
      if isVoidTag tag then [] else [write (temporary 's' s) (.string ("</" ++ tag ++ ">"))] := by
    split <;> simp [rename_write, hf.rename_temporary]
  simp [rename_bindNames, Body.rename, rename_leaf hf, rename_write, rename_writeAttributes hf, rename_renderAdded,
    childBinding_rename content hf, AttributeCode.rename_toObject, Expr.rename, hf.rename_temporary, hclose]

lemma computed_rename (hf : c.Fixes f) (tag : Expr) : Copies (Expr.rename f) (computed c tag codes content)
    (computed c (tag.rename f) (codes.map (AttributeCode.rename f)) (content.map (Compiled.rename f))) := by
  refine .name 's' fun s => .name 'e' fun e => .name 't' fun t => .name 'a' fun a => ?_
  have hplain := plainChunks_rename codes hf (.identifier (temporary 'a' a))
  rw [Expr.rename, hf.rename_temporary (by decide)] at hplain
  have hown := ownChildren_rename content hf (hf.rename_temporary (by decide : 's'.isAlpha) s)
  refine hplain.bind fun plain => hown.bind fun ⟨nodes, own⟩ => .name 'n' fun n => .name 'v' fun v => .pure ?_
  have hnodes : ((nodes.map Expr.identifier).getD (.array [])).rename f =
      ((nodes.map f).map Expr.identifier).getD (.array []) := by
    cases nodes <;> simp [Expr.rename, Item.renameAll]
  simp [rename_bindNames, Body.rename, Stmt.renameAll, Stmt.rename, rename_leaf hf, rename_write, rename_writeAttributes hf,
    rename_renderAdded, childBinding_rename content hf, AttributeCode.rename_toObject, hf.rename_callWith, Expr.rename,
    hf.rename_temporary, hnodes]

end StreamElement

namespace Compile

variable {f : String → String} {c : Config}

lemma specialized_rename (hf : c.Fixes f) (tag : TagCode) (codes : List AttributeCode) (content : List Compiled) :
    Copies (Expr.rename f) (specialized c tag codes content)
      (specialized c (tag.rename f) (codes.map (AttributeCode.rename f)) (content.map (Compiled.rename f))) := by
  cases htarget : c.target <;> cases tag <;> simp only [specialized, htarget, TagCode.rename]
  case structured.static name => exact .pure (StructuredElement.rename_static hf name codes content).symm
  case structured.computed name => exact .pure (hf.rename_elementCall .structured name codes content).symm
  case stream.static name => exact StreamElement.static_rename codes content hf name
  case stream.computed name => exact StreamElement.computed_rename codes content hf name
  case raw.static name => exact RawElement.static_rename codes content hf name
  case raw.computed name => exact RawElement.computed_rename codes content hf name

lemma element_rename (hf : c.Fixes f) (tag : TagCode) (codes : List AttributeCode) (content : List Compiled) :
    Copies (Compiled.rename f) (element c tag codes content)
      (element c (tag.rename f) (codes.map (AttributeCode.rename f)) (content.map (Compiled.rename f))) := by
  cases hmode : c.mode with
  | direct =>
    cases tag <;> simp only [element, hmode, TagCode.rename] <;> refine .pure ?_ <;>
      simp [Compiled.rename, Compiled.dynamic, hf.rename_elementCall]
  | optimizing =>
    simp only [element, hmode, constant?_rename]
    cases constant? c tag codes content with
    | error e => exact .throw e
    | ok constant =>
      cases constant with
      | some node => exact .pure (by simp [Compiled.rename, node.rename_literal])
      | none => exact (specialized_rename hf tag codes content).lift.bind fun code => .pure rfl

lemma attributeCode_rename (name : String) (value : Expr) :
    (match (value.rename f).constant? with
      | some value => AttributeCode.static name value
      | none => .computed name (value.rename f)) =
    AttributeCode.rename f (match value.constant? with
      | some value => .static name value
      | none => .computed name value) := by
  cases value with
  | literal value => cases value <;> rfl
  | _ => rfl

lemma container_rename {e : Expr} (he : ∀ node, e ≠ .markup node)
    (h : Copies (Expr.rename f) (expression c e) (expression c (e.rename f))) :
    Copies (Compiled.rename f) (markup c (.container (some e))) (markup c (.container (some (e.rename f)))) := by
  have he' : ∀ node, e.rename f ≠ .markup node := by
    intro node
    cases e with
    | markup node => exact absurd rfl (he node)
    | _ => simp [Expr.rename]
  rw [markup_container he, markup_container he']
  refine h.bind fun code => .pure ?_
  have hstring : (code.rename f).stringValue? = code.stringValue? := by
    cases code with
    | literal value => cases value <;> rfl
    | _ => rfl
  rw [hstring]
  cases code.stringValue? with
  | none => rfl
  | some s => simp [Compiled.rename, Compiled.text]

mutual

lemma expression_rename (hf : c.Fixes f) : (e : Expr) →
    Copies (Expr.rename f) (expression c e) (expression c (e.rename f))
  | .identifier _ => by
    simp only [expression, Expr.rename]
    exact .pure (by rw [Expr.rename])
  | .literal value => by
    cases value <;> simp only [expression, Expr.rename] <;> exact .pure (by simp [Expr.rename])
  | .array parts => by
    simp only [expression, Expr.rename]
    exact (items_rename hf parts).bind fun _ => .pure (by rw [Expr.rename])
  | .object parts => by
    simp only [expression, Expr.rename]
    exact (properties_rename hf parts).bind fun _ => .pure (by rw [Expr.rename])
  | .member object _ => by
    simp only [expression, Expr.rename]
    exact (expression_rename hf object).bind fun _ => .pure (by rw [Expr.rename])
  | .index object index => by
    simp only [expression, Expr.rename]
    exact (expression_rename hf object).bind fun _ => (expression_rename hf index).bind fun _ => .pure (by rw [Expr.rename])
  | .call callee arguments => by
    simp only [expression, Expr.rename]
    exact (expression_rename hf callee).bind fun _ => (items_rename hf arguments).bind fun _ => .pure (by rw [Expr.rename])
  | .not operand => by
    simp only [expression, Expr.rename]
    exact (expression_rename hf operand).bind fun _ => .pure (by rw [Expr.rename])
  | .binary _ left right => by
    simp only [expression, Expr.rename]
    exact (expression_rename hf left).bind fun _ => (expression_rename hf right).bind fun _ => .pure (by rw [Expr.rename])
  | .conditional test consequent alternate => by
    simp only [expression, Expr.rename]
    exact (expression_rename hf test).bind fun _ => (expression_rename hf consequent).bind fun _ =>
      (expression_rename hf alternate).bind fun _ => .pure (by rw [Expr.rename])
  | .arrow _ body => by
    simp only [expression, Expr.rename]
    exact (function_rename hf body).bind fun _ => .pure (by rw [Expr.rename])
  | .markup node => by
    simp only [expression, Expr.rename]
    exact (markup_rename hf node).bind fun _ => .pure rfl

lemma items_rename (hf : c.Fixes f) : (parts : List Item) →
    Copies (Item.renameAll f) (items c parts) (items c (Item.renameAll f parts))
  | [] => by
    simp only [items, Item.renameAll]
    exact .pure (by rw [Item.renameAll])
  | .single value :: parts => by
    simp only [items, Item.renameAll]
    exact (expression_rename hf value).bind fun _ => (items_rename hf parts).bind fun _ => .pure (by rw [Item.renameAll])
  | .spread source :: parts => by
    simp only [items, Item.renameAll]
    exact (expression_rename hf source).bind fun _ => (items_rename hf parts).bind fun _ => .pure (by rw [Item.renameAll])

lemma properties_rename (hf : c.Fixes f) : (parts : List Property) →
    Copies (Property.renameAll f) (properties c parts) (properties c (Property.renameAll f parts))
  | [] => by
    simp only [properties, Property.renameAll]
    exact .pure (by rw [Property.renameAll])
  | .keyed _ value :: parts => by
    simp only [properties, Property.renameAll]
    exact (expression_rename hf value).bind fun _ => (properties_rename hf parts).bind fun _ =>
      .pure (by rw [Property.renameAll])
  | .spread source :: parts => by
    simp only [properties, Property.renameAll]
    exact (expression_rename hf source).bind fun _ => (properties_rename hf parts).bind fun _ =>
      .pure (by rw [Property.renameAll])

lemma function_rename (hf : c.Fixes f) : (body : Body) →
    Copies (Body.rename f) (function c body) (function c (body.rename f))
  | .expression value => by
    simp only [function, Body.rename]
    exact (expression_rename hf value).bind fun _ => .pure (by rw [Body.rename])
  | .block ss => by
    simp only [function, Body.rename]
    exact (statements_rename hf ss).bind fun _ => .pure (by rw [Body.rename])

lemma statement_rename (hf : c.Fixes f) : (s : Stmt) →
    Copies (Stmt.rename f) (statement c s) (statement c (s.rename f))
  | .importModule _ _ => by
    simp only [statement, Stmt.rename]
    exact .pure (by rw [Stmt.rename])
  | .declare _ _ value => by
    simp only [statement, Stmt.rename]
    exact (expression_rename hf value).bind fun _ => .pure (by rw [Stmt.rename])
  | .expression value => by
    simp only [statement, Stmt.rename]
    exact (expression_rename hf value).bind fun _ => .pure (by rw [Stmt.rename])
  | .branch test consequent none => by
    simp only [statement, otherwise, Stmt.rename, pure_bind]
    exact (expression_rename hf test).bind fun _ => (statement_rename hf consequent).bind fun _ => .pure (by rw [Stmt.rename])
  | .branch test consequent (some alternate) => by
    simp only [statement, otherwise, Stmt.rename, bind_assoc, pure_bind]
    exact (expression_rename hf test).bind fun _ => (statement_rename hf consequent).bind fun _ =>
      (statement_rename hf alternate).bind fun _ => .pure (by rw [Stmt.rename])
  | .block ss => by
    simp only [statement, Stmt.rename]
    exact (statements_rename hf ss).bind fun _ => .pure (by rw [Stmt.rename])
  | .forOf _ source body => by
    simp only [statement, Stmt.rename]
    exact (expression_rename hf source).bind fun _ => (statement_rename hf body).bind fun _ => .pure (by rw [Stmt.rename])
  | .leave none => by
    simp only [statement, Stmt.rename]
    exact .pure (by rw [Stmt.rename])
  | .leave (some value) => by
    simp only [statement, Stmt.rename]
    exact (expression_rename hf value).bind fun _ => .pure (by rw [Stmt.rename])

lemma statements_rename (hf : c.Fixes f) : (ss : List Stmt) →
    Copies (Stmt.renameAll f) (statements c ss) (statements c (Stmt.renameAll f ss))
  | [] => by
    simp only [statements, Stmt.renameAll]
    exact .pure (by rw [Stmt.renameAll])
  | s :: ss => by
    simp only [statements, Stmt.renameAll]
    exact (statement_rename hf s).bind fun _ => (statements_rename hf ss).bind fun _ => .pure (by rw [Stmt.renameAll])

lemma markup_rename (hf : c.Fixes f) : (node : Markup) →
    Copies (Compiled.rename f) (markup c node) (markup c (node.rename f))
  | .text value => by
    simp only [markup, Markup.rename]
    exact .pure (by simp [Compiled.rename, Compiled.text])
  | .container none => by
    simp only [markup, Markup.rename]
    exact .pure (by simp [Compiled.rename, Compiled.dynamic])
  | .container (some (.markup node)) => by
    simp only [markup, Markup.rename, Expr.rename]
    exact markup_rename hf node
  | .container (some (.identifier name)) => by
    rw [Markup.rename]
    exact container_rename (by simp) (expression_rename hf (.identifier name))
  | .container (some (.literal value)) => by
    rw [Markup.rename]
    exact container_rename (by simp) (expression_rename hf (.literal value))
  | .container (some (.array parts)) => by
    rw [Markup.rename]
    exact container_rename (by simp) (expression_rename hf (.array parts))
  | .container (some (.object parts)) => by
    rw [Markup.rename]
    exact container_rename (by simp) (expression_rename hf (.object parts))
  | .container (some (.member object name)) => by
    rw [Markup.rename]
    exact container_rename (by simp) (expression_rename hf (.member object name))
  | .container (some (.index object index)) => by
    rw [Markup.rename]
    exact container_rename (by simp) (expression_rename hf (.index object index))
  | .container (some (.call callee parts)) => by
    rw [Markup.rename]
    exact container_rename (by simp) (expression_rename hf (.call callee parts))
  | .container (some (.not operand)) => by
    rw [Markup.rename]
    exact container_rename (by simp) (expression_rename hf (.not operand))
  | .container (some (.binary op left right)) => by
    rw [Markup.rename]
    exact container_rename (by simp) (expression_rename hf (.binary op left right))
  | .container (some (.conditional test consequent alternate)) => by
    rw [Markup.rename]
    exact container_rename (by simp) (expression_rename hf (.conditional test consequent alternate))
  | .container (some (.arrow params body)) => by
    rw [Markup.rename]
    exact container_rename (by simp) (expression_rename hf (.arrow params body))
  | .fragment parts => by
    simp only [markup, Markup.rename]
    refine (children_rename hf parts).bind fun content => .pure ?_
    simp [Compiled.rename, Compiled.dynamic, hf.rename_componentCall, hf.rename_member]
  | .element (.static name) attributes parts _ => by
    simp only [markup, Markup.rename, Tag.rename]
    split
    · rfl
    · refine (attributeCodes_rename hf attributes).bind fun codes => (children_rename hf parts).bind fun content => ?_
      have hcheck : Copies id (checkContent name content) (checkContent name (content.map (Compiled.rename f))) := by
        rw [Copies, id_map, checkContent, checkContent, List.isEmpty_map]
      exact hcheck.bind fun _ => element_rename hf (.static name) codes content
  | .element (.computed name) attributes parts _ => by
    simp only [markup, Markup.rename, Tag.rename]
    exact (expression_rename hf name).bind fun name => (attributeCodes_rename hf attributes).bind fun codes =>
      (children_rename hf parts).bind fun content => element_rename hf (.computed name) codes content
  | .element (.component callee) attributes parts _ => by
    simp only [markup, Markup.rename, Tag.rename]
    refine (expression_rename hf callee).bind fun callee => (attributeCodes_rename hf attributes).bind fun codes =>
      (children_rename hf parts).bind fun content => .pure ?_
    simp [Compiled.rename, Compiled.dynamic, hf.rename_componentCall]

lemma children_rename (hf : c.Fixes f) : (parts : List Markup) →
    Copies (List.map (Compiled.rename f)) (children c parts) (children c (Markup.renameAll f parts))
  | [] => by
    simp only [children, Markup.renameAll]
    exact .pure rfl
  | node :: nodes => by
    by_cases hnode : node = .container none
    · subst hnode
      simp only [children, Markup.renameAll, Markup.rename]
      exact children_rename hf nodes
    · have hnode' : node.rename f ≠ .container none := by
        rcases node with _ | _ | value | _
        case container => cases value <;> simp_all [Markup.rename]
        all_goals simp [Markup.rename]
      rw [Markup.renameAll, children_cons hnode, children_cons hnode']
      refine (markup_rename hf node).bind fun child => (children_rename hf nodes).bind fun content => .pure ?_
      have hempty : (child.rename f).isEmptyText = child.isEmptyText := rfl
      rw [hempty]
      split <;> rfl

lemma attributeCodes_rename (hf : c.Fixes f) : (attributes : List MarkupAttribute) →
    Copies (List.map (AttributeCode.rename f)) (attributeCodes c attributes)
      (attributeCodes c (MarkupAttribute.renameAll f attributes))
  | [] => by
    simp only [attributeCodes, MarkupAttribute.renameAll]
    exact .pure rfl
  | .named name none :: attributes => by
    simp only [attributeCodes, MarkupAttribute.renameAll]
    exact (attributeCodes_rename hf attributes).bind fun _ => .pure rfl
  | .named name (some value) :: attributes => by
    simp only [attributeCodes, MarkupAttribute.renameAll]
    refine (expression_rename hf value).bind fun value => (attributeCodes_rename hf attributes).bind fun codes => .pure ?_
    exact congrArg (· :: codes.map (AttributeCode.rename f)) (attributeCode_rename name value)
  | .spread source :: attributes => by
    simp only [attributeCodes, MarkupAttribute.renameAll]
    exact (expression_rename hf source).bind fun _ => (attributeCodes_rename hf attributes).bind fun _ => .pure rfl

end

end Compile

lemma Program.compile_rename {f : String → String} {c : Config} (hf : c.Fixes f) (p : Program) :
    (p.rename f).compile c = (p.compile c).map (Program.rename f) := by
  have hbody : Compile.statements c (p.rename f) = Stmt.renameAll f <$> Compile.statements c p :=
    Compile.statements_rename hf p
  have hrun : ((Compile.statements c (p.rename f)).run 0).1 =
      ((Compile.statements c p).run 0).1.map (Stmt.renameAll f) := by
    rw [hbody, ExceptT.run_map]
    rfl
  simp only [Program.compile, hrun]
  cases ((Compile.statements c p).run 0).1 with
  | error e => rfl
  | ok body =>
    cases c.importPath with
    | none => rfl
    | some path => simp [Except.map, bind, Except.bind, pure, Except.pure, Stmt.renameAll, Stmt.rename, hf.support]

end TemplateScript
