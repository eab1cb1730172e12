import TemplateScript.Proofs.Script.FreeNames
import TemplateScript.Proofs.Template.CompiledCode

/-!
Generated binders have names of their own. A name is counted in the binders of the code and in those of the source; the
count grows by one only where the name is issued, and every name is issued once.
-/

namespace TemplateScript

def tally (name : String) (xs : List Subterm) : Nat := (xs.flatMap Subterm.binders).count name

section Tally

variable {name : String}

@[simp] lemma tally_nil : tally name [] = 0 := rfl

@[simp] lemma tally_cons (x : Subterm) (xs : List Subterm) :
    tally name (x :: xs) = x.binders.count name + tally name xs := by
  simp [tally]

@[simp] lemma tally_append (xs ys : List Subterm) : tally name (xs ++ ys) = tally name xs + tally name ys := by
  simp [tally]

lemma Item.subterms_map_single (es : List Expr) : Item.subterms (es.map .single) = es.flatMap Expr.subterms := by
  induction es with
  | nil => rfl
  | cons e es ih => simp [ih]

lemma Property.subterms_keyed (entries : List (String × Expr)) :
    Property.subterms (entries.map fun (key, value) => .keyed key value) = entries.flatMap fun entry => entry.2.subterms := by
  induction entries with
  | nil => rfl
  | cons entry entries ih => simp [ih]

lemma Stmt.allSubterms_eq (ss : List Stmt) : Stmt.allSubterms ss = ss.flatMap Stmt.subterms := by
  induction ss with
  | nil => rfl
  | cons s ss ih => simp [ih]

lemma tally_literal (value : Literal) : tally name (Expr.literal value).subterms = 0 := by
  simp [Subterm.binders]

@[simp] lemma tally_string (s : String) : tally name (Expr.string s).subterms = 0 := tally_literal _

@[simp] lemma tally_bool (b : Bool) : tally name (Expr.bool b).subterms = 0 := tally_literal _

@[simp] lemma tally_null : tally name Expr.null.subterms = 0 := tally_literal _

@[simp] lemma tally_undefined : tally name Expr.undefined.subterms = 0 := tally_literal _

@[simp] lemma tally_callWith (callee : Expr) (arguments : List Expr) : tally name (Expr.callWith callee arguments).subterms =
    tally name callee.subterms + tally name (arguments.flatMap Expr.subterms) := by
  simp [Expr.callWith, Item.subterms_map_single, Subterm.binders]

@[simp] lemma tally_fields (entries : List (String × Expr)) : tally name (Expr.fields entries).subterms =
    tally name (entries.flatMap fun entry => entry.2.subterms) := by
  simp [Expr.fields, Property.subterms_keyed, Subterm.binders]

@[simp] lemma tally_concat (es : List Expr) :
    tally name (Expr.concat es).subterms = tally name (es.flatMap Expr.subterms) := by
  cases es with
  | nil => simp [Expr.concat]
  | cons e es =>
    rw [Expr.concat]
    induction es generalizing e with
    | nil => simp
    | cons e' es ih =>
      rw [List.foldl_cons, ih]
      simp [Subterm.binders]

@[simp] lemma tally_bindNames (bindings : List (String × Expr)) (body : Body) :
    tally name (bindNames bindings body).subterms = (bindings.map Prod.fst).count name + tally name body.subterms +
      tally name (bindings.flatMap fun binding => binding.2.subterms) := by
  simp [bindNames, Subterm.binders, List.flatMap_map]

end Tally

section Pieces

variable {name : String} {c : Config}

@[simp] lemma tally_member (field : String) : tally name (c.member field).subterms = 0 := by
  simp [Config.member, Subterm.binders]

@[simp] lemma tally_call (field : String) (arguments : List Expr) :
    tally name (c.callWith field arguments).subterms = tally name (arguments.flatMap Expr.subterms) := by
  simp [Config.callWith]

@[simp] lemma tally_builder (r : Representation) : tally name (c.builder r).subterms = 0 := by
  simp [Config.builder, Config.call, Config.member, Subterm.binders]

lemma tally_attributes (attributes : Attributes) : tally name attributes.literal.subterms = 0 := by
  rw [Attributes.literal, tally_fields]
  induction attributes.entries with
  | nil => rfl
  | cons entry entries ih =>
    have hvalue : tally name entry.2.literal.subterms = 0 := by cases entry.2 <;> simp [Attribute.literal]
    simp_all

mutual

lemma Node.tally_literal : (node : Node) → tally name node.literal.subterms = 0
  | .text _ | .prerendered _ => by simp [Node.literal]
  | .element _ attributes children => by
    simp [Node.literal, tally_attributes attributes, Node.tally_literals children, Subterm.binders]

lemma Node.tally_literals : (nodes : List Node) → tally name (Item.subterms (Node.literals nodes)) = 0
  | [] => by simp [Node.literals]
  | node :: nodes => by simp [Node.literals, node.tally_literal, Node.tally_literals nodes]

end

lemma Constant.tally_literal (constant : Constant) : tally name constant.literal.subterms = 0 := by
  cases constant with
  | structured node => exact node.tally_literal
  | raw node => simp [Constant.literal, RawNode.literal]

def AttributeCode.subterms : AttributeCode → List Subterm
  | .static _ _ => []
  | .computed _ value => value.subterms
  | .spread source => source.subterms

def Compiled.subterms (child : Compiled) : List Subterm := child.expr.subterms

lemma tally_attributeValue (value : AttributeValue) : tally name value.literal.subterms = 0 := by
  cases value <;> exact tally_literal _

@[simp] lemma tally_toObject (codes : List AttributeCode) :
    tally name (AttributeCode.toObject codes).subterms = tally name (codes.flatMap AttributeCode.subterms) := by
  simp only [AttributeCode.toObject, Expr.subterms, tally_cons, Subterm.binders, List.count_nil, Nat.zero_add]
  induction codes with
  | nil => rfl
  | cons code codes ih =>
    cases code <;> simp [AttributeCode.property, AttributeCode.subterms, tally_attributeValue, ih]

@[simp] lemma tally_normalizeChildren (r : Representation) (content : List Compiled) :
    tally name (c.normalizeChildren r content).subterms = tally name (content.flatMap Compiled.subterms) := by
  simp only [Config.normalizeChildren, tally_call, List.flatMap_cons, tally_append, tally_builder, Nat.zero_add,
    List.flatMap_map]
  rfl

@[simp] lemma tally_spreadChildren (r : Representation) (content : List Compiled) :
    tally name (Item.subterms (c.spreadChildren r content)) = tally name (content.flatMap Compiled.subterms) := by
  unfold Config.spreadChildren
  split
  · next h => simp [List.isEmpty_iff.1 h]
  · simp

lemma tally_elementCall (r : Representation) (tag : Expr) (codes : List AttributeCode) (content : List Compiled) :
    tally name (c.elementCall r tag codes content).subterms = tally name tag.subterms +
      tally name (codes.flatMap AttributeCode.subterms) + tally name (content.flatMap Compiled.subterms) := by
  simp [Config.elementCall, Subterm.binders, Nat.add_assoc]

lemma tally_componentCall (callee : Expr) (codes : List AttributeCode) (content : List Compiled) :
    tally name (c.componentCall callee codes content).subterms = tally name callee.subterms +
      tally name (codes.flatMap AttributeCode.subterms) + tally name (content.flatMap Compiled.subterms) := by
  simp [Config.componentCall, Subterm.binders, Nat.add_assoc]

end Pieces

def numeral (name : String) : Nat := Nat.ofDigitChars 10 (name.toList.drop 2) 0

lemma numeral_temporary (kind : Char) (n : Nat) : numeral (temporary kind n) = n := by
  rw [numeral, toList_temporary, List.drop_succ_cons, List.drop_succ_cons, List.drop_zero]
  exact Nat.ofDigitChars_toDigits (by omega) (by omega)

/-- Whether the name can have been issued, as a number, when the count of temporary names is `k`. -/
def issued (name : String) (k : Nat) : Nat := if numeral name ≤ k then 1 else 0

lemma issued_temporary (name : String) (kind : Char) (k : Nat) :
    issued name k + [temporary kind (k + 1)].count name ≤ issued name (k + 1) := by
  by_cases h : name = temporary kind (k + 1)
  · simp [issued, h, numeral_temporary]
  · have hcount : [temporary kind (k + 1)].count name = 0 := List.count_eq_zero.2 (by simpa using h)
    rw [hcount]
    unfold issued
    split <;> split <;> omega

section Outcomes

variable {α β : Type} (name : String)

def Fresh.Issues (x : Fresh α) (before : Nat) (P : α → Nat → Prop) : Prop :=
  ∀ k, issued name k = before → P (x k).1 (issued name (x k).2)

def Compile.Issues (x : Compile α) (before : Nat) (P : α → Nat → Prop) : Prop :=
  ∀ k a k', issued name k = before → x k = (.ok a, k') → P a (issued name k')

variable {name} {before : Nat} {P : α → Nat → Prop} {Q : β → Nat → Prop}

namespace Fresh.Issues

variable {x : Fresh α}

lemma pure {a : α} (h : P a before) : Issues name (Pure.pure a) before P := by
  rintro k rfl
  exact h

lemma bind {f : α → Fresh β} (hx : Issues name x before P) (hf : ∀ a after, P a after → Issues name (f a) after Q) :
    Issues name (x >>= f) before Q :=
  fun k hk => hf (x k).1 _ (hx k hk) (x k).2 rfl

lemma next (kind : Char) :
    Issues name (Fresh.name kind.toString) before fun temp after => before + [temp].count name ≤ after := by
  rintro k rfl
  exact issued_temporary name kind k

end Fresh.Issues

namespace Compile.Issues

variable {x : Compile α}

lemma pure {a : α} (h : P a before) : Issues name (Pure.pure a) before P := by
  rintro k b k' rfl heq
  cases heq
  exact h

lemma throw (e : CompileError) : Issues name (throw e : Compile α) before P := by
  rintro k b k' - heq
  cases heq

lemma throw_bind (e : CompileError) (f : α → Compile β) : Issues name (MonadExcept.throw e >>= f) before Q := by
  rintro k b k' - heq
  cases heq

lemma bind {f : α → Compile β} (hx : Issues name x before P) (hf : ∀ a after, P a after → Issues name (f a) after Q) :
    Issues name (x >>= f) before Q := by
  intro k b k' hk heq
  cases hxk : x k with
  | mk result k₁ =>
    cases result with
    | error e =>
      rw [bind_error hxk] at heq
      cases heq
    | ok a =>
      rw [bind_ok hxk] at heq
      exact hf a _ (hx k a k₁ hk hxk) k₁ b k' rfl heq

lemma lift {y : Fresh α} (h : y.Issues name before P) : Issues name (liftM y : Compile α) before P := by
  rintro k a k' hk heq
  cases heq
  exact h k hk

end Compile.Issues

end Outcomes

section Elements

variable {name : String} {c : Config} {before : Nat} {codes : List AttributeCode} {content : List Compiled}

lemma joinValues_issues (nodes : Expr) : Fresh.Issues name (joinValues nodes) before fun code after =>
    before + tally name code.subterms ≤ after + tally name nodes.subterms := by
  refine (Fresh.Issues.next 'n').bind fun item after h => .pure ?_
  simp [Subterm.binders]
  omega

lemma computedAttribute_issues (key : String) (value : Expr) :
    Fresh.Issues name (computedAttribute c key value) before fun code after =>
      before + tally name code.subterms ≤ after + tally name value.subterms := by
  refine (Fresh.Issues.next 'a').bind fun temp after h => .pure ?_
  simp [Subterm.binders]
  omega

end Elements

namespace RawElement

variable {name : String} {c : Config} {before : Nat} {codes : List AttributeCode} {content : List Compiled}

def Segment.subterms : Segment → List Subterm
  | .constant _ => []
  | .computed text => text.subterms

lemma tally_operands (segments : List Segment) (pending : String) :
    tally name ((operands pending segments).flatMap Expr.subterms) = tally name (segments.flatMap Segment.subterms) := by
  have hconstant (text : String) : tally name ((constantPart text).flatMap Expr.subterms) = 0 := by
    unfold constantPart
    split <;> simp
  induction segments generalizing pending with
  | nil => exact hconstant pending
  | cons segment segments ih =>
    cases segment with
    | constant text => simpa [operands, Segment.subterms] using ih (pending ++ text)
    | computed text => simp [operands, Segment.subterms, hconstant, ih]

lemma tally_node (segments : List Segment) :
    tally name (node segments).subterms = tally name (segments.flatMap Segment.subterms) := by
  simp [node, tally_operands]

lemma separateAttributes_issues (codes : List AttributeCode) : ∀ before,
    Fresh.Issues name (separateAttributes c codes) before fun segments after =>
      before + tally name (segments.flatMap Segment.subterms) ≤ after + tally name (codes.flatMap AttributeCode.subterms) := by
  induction codes with
  | nil => exact fun before => .pure (by simp)
  | cons code codes ih =>
    intro before
    cases code with
    | static key value =>
      refine (ih before).bind fun rest after h => .pure ?_
      simpa [constantAttribute, Segment.subterms, AttributeCode.subterms] using h
    | computed key value =>
      refine (computedAttribute_issues key value).bind fun text middle h => (ih middle).bind fun rest after h' => .pure ?_
      simp [Segment.subterms, AttributeCode.subterms]
      omega
    | spread source =>
      intro k hk
      have h := ih before k hk
      simp only [separateAttributes, List.flatMap_cons, tally_append]
      omega

lemma attributes_issues : Fresh.Issues name (attributes c codes) before fun segments after =>
    before + tally name (segments.flatMap Segment.subterms) ≤ after + tally name (codes.flatMap AttributeCode.subterms) := by
  unfold attributes
  split
  · exact .pure (by simp [Segment.subterms])
  · exact separateAttributes_issues codes before

lemma children_issues (content : List Compiled) : ∀ before,
    Fresh.Issues name (children c content) before fun segments after =>
      before + tally name (segments.flatMap Segment.subterms) ≤ after + tally name (content.flatMap Compiled.subterms) := by
  induction content with
  | nil => exact fun before => .pure (by simp)
  | cons child content ih =>
    intro before
    rw [children]
    cases child.raw? with
    | some node =>
      refine (ih before).bind fun rest after h => .pure ?_
      simp [Segment.subterms]
      omega
    | none =>
      refine (joinValues_issues _).bind fun text middle h => (ih middle).bind fun rest after h' => .pure ?_
      simp only [tally_normalizeChildren, List.flatMap_cons, List.flatMap_nil, List.append_nil] at h
      simp [Segment.subterms]
      omega

lemma static_issues (tag : String) : Fresh.Issues name (static c tag codes content) before fun code after =>
    before + tally name code.subterms ≤
      after + tally name (codes.flatMap AttributeCode.subterms) + tally name (content.flatMap Compiled.subterms) := by
  refine attributes_issues.bind fun shown middle h => (children_issues content middle).bind fun inner after h' => .pure ?_
  rw [tally_node]
  simp [Segment.subterms]
  omega

lemma computed_issues (tag : Expr) : Fresh.Issues name (computed c tag codes content) before fun code after =>
    before + tally name code.subterms ≤ after + tally name tag.subterms + tally name (codes.flatMap AttributeCode.subterms) +
      tally name (content.flatMap Compiled.subterms) := by
  refine (Fresh.Issues.next 't').bind fun temp s₁ h₁ => attributes_issues.bind fun shown s₂ h₂ =>
    (Fresh.Issues.next 'c').bind fun nodes s₃ h₃ => (joinValues_issues _).bind fun joined s₄ h₄ => .pure ?_
  simp [tally_node, Segment.subterms, Subterm.binders, List.count_cons] at h₁ h₃ h₄ ⊢
  omega

end RawElement

namespace StructuredElement

variable {name : String} {c : Config} {codes : List AttributeCode} {content : List Compiled}

lemma tally_static (tag : String) : tally name (static c tag codes content).subterms ≤
    tally name (codes.flatMap AttributeCode.subterms) + tally name (content.flatMap Compiled.subterms) := by
  have hattributes : tally name (attributes c codes).subterms ≤ tally name (codes.flatMap AttributeCode.subterms) := by
    unfold attributes
    split
    · simp [tally_attributes]
    · simp
  have hchildren : tally name (children c content).subterms ≤ tally name (content.flatMap Compiled.subterms) := by
    unfold children
    split
    · simp [Node.tally_literals, Subterm.binders]
    · rw [tally_call, List.flatMap_map]
      exact le_rfl
  simp [static]
  omega

end StructuredElement

namespace StreamElement

variable {name : String} {c : Config} {before : Nat} {codes : List AttributeCode} {content : List Compiled}

lemma tally_constantChunk (text : String) : tally name ((constantChunk text).flatMap Expr.subterms) = 0 := by
  unfold constantChunk
  split <;> simp

lemma separateChunks_issues (values : String) (codes : List AttributeCode) : ∀ pending before,
    Fresh.Issues name (separateChunks c (.identifier values) pending codes) before fun chunks after =>
      before + tally name (chunks.flatMap Expr.subterms) ≤ after := by
  induction codes with
  | nil => exact fun pending before => .pure (by simp [tally_constantChunk])
  | cons code codes ih =>
    intro pending before
    cases code with
    | static key value => exact ih _ before
    | computed key value =>
      refine (computedAttribute_issues key _).bind fun text middle h => (ih "" middle).bind fun rest after h' => .pure ?_
      simp [Subterm.binders] at h
      simp [tally_constantChunk]
      omega
    | spread source => exact ih pending before

lemma plainChunks_issues (values : String) : Fresh.Issues name (plainChunks c (.identifier values) codes) before
    fun chunks after => before + tally name (chunks.flatMap Expr.subterms) ≤ after := by
  unfold plainChunks
  split
  · exact .pure (by simp [tally_constantChunk])
  · split
    · exact .pure (by simp [Subterm.binders])
    · exact separateChunks_issues values codes "" before

lemma tally_write (sink : String) (chunk : Expr) : tally name (write sink chunk).subterms = tally name chunk.subterms := by
  simp [write, Subterm.binders]

lemma tally_renderEach (sink item : String) (nodes : Expr) :
    tally name (renderEach sink item nodes).subterms = [item].count name + tally name nodes.subterms := by
  simp [renderEach, Subterm.binders]

lemma tally_writeAttributes (sink extension values : String) (plain : List Expr) :
    tally name (writeAttributes c sink extension (.identifier values) plain).subterms =
      tally name (plain.flatMap Expr.subterms) := by
  have hplain : tally name (Stmt.allSubterms (plain.map (write sink))) = tally name (plain.flatMap Expr.subterms) := by
    induction plain with
    | nil => rfl
    | cons chunk plain ih => simp [tally_write, ih]
  simp [writeAttributes, hplain, tally_write, Subterm.binders]

lemma tally_renderAdded (sink extension item : String) :
    tally name (renderAdded sink extension item).subterms = [item].count name := by
  simp [renderAdded, tally_renderEach, Subterm.binders]

lemma ownChildren_issues (sink : String) : Fresh.Issues name (ownChildren sink content) before fun own after =>
    before + own.1.toList.count name + tally name (Stmt.allSubterms own.2) ≤ after := by
  unfold ownChildren
  split
  · exact .pure (by simp)
  · refine (Fresh.Issues.next 'c').bind fun nodes middle h => (Fresh.Issues.next 'n').bind fun item after h' => .pure ?_
    simp [tally_renderEach, Subterm.binders]
    omega

lemma childBinding_names (nodes : Option String) : (childBinding c content nodes).map Prod.fst = nodes.toList := by
  cases nodes <;> rfl

lemma tally_childBinding (nodes : Option String) :
    tally name ((childBinding c content nodes).flatMap fun binding => binding.2.subterms) ≤
      tally name (content.flatMap Compiled.subterms) := by
  cases nodes <;> simp [childBinding]

lemma tally_leaf (sink extension : String) (body : List Stmt) (tag : Expr) :
    tally name (leaf c sink extension body tag).subterms =
      [sink, extension].count name + tally name (Stmt.allSubterms body) + tally name tag.subterms := by
  simp [leaf, Subterm.binders]
  omega

lemma static_issues (tag : String) : Fresh.Issues name (static c tag codes content) before fun code after =>
    before + tally name code.subterms ≤
      after + tally name (codes.flatMap AttributeCode.subterms) + tally name (content.flatMap Compiled.subterms) := by
  refine (Fresh.Issues.next 's').bind fun sink s₁ h₁ => (Fresh.Issues.next 'e').bind fun extension s₂ h₂ =>
    (Fresh.Issues.next 'a').bind fun values s₃ h₃ => (plainChunks_issues values).bind fun plain s₄ h₄ =>
      (ownChildren_issues sink).bind fun own s₅ h₅ => (Fresh.Issues.next 'n').bind fun item s₆ h₆ => .pure ?_
  have hchildren : tally name ((childBinding c content own.1).flatMap fun binding => binding.2.subterms) ≤ _ :=
    tally_childBinding own.1
  have hclose : tally name ((if isVoidTag tag then [] else [write sink (.string ("</" ++ tag ++ ">"))]).flatMap
      Stmt.subterms) = 0 := by
    split <;> simp [tally_write]
  rw [Stmt.allSubterms_eq] at h₅
  simp [tally_leaf, Stmt.allSubterms_eq, tally_write, tally_writeAttributes, tally_renderAdded, childBinding_names,
    List.count_cons, hclose] at h₁ h₂ h₃ h₆ ⊢
  omega

lemma computed_issues (tag : Expr) : Fresh.Issues name (computed c tag codes content) before fun code after =>
    before + tally name code.subterms ≤ after + tally name tag.subterms + tally name (codes.flatMap AttributeCode.subterms) +
      tally name (content.flatMap Compiled.subterms) := by
  refine (Fresh.Issues.next 's').bind fun sink s₁ h₁ => (Fresh.Issues.next 'e').bind fun extension s₂ h₂ =>
    (Fresh.Issues.next 't').bind fun temp s₃ h₃ => (Fresh.Issues.next 'a').bind fun values s₄ h₄ =>
      (plainChunks_issues values).bind fun plain s₅ h₅ => (ownChildren_issues sink).bind fun own s₆ h₆ =>
        (Fresh.Issues.next 'n').bind fun item s₇ h₇ => (Fresh.Issues.next 'v').bind fun isVoid s₈ h₈ => .pure ?_
  have hchildren : tally name ((childBinding c content own.1).flatMap fun binding => binding.2.subterms) ≤ _ :=
    tally_childBinding own.1
  have hchecked : tally name ((own.1.map Expr.identifier).getD (.array [])).subterms = 0 := by
    cases own.1 <;> simp [Subterm.binders]
  rw [Stmt.allSubterms_eq] at h₆
  simp [tally_leaf, Stmt.allSubterms_eq, tally_write, tally_writeAttributes, tally_renderAdded, childBinding_names,
    List.count_cons, hchecked, Subterm.binders] at h₁ h₂ h₃ h₄ h₇ h₈ ⊢
  omega

end StreamElement

def TagCode.subterms : TagCode → List Subterm
  | .static _ => []
  | .computed name => name.subterms

namespace Compile

variable {name : String} {c : Config}

lemma specialized_issues (tag : TagCode) (codes : List AttributeCode) (content : List Compiled) (before : Nat) :
    Fresh.Issues name (specialized c tag codes content) before fun code after =>
      before + tally name code.subterms ≤ after + tally name tag.subterms +
        tally name (codes.flatMap AttributeCode.subterms) + tally name (content.flatMap Compiled.subterms) := by
  cases htarget : c.target <;> cases tag <;> simp only [specialized, htarget, TagCode.subterms, tally_nil, Nat.add_zero]
  case structured.static tag =>
    have h : tally name (StructuredElement.static c tag codes content).subterms ≤ _ := StructuredElement.tally_static tag
    exact .pure (by omega)
  case structured.computed tag =>
    refine .pure ?_
    rw [StructuredElement.computed, tally_elementCall]
    omega
  case stream.static tag => exact StreamElement.static_issues tag
  case stream.computed tag => exact StreamElement.computed_issues tag
  case raw.static tag => exact RawElement.static_issues tag
  case raw.computed tag => exact RawElement.computed_issues tag

lemma element_issues (tag : TagCode) (codes : List AttributeCode) (content : List Compiled) (before : Nat) :
    Issues name (element c tag codes content) before fun code after =>
      before + tally name code.subterms ≤ after + tally name tag.subterms +
        tally name (codes.flatMap AttributeCode.subterms) + tally name (content.flatMap Compiled.subterms) := by
  cases hmode : c.mode with
  | direct =>
    cases tag with
    | static tag =>
      simp only [element, hmode]
      refine .pure ?_
      simp only [Compiled.subterms, Compiled.dynamic, tally_elementCall, tally_string]
      omega
    | computed tag =>
      simp only [element, hmode]
      refine .pure ?_
      simp only [Compiled.subterms, Compiled.dynamic, tally_elementCall, TagCode.subterms]
      omega
  | optimizing =>
    simp only [element, hmode]
    cases constant? c tag codes content with
    | error e => exact .throw e
    | ok constant =>
      cases constant with
      | some node =>
        refine .pure ?_
        simp only [Compiled.subterms, node.tally_literal]
        omega
      | none => exact (Issues.lift (specialized_issues tag codes content before)).bind fun code after h => .pure h

lemma checkContent_issues (tag : String) (content : List Compiled) (before : Nat) :
    Issues name (checkContent tag content) before fun _ after => before = after := by
  unfold checkContent
  split
  · exact .throw _
  · exact .pure rfl

lemma container_issues {e : Expr} (he : ∀ node, e ≠ .markup node) {before : Nat}
    (h : Issues name (expression c e) before fun code after =>
      before + tally name code.subterms ≤ after + tally name e.subterms) :
    Issues name (markup c (.container (some e))) before fun code after =>
      before + tally name code.subterms ≤ after + tally name (Markup.container (some e)).subterms := by
  rw [markup_container he]
  refine h.bind fun code after h => .pure ?_
  cases code.stringValue? with
  | none => simpa [Compiled.subterms, Compiled.dynamic, Subterm.binders] using h
  | some s =>
    simp [Compiled.subterms, Compiled.text, Subterm.binders]
    omega

mutual

lemma expression_issues : (e : Expr) → ∀ before, Issues name (expression c e) before fun code after =>
    before + tally name code.subterms ≤ after + tally name e.subterms
  | .identifier other, before => by
    simp only [expression]
    exact .pure le_rfl
  | .literal (.string value source), before => by
    simp only [expression]
    exact .pure (by simp [Subterm.binders])
  | .literal (.number value), before => by
    simp only [expression]
    exact .pure le_rfl
  | .literal (.bool value), before => by
    simp only [expression]
    exact .pure le_rfl
  | .literal .null, before => by
    simp only [expression]
    exact .pure le_rfl
  | .literal .undefined, before => by
    simp only [expression]
    exact .pure le_rfl
  | .array parts, before => by
    simp only [expression]
    refine (items_issues parts before).bind fun parts after h => .pure ?_
    simpa [Subterm.binders] using h
  | .object parts, before => by
    simp only [expression]
    refine (properties_issues parts before).bind fun parts after h => .pure ?_
    simpa [Subterm.binders] using h
  | .member object field, before => by
    simp only [expression]
    refine (expression_issues object before).bind fun object after h => .pure ?_
    simpa [Subterm.binders] using h
  | .index object index, before => by
    simp only [expression]
    refine (expression_issues object before).bind fun object middle h =>
      (expression_issues index middle).bind fun index after h' => .pure ?_
    simp [Subterm.binders]
    omega
  | .call callee arguments, before => by
    simp only [expression]
    refine (expression_issues callee before).bind fun callee middle h =>
      (items_issues arguments middle).bind fun arguments after h' => .pure ?_
    simp [Subterm.binders]
    omega
  | .not operand, before => by
    simp only [expression]
    refine (expression_issues operand before).bind fun operand after h => .pure ?_
    simpa [Subterm.binders] using h
  | .binary op left right, before => by
    simp only [expression]
    refine (expression_issues left before).bind fun left middle h =>
      (expression_issues right middle).bind fun right after h' => .pure ?_
    simp [Subterm.binders]
    omega
  | .conditional test consequent alternate, before => by
    simp only [expression]
    refine (expression_issues test before).bind fun test s₁ h₁ => (expression_issues consequent s₁).bind fun consequent s₂ h₂ =>
      (expression_issues alternate s₂).bind fun alternate s₃ h₃ => .pure ?_
    simp [Subterm.binders]
    omega
  | .arrow params body, before => by
    simp only [expression]
    refine (function_issues body before).bind fun body after h => .pure ?_
    simp [Subterm.binders]
    omega
  | .markup node, before => by
    simp only [expression]
    refine (markup_issues node before).bind fun code after h => .pure ?_
    simpa [Compiled.subterms, Subterm.binders] using h

lemma items_issues : (parts : List Item) → ∀ before, Issues name (items c parts) before fun code after =>
    before + tally name (Item.subterms code) ≤ after + tally name (Item.subterms parts)
  | [], before => by
    simp only [items]
    exact .pure le_rfl
  | .single value :: parts, before => by
    simp only [items]
    refine (expression_issues value before).bind fun value middle h =>
      (items_issues parts middle).bind fun parts after h' => .pure ?_
    simp
    omega
  | .spread source :: parts, before => by
    simp only [items]
    refine (expression_issues source before).bind fun source middle h =>
      (items_issues parts middle).bind fun parts after h' => .pure ?_
    simp
    omega

lemma properties_issues : (parts : List Property) → ∀ before, Issues name (properties c parts) before fun code after =>
    before + tally name (Property.subterms code) ≤ after + tally name (Property.subterms parts)
  | [], before => by
    simp only [properties]
    exact .pure le_rfl
  | .keyed key value :: parts, before => by
    simp only [properties]
    refine (expression_issues value before).bind fun value middle h =>
      (properties_issues parts middle).bind fun parts after h' => .pure ?_
    simp
    omega
  | .spread source :: parts, before => by
    simp only [properties]
    refine (expression_issues source before).bind fun source middle h =>
      (properties_issues parts middle).bind fun parts after h' => .pure ?_
    simp
    omega

lemma function_issues : (body : Body) → ∀ before, Issues name (function c body) before fun code after =>
    before + tally name code.subterms ≤ after + tally name body.subterms
  | .expression value, before => by
    simp only [function]
    exact (expression_issues value before).bind fun value after h => .pure (by simpa using h)
  | .block ss, before => by
    simp only [function]
    exact (statements_issues ss before).bind fun ss after h => .pure (by simpa using h)

lemma statement_issues : (s : Stmt) → ∀ before, Issues name (statement c s) before fun code after =>
    before + tally name code.subterms ≤ after + tally name s.subterms
  | .importModule other path, before => by
    simp only [statement]
    exact .pure le_rfl
  | .declare kind other value, before => by
    simp only [statement]
    refine (expression_issues value before).bind fun value after h => .pure ?_
    simp [Subterm.binders]
    omega
  | .expression value, before => by
    simp only [statement]
    refine (expression_issues value before).bind fun value after h => .pure ?_
    simpa [Subterm.binders] using h
  | .branch test consequent none, before => by
    simp only [statement, otherwise, pure_bind]
    refine (expression_issues test before).bind fun test middle h =>
      (statement_issues consequent middle).bind fun consequent after h' => .pure ?_
    simp [Subterm.binders]
    omega
  | .branch test consequent (some alternate), before => by
    simp only [statement, otherwise, bind_assoc, pure_bind]
    refine (expression_issues test before).bind fun test s₁ h₁ => (statement_issues consequent s₁).bind fun consequent s₂ h₂ =>
      (statement_issues alternate s₂).bind fun alternate s₃ h₃ => .pure ?_
    simp [Subterm.binders]
    omega
  | .block ss, before => by
    simp only [statement]
    refine (statements_issues ss before).bind fun ss after h => .pure ?_
    simpa [Subterm.binders] using h
  | .forOf other source body, before => by
    simp only [statement]
    refine (expression_issues source before).bind fun source middle h =>
      (statement_issues body middle).bind fun body after h' => .pure ?_
    simp [Subterm.binders]
    omega
  | .leave none, before => by
    simp only [statement]
    exact .pure le_rfl
  | .leave (some value), before => by
    simp only [statement]
    refine (expression_issues value before).bind fun value after h => .pure ?_
    simpa [Subterm.binders] using h

lemma statements_issues : (ss : List Stmt) → ∀ before, Issues name (statements c ss) before fun code after =>
    before + tally name (Stmt.allSubterms code) ≤ after + tally name (Stmt.allSubterms ss)
  | [], before => by
    simp only [statements]
    exact .pure le_rfl
  | s :: ss, before => by
    simp only [statements]
    refine (statement_issues s before).bind fun s middle h =>
      (statements_issues ss middle).bind fun ss after h' => .pure ?_
    simp
    omega

lemma markup_issues : (node : Markup) → ∀ before, Issues name (markup c node) before fun code after =>
    before + tally name code.subterms ≤ after + tally name node.subterms
  | .text value, before => by
    simp only [markup]
    exact .pure (by simp [Compiled.subterms, Compiled.text])
  | .container none, before => by
    simp only [markup]
    exact .pure (by simp [Compiled.subterms, Compiled.dynamic])
  | .container (some (.markup node)), before => by
    simp only [markup]
    intro k code k' hk heq
    simpa [Subterm.binders] using markup_issues node before k code k' hk heq
  | .container (some (.identifier other)), before => container_issues (by simp) (expression_issues (.identifier other) before)
  | .container (some (.literal value)), before => container_issues (by simp) (expression_issues (.literal value) before)
  | .container (some (.array parts)), before => container_issues (by simp) (expression_issues (.array parts) before)
  | .container (some (.object parts)), before => container_issues (by simp) (expression_issues (.object parts) before)
  | .container (some (.member object field)), before =>
    container_issues (by simp) (expression_issues (.member object field) before)
  | .container (some (.index object index)), before =>
    container_issues (by simp) (expression_issues (.index object index) before)
  | .container (some (.call callee parts)), before =>
    container_issues (by simp) (expression_issues (.call callee parts) before)
  | .container (some (.not operand)), before => container_issues (by simp) (expression_issues (.not operand) before)
  | .container (some (.binary op left right)), before =>
    container_issues (by simp) (expression_issues (.binary op left right) before)
  | .container (some (.conditional test consequent alternate)), before =>
    container_issues (by simp) (expression_issues (.conditional test consequent alternate) before)
  | .container (some (.arrow params body)), before =>
    container_issues (by simp) (expression_issues (.arrow params body) before)
  | .fragment parts, before => by
    simp only [markup]
    refine (children_issues parts before).bind fun content after h => .pure ?_
    simp [Compiled.subterms, Compiled.dynamic, tally_componentCall, Subterm.binders]
    omega
  | .element (.static tag) attributes parts closed, before => by
    simp only [markup]
    split
    · exact .throw_bind _ _
    · refine (attributeCodes_issues attributes before).bind fun codes s₁ h₁ =>
        (children_issues parts s₁).bind fun content s₂ h₂ => ?_
      refine (checkContent_issues tag content s₂).bind fun _ s₃ h₃ => ?_
      subst h₃
      intro k code k' hk heq
      have h := element_issues (.static tag) codes content _ k code k' hk heq
      simp [TagCode.subterms, Subterm.binders] at h ⊢
      omega
  | .element (.computed tag) attributes parts closed, before => by
    simp only [markup]
    refine (expression_issues tag before).bind fun tag s₁ h₁ => (attributeCodes_issues attributes s₁).bind fun codes s₂ h₂ =>
      (children_issues parts s₂).bind fun content s₃ h₃ => ?_
    intro k code k' hk heq
    have h := element_issues (.computed tag) codes content _ k code k' hk heq
    simp [TagCode.subterms, Subterm.binders] at h ⊢
    omega
  | .element (.component callee) attributes parts closed, before => by
    simp only [markup]
    refine (expression_issues callee before).bind fun callee s₁ h₁ =>
      (attributeCodes_issues attributes s₁).bind fun codes s₂ h₂ => (children_issues parts s₂).bind fun content s₃ h₃ => .pure ?_
    simp [Compiled.subterms, Compiled.dynamic, tally_componentCall, Subterm.binders]
    omega

lemma children_issues : (parts : List Markup) → ∀ before, Issues name (children c parts) before fun content after =>
    before + tally name (content.flatMap Compiled.subterms) ≤ after + tally name (Markup.allSubterms parts)
  | [], before => by
    simp only [children]
    exact .pure le_rfl
  | node :: nodes, before => by
    by_cases hnode : node = .container none
    · subst hnode
      simp only [children]
      intro k content k' hk heq
      simpa [Subterm.binders] using children_issues nodes before k content k' hk heq
    · rw [children_cons hnode]
      refine (markup_issues node before).bind fun child middle h =>
        (children_issues nodes middle).bind fun content after h' => .pure ?_
      split
      · simp
        omega
      · simp
        omega

lemma attributeCodes_issues : (attributes : List MarkupAttribute) → ∀ before,
    Issues name (attributeCodes c attributes) before fun codes after =>
      before + tally name (codes.flatMap AttributeCode.subterms) ≤ after + tally name (MarkupAttribute.subterms attributes)
  | [], before => by
    simp only [attributeCodes]
    exact .pure le_rfl
  | .named key none :: attributes, before => by
    simp only [attributeCodes]
    exact (attributeCodes_issues attributes before).bind fun codes after h => .pure (by simpa [AttributeCode.subterms] using h)
  | .named key (some value) :: attributes, before => by
    simp only [attributeCodes]
    refine (expression_issues value before).bind fun value middle h =>
      (attributeCodes_issues attributes middle).bind fun codes after h' => .pure ?_
    cases value.constant? with
    | some constant =>
      simp [AttributeCode.subterms]
      omega
    | none =>
      simp [AttributeCode.subterms]
      omega
  | .spread source :: attributes, before => by
    simp only [attributeCodes]
    refine (expression_issues source before).bind fun source middle h =>
      (attributeCodes_issues attributes middle).bind fun codes after h' => .pure ?_
    simp [AttributeCode.subterms]
    omega

end

end Compile

end TemplateScript
