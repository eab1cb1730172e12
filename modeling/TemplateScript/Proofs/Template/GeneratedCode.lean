import TemplateScript.Proofs.Script.Scopes
import TemplateScript.Proofs.Template.Outcomes
import TemplateScript.Script.Lexeme

namespace TemplateScript

open Lexeme

/-- A generated binder of the name stands around a place, and none but generated binders stand between the two. -/
inductive Vocabulary.Knows (V : Vocabulary) : (scope : List String) → (name : String) → Prop
  | bound {names scope : List String} {name : String} : (∀ other ∈ names, isTemporary other) → name ∈ names →
      V.Knows (V.extend names scope) name
  | inner {names scope : List String} {name : String} : (∀ other ∈ names, isTemporary other) → V.Knows scope name →
      V.Knows (V.extend names scope) name

namespace Vocabulary.Knows

variable {V : Vocabulary} {scope : List String} {name : String}

lemma isTemporary (h : V.Knows scope name) : isTemporary name := by
  induction h with
  | bound hnames hmem => exact hnames _ hmem
  | inner _ _ ih => exact ih

lemma mem (h : V.Knows scope name) (htracks : V.tracks name = true) : name ∈ scope := by
  induction h with
  | bound _ hmem => exact List.mem_append_left _ (List.mem_filter.2 ⟨hmem, htracks⟩)
  | inner _ _ ih => exact List.mem_append_right _ (ih htracks)

end Vocabulary.Knows

/-- The vocabulary has room for generated code: the support module, temporary names where they are in scope, and literals
of every kind but numbers. -/
structure Vocabulary.Suits (V : Vocabulary) (c : Config) : Prop where
  support : ∀ scope, V.refers scope c.support
  refers : ∀ {scope name}, V.Knows scope name → V.refers scope name
  binds : ∀ {name}, isTemporary name → V.binds name
  member : ∀ {name}, isName name → V.member name
  string : ∀ s, V.literal (.string s none)
  bool : ∀ b, V.literal (.bool b)
  null : V.literal .null
  undefined : V.literal .undefined

def AttributeCode.Within (V : Vocabulary) (scope : List String) : AttributeCode → Prop
  | .static _ value => value.literal.Within V scope
  | .computed _ value => value.Within V scope
  | .spread source => source.Within V scope

section Pieces

variable {V : Vocabulary} {c : Config} {scope : List String}

namespace Vocabulary.Suits

lemma string_within (hV : V.Suits c) (s : String) : (Expr.string s).Within V scope := by
  rw [Expr.string, Expr.Within]
  exact hV.string s

lemma bool_within (hV : V.Suits c) (b : Bool) : (Expr.bool b).Within V scope := by
  rw [Expr.bool, Expr.Within]
  exact hV.bool b

lemma null_within (hV : V.Suits c) : Expr.null.Within V scope := by
  rw [Expr.null, Expr.Within]
  exact hV.null

lemma undefined_within (hV : V.Suits c) : Expr.undefined.Within V scope := by
  rw [Expr.undefined, Expr.Within]
  exact hV.undefined

lemma member_within (hV : V.Suits c) {e : Expr} {name : String} (he : e.Within V scope) (hname : isName name) :
    (Expr.member e name).Within V scope := by
  rw [Expr.Within]
  exact ⟨he, hV.member hname⟩

lemma identifier_within (hV : V.Suits c) {name : String} (hknows : V.Knows scope name) :
    (Expr.identifier name).Within V scope := by
  rw [Expr.Within]
  exact hV.refers hknows

lemma concat_within (hV : V.Suits c) {es : List Expr} (h : ∀ e ∈ es, e.Within V scope) : (Expr.concat es).Within V scope :=
  Expr.within_concat (hV.string "") h

lemma fields_within {entries : List (String × Expr)} (h : ∀ e ∈ entries, e.2.Within V scope) :
    (Expr.fields entries).Within V scope := by
  rw [Expr.fields, Expr.Within]
  exact Property.allWithin_keyed.2 h

lemma support_within (hV : V.Suits c) {name : String} (hname : isName name) : (c.member name).Within V scope := by
  refine hV.member_within ?_ hname
  rw [Expr.Within]
  exact hV.support scope

lemma call_within (hV : V.Suits c) {name : String} (hname : isName name) {arguments : List Expr}
    (h : ∀ a ∈ arguments, a.Within V scope) : (c.callWith name arguments).Within V scope :=
  Expr.within_callWith.2 ⟨hV.support_within hname, h⟩

lemma builder_within (hV : V.Suits c) (r : Representation) : (c.builder r).Within V scope := by
  have hname : isName r.name := by cases r <;> decide
  rw [Config.builder, Config.call, Expr.Within]
  exact ⟨hV.support_within hname, by simp [Item.AllWithin]⟩

end Vocabulary.Suits

lemma bindNames_within {bindings : List (String × Expr)} {body : Body}
    (hbindings : ∀ b ∈ bindings, V.binds b.1 ∧ b.2.Within V scope)
    (hbody : body.Within V (V.extend (bindings.map Prod.fst) scope)) : (bindNames bindings body).Within V scope := by
  rw [bindNames, Expr.within_callWith, Expr.Within]
  refine ⟨⟨?_, hbody⟩, ?_⟩
  · intro name hname
    obtain ⟨b, hb, rfl⟩ := List.mem_map.1 hname
    exact (hbindings b hb).1
  · intro e he
    obtain ⟨b, hb, rfl⟩ := List.mem_map.1 he
    exact (hbindings b hb).2

end Pieces

section Literals

variable {V : Vocabulary} {c : Config} {scope : List String}

lemma Attributes.literal_within (hV : V.Suits c) (attributes : Attributes) : attributes.literal.Within V scope := by
  refine Vocabulary.Suits.fields_within ?_
  simp only [List.forall_mem_map]
  rintro ⟨name, a⟩ -
  cases a with
  | bare => exact hV.bool_within true
  | text s => exact hV.string_within s

lemma leaf_within (hV : V.Suits c) (kind value : String) :
    (Expr.fields [("type", .string kind), ("value", .string value)]).Within V scope := by
  refine Vocabulary.Suits.fields_within ?_
  simp only [List.forall_mem_cons]
  exact ⟨hV.string_within _, hV.string_within _, by simp⟩

mutual

lemma Node.literal_within (hV : V.Suits c) : (node : Node) → node.literal.Within V scope
  | .text value => leaf_within hV "text" value
  | .prerendered html => leaf_within hV "prerendered" html
  | .element tag attributes children => by
    refine Vocabulary.Suits.fields_within ?_
    simp only [List.forall_mem_cons]
    refine ⟨hV.string_within _, hV.string_within _, attributes.literal_within hV, ?_, by simp⟩
    rw [Expr.Within]
    exact Node.literals_within hV children

lemma Node.literals_within (hV : V.Suits c) : (nodes : List Node) → Item.AllWithin V scope (Node.literals nodes)
  | [] => by simp [Node.literals, Item.AllWithin]
  | node :: nodes => by
    rw [Node.literals, Item.AllWithin]
    exact ⟨node.literal_within hV, Node.literals_within hV nodes⟩

end

lemma Constant.literal_within (hV : V.Suits c) (constant : Constant) : constant.literal.Within V scope := by
  cases constant with
  | structured node => exact node.literal_within hV
  | raw node => exact leaf_within hV "raw" node.html

end Literals

section Elements

variable {V : Vocabulary} {c : Config} {scope : List String} {codes : List AttributeCode} {content : List Compiled}

lemma AttributeCode.toObject_within (hcodes : ∀ code ∈ codes, code.Within V scope) :
    (AttributeCode.toObject codes).Within V scope := by
  rw [AttributeCode.toObject, Expr.Within]
  induction codes with
  | nil => simp [Property.AllWithin]
  | cons code codes ih =>
    obtain ⟨hcode, htail⟩ := List.forall_mem_cons.1 hcodes
    cases code <;> simp only [List.map_cons, AttributeCode.property, Property.AllWithin] <;> exact ⟨hcode, ih htail⟩

lemma Config.normalizeChildren_within (hV : V.Suits c) (hcontent : ∀ child ∈ content, child.expr.Within V scope)
    (r : Representation) : (c.normalizeChildren r content).Within V scope := by
  refine hV.call_within (by decide) ?_
  rw [List.forall_mem_cons, List.forall_mem_map]
  exact ⟨hV.builder_within r, hcontent⟩

lemma Config.spreadChildren_within (hV : V.Suits c) (hcontent : ∀ child ∈ content, child.expr.Within V scope)
    (r : Representation) : Item.AllWithin V scope (c.spreadChildren r content) := by
  unfold Config.spreadChildren
  split
  · simp [Item.AllWithin]
  · simp only [Item.AllWithin, and_true]
    exact Config.normalizeChildren_within hV hcontent r

lemma Config.elementCall_within (hV : V.Suits c) {tag : Expr} (htag : tag.Within V scope)
    (hcodes : ∀ code ∈ codes, code.Within V scope) (hcontent : ∀ child ∈ content, child.expr.Within V scope)
    (r : Representation) : (c.elementCall r tag codes content).Within V scope := by
  rw [Config.elementCall, Expr.Within]
  refine ⟨hV.member_within (hV.builder_within r) (by decide), ?_⟩
  simp only [Item.AllWithin]
  exact ⟨htag, AttributeCode.toObject_within hcodes, Config.spreadChildren_within hV hcontent r⟩

lemma Config.componentCall_within (hV : V.Suits c) {callee : Expr} (hcallee : callee.Within V scope)
    (hcodes : ∀ code ∈ codes, code.Within V scope) (hcontent : ∀ child ∈ content, child.expr.Within V scope) :
    (c.componentCall callee codes content).Within V scope := by
  rw [Config.componentCall, Expr.Within]
  simp only [Item.AllWithin]
  exact ⟨hcallee, AttributeCode.toObject_within hcodes, Config.spreadChildren_within hV hcontent c.target⟩

lemma joinValues_within (hV : V.Suits c) {nodes : Expr} (h : nodes.Within V scope) :
    Fresh.Gives (joinValues nodes) (Expr.Within V scope) := by
  refine (Fresh.Gives.name 'n').bind ?_
  rintro _ ⟨n, rfl⟩
  have hitem : isTemporary (temporary 'n' n) := isTemporary_temporary (by decide) n
  refine .pure ?_
  rw [Expr.within_callWith, List.forall_mem_singleton]
  refine ⟨hV.member_within (Expr.within_callWith.2 ⟨hV.member_within h (by decide), ?_⟩) (by decide), hV.string_within ""⟩
  rw [List.forall_mem_singleton, Expr.Within, Body.Within, List.forall_mem_singleton]
  exact ⟨hV.binds hitem, hV.member_within (hV.identifier_within (.bound (by simp [hitem]) (by simp))) (by decide)⟩

lemma computedAttribute_within (hV : V.Suits c) (name : String) {value : Expr} (h : value.Within V scope) :
    Fresh.Gives (computedAttribute c name value) (Expr.Within V scope) := by
  refine (Fresh.Gives.name 'a').bind ?_
  rintro _ ⟨n, rfl⟩
  have htemp : isTemporary (temporary 'a' n) := isTemporary_temporary (by decide) n
  have hreference : (Expr.identifier (temporary 'a' n)).Within V (V.extend [temporary 'a' n] scope) :=
    hV.identifier_within (.bound (by simp [htemp]) (by simp))
  refine .pure (bindNames_within ?_ ?_)
  · rw [List.forall_mem_singleton]
    exact ⟨hV.binds htemp, hV.call_within (by decide) (by simpa using h)⟩
  · simp only [Body.Within, Expr.Within, List.map_cons, List.map_nil]
    rw [Expr.Within] at hreference
    refine ⟨⟨hreference, hV.bool_within true⟩, hV.string_within _, ⟨hreference, hV.null_within⟩, hV.string_within _,
      hV.concat_within ?_⟩
    simp only [List.forall_mem_cons]
    refine ⟨hV.string_within _, hV.call_within (by decide) ?_, hV.string_within _, by simp⟩
    simpa [Expr.Within] using hreference

end Elements

namespace RawElement

variable {V : Vocabulary} {c : Config} {scope : List String} {codes : List AttributeCode} {content : List Compiled}

def Segment.Within (V : Vocabulary) (scope : List String) : Segment → Prop
  | .constant _ => True
  | .computed text => text.Within V scope

lemma operands_within (hV : V.Suits c) {segments : List Segment} (h : ∀ s ∈ segments, s.Within V scope) (pending : String) :
    ∀ e ∈ operands pending segments, e.Within V scope := by
  have hconstant (text : String) : ∀ e ∈ constantPart text, e.Within V scope := by
    unfold constantPart
    split
    · simp
    · rw [List.forall_mem_singleton]
      exact hV.string_within text
  induction segments generalizing pending with
  | nil => exact hconstant pending
  | cons s segments ih =>
    obtain ⟨hs, hsegments⟩ := List.forall_mem_cons.1 h
    cases s with
    | constant text => exact ih hsegments (pending ++ text)
    | computed text =>
      rw [operands, List.forall_mem_append, List.forall_mem_cons]
      exact ⟨hconstant pending, hs, ih hsegments ""⟩

lemma node_within (hV : V.Suits c) {segments : List Segment} (h : ∀ s ∈ segments, s.Within V scope) :
    (node segments).Within V scope := by
  refine Vocabulary.Suits.fields_within ?_
  simp only [List.forall_mem_cons]
  exact ⟨hV.string_within _, hV.concat_within (operands_within hV h ""), by simp⟩

lemma separateAttributes_within (hV : V.Suits c) (hcodes : ∀ code ∈ codes, code.Within V scope) :
    Fresh.Gives (separateAttributes c codes) fun segments => ∀ s ∈ segments, s.Within V scope := by
  induction codes with
  | nil => exact .pure (by simp)
  | cons code codes ih =>
    obtain ⟨hcode, htail⟩ := List.forall_mem_cons.1 hcodes
    cases code with
    | static name value => exact (ih htail).bind fun rest hrest => .pure (List.forall_mem_cons.2 ⟨trivial, hrest⟩)
    | computed name value =>
      exact (computedAttribute_within hV name hcode).bind fun text htext =>
        (ih htail).bind fun rest hrest => .pure (List.forall_mem_cons.2 ⟨htext, hrest⟩)
    | spread source => exact ih htail

lemma attributes_within (hV : V.Suits c) (hcodes : ∀ code ∈ codes, code.Within V scope) :
    Fresh.Gives (attributes c codes) fun segments => ∀ s ∈ segments, s.Within V scope := by
  unfold attributes
  split
  · refine .pure ?_
    rw [List.forall_mem_singleton]
    exact hV.call_within (by decide) (by simpa using AttributeCode.toObject_within hcodes)
  · exact separateAttributes_within hV hcodes

lemma children_within (hV : V.Suits c) (hcontent : ∀ child ∈ content, child.expr.Within V scope) :
    Fresh.Gives (children c content) fun segments => ∀ s ∈ segments, s.Within V scope := by
  induction content with
  | nil => exact .pure (by simp)
  | cons child content ih =>
    obtain ⟨hchild, htail⟩ := List.forall_mem_cons.1 hcontent
    rw [children]
    cases child.raw? with
    | some node => exact (ih htail).bind fun rest hrest => .pure (List.forall_mem_cons.2 ⟨trivial, hrest⟩)
    | none =>
      exact (joinValues_within hV (Config.normalizeChildren_within hV (by simpa using hchild) .raw)).bind fun text htext =>
        (ih htail).bind fun rest hrest => .pure (List.forall_mem_cons.2 ⟨htext, hrest⟩)

lemma static_within (hV : V.Suits c) (hcodes : ∀ code ∈ codes, code.Within V scope)
    (hcontent : ∀ child ∈ content, child.expr.Within V scope) (tag : String) :
    Fresh.Gives (static c tag codes content) (Expr.Within V scope) := by
  refine (attributes_within hV hcodes).bind fun shown hshown => (children_within hV hcontent).bind fun inner hinner =>
    .pure (node_within hV ?_)
  simp only [List.cons_append, List.append_assoc, List.forall_mem_cons, List.forall_mem_append]
  exact ⟨trivial, hshown, trivial, hinner, trivial, by simp⟩

def IsOuter (name : String) : Prop := ∃ n, name = temporary 't' n ∨ name = temporary 'c' n

lemma computed_within (hV : V.Suits c) {tag : Expr} (htag : tag.Within V scope)
    (hcodes : ∀ names : List String, (∀ name ∈ names, IsOuter name) → ∀ code ∈ codes, code.Within V (V.extend names scope))
    (hcontent : ∀ child ∈ content, child.expr.Within V scope) :
    Fresh.Gives (computed c tag codes content) (Expr.Within V scope) := by
  refine (Fresh.Gives.name 't').bind ?_
  rintro _ ⟨n, rfl⟩
  have hname : isTemporary (temporary 't' n) := isTemporary_temporary (by decide) n
  -- The name of the children comes after the attributes, so the scope of the attributes is known for each such name.
  have hshown : Fresh.Gives (attributes c codes) fun segments => ∀ m,
      ∀ s ∈ segments, s.Within V (V.extend [temporary 't' n, temporary 'c' m] scope) := by
    intro k m
    refine attributes_within hV (hcodes _ ?_) k
    rw [List.forall_mem_cons, List.forall_mem_singleton]
    exact ⟨⟨n, .inl rfl⟩, ⟨m, .inr rfl⟩⟩
  refine hshown.bind fun shown hshown => (Fresh.Gives.name 'c').bind ?_
  rintro _ ⟨m, rfl⟩
  have hnodes : isTemporary (temporary 'c' m) := isTemporary_temporary (by decide) m
  have hnameIn : (Expr.identifier (temporary 't' n)).Within V (V.extend [temporary 't' n, temporary 'c' m] scope) :=
    hV.identifier_within (.bound (by simp [hname, hnodes]) (by simp))
  have hnodesIn : (Expr.identifier (temporary 'c' m)).Within V (V.extend [temporary 't' n, temporary 'c' m] scope) :=
    hV.identifier_within (.bound (by simp [hname, hnodes]) (by simp))
  refine (joinValues_within hV hnodesIn).bind fun joined hjoined => .pure (bindNames_within ?_ ?_)
  · simp only [List.forall_mem_cons]
    exact ⟨⟨hV.binds hname, htag⟩, ⟨hV.binds hnodes, Config.normalizeChildren_within hV hcontent .raw⟩, by simp⟩
  · rw [Body.Within]
    refine node_within hV ?_
    simp only [List.cons_append, List.forall_mem_cons, List.forall_mem_append]
    refine ⟨trivial, hnameIn, hshown m, trivial, ?_, by simp⟩
    rw [Segment.Within, Expr.Within]
    refine ⟨hV.call_within (by decide) ?_, hV.string_within "", hV.concat_within ?_⟩
    · simp only [List.forall_mem_cons]
      exact ⟨hnameIn, hnodesIn, by simp⟩
    · simp only [List.forall_mem_cons]
      exact ⟨hjoined, hV.string_within _, hnameIn, hV.string_within _, by simp⟩

end RawElement

namespace StructuredElement

variable {V : Vocabulary} {c : Config} {scope : List String} {codes : List AttributeCode} {content : List Compiled}

lemma static_within (hV : V.Suits c) (hcodes : ∀ code ∈ codes, code.Within V scope)
    (hcontent : ∀ child ∈ content, child.expr.Within V scope) (tag : String) :
    (static c tag codes content).Within V scope := by
  refine Vocabulary.Suits.fields_within ?_
  simp only [List.forall_mem_cons]
  refine ⟨hV.string_within _, hV.string_within _, ?_, ?_, by simp⟩
  · unfold attributes
    split
    · exact Attributes.literal_within hV _
    · exact hV.call_within (by decide) (by simpa using AttributeCode.toObject_within hcodes)
  · unfold children
    split
    · rw [Expr.Within]
      exact Node.literals_within hV _
    · exact hV.call_within (by decide) (by simpa [List.forall_mem_map] using hcontent)

end StructuredElement

namespace StreamElement

variable {V : Vocabulary} {c : Config} {scope : List String} {codes : List AttributeCode} {content : List Compiled}

def Inner (V : Vocabulary) (scope : List String) (s : Stmt) : Prop := s.Within V scope ∧ Stmt.declared [s] = []

lemma block_within {ss : List Stmt} (h : ∀ s ∈ ss, Inner V scope s) :
    Stmt.AllWithin V (V.extend (Stmt.declared ss) scope) ss := by
  have hdeclared : Stmt.declared ss = [] := by
    induction ss with
    | nil => rfl
    | cons s ss ih =>
      obtain ⟨hs, hss⟩ := List.forall_mem_cons.1 h
      have hnone := hs.2
      cases s <;> simp_all [Stmt.declared]
  rw [hdeclared, Vocabulary.extend_of_untracked (by simp), Stmt.allWithin_iff]
  exact fun s hs => (h s hs).1

lemma constantChunk_within (hV : V.Suits c) (text : String) : ∀ e ∈ constantChunk text, e.Within V scope := by
  unfold constantChunk
  split
  · simp
  · rw [List.forall_mem_singleton]
    exact hV.string_within text

lemma separateChunks_within (hV : V.Suits c) {base : Expr} (hbase : base.Within V scope) (pending : String) :
    Fresh.Gives (separateChunks c base pending codes) fun chunks => ∀ e ∈ chunks, e.Within V scope := by
  induction codes generalizing pending with
  | nil => exact .pure (constantChunk_within hV pending)
  | cons code codes ih =>
    cases code with
    | static name value => exact ih _
    | computed name value =>
      have hvalue : (Expr.index base (.string name)).Within V scope := by
        rw [Expr.Within]
        exact ⟨hbase, hV.string_within name⟩
      refine (computedAttribute_within hV name hvalue).bind fun text htext => (ih "").bind fun rest hrest => .pure ?_
      rw [List.forall_mem_append, List.forall_mem_cons]
      exact ⟨constantChunk_within hV pending, htext, hrest⟩
    | spread source => exact ih pending

lemma plainChunks_within (hV : V.Suits c) {base : Expr} (hbase : base.Within V scope) :
    Fresh.Gives (plainChunks c base codes) fun chunks => ∀ e ∈ chunks, e.Within V scope := by
  unfold plainChunks
  split
  · exact .pure (constantChunk_within hV _)
  · split
    · refine .pure ?_
      rw [List.forall_mem_singleton]
      exact hV.call_within (by decide) (by simpa using hbase)
    · exact separateChunks_within hV hbase ""

section Statements

variable {sink extension item : String}

lemma write_within (hV : V.Suits c) (hsink : (Expr.identifier sink).Within V scope) {chunk : Expr}
    (hchunk : chunk.Within V scope) : Inner V scope (write sink chunk) := by
  refine ⟨?_, rfl⟩
  rw [write, Stmt.Within, Expr.within_callWith, List.forall_mem_singleton]
  exact ⟨hV.member_within hsink (by decide), hchunk⟩

lemma renderEach_within (hV : V.Suits c) (hsink : V.Knows scope sink) (hitem : isTemporary item) {nodes : Expr}
    (hnodes : nodes.Within V scope) : Inner V scope (renderEach sink item nodes) := by
  refine ⟨?_, rfl⟩
  rw [renderEach, Stmt.Within, Stmt.Within, Expr.within_callWith, List.forall_mem_singleton]
  exact ⟨hV.binds hitem, hnodes,
    hV.member_within (hV.identifier_within (.bound (by simp [hitem]) (by simp))) (by decide),
    hV.identifier_within (.inner (by simp [hitem]) hsink)⟩

lemma writeAttributes_within (hV : V.Suits c) (hsink : (Expr.identifier sink).Within V scope)
    (hextension : (Expr.identifier extension).Within V scope) {base : Expr} (hbase : base.Within V scope) {plain : List Expr}
    (hplain : ∀ e ∈ plain, e.Within V scope) : Inner V scope (writeAttributes c sink extension base plain) := by
  have hadded : (Expr.member (.identifier extension) "attributes").Within V scope := hV.member_within hextension (by decide)
  refine ⟨?_, rfl⟩
  simp only [writeAttributes, Stmt.Within]
  refine ⟨?_, block_within ?_, block_within ?_⟩
  · rw [Expr.Within]
    exact ⟨hadded, hV.undefined_within⟩
  · rw [List.forall_mem_map]
    exact fun e he => write_within hV hsink (hplain e he)
  · rw [List.forall_mem_singleton]
    refine write_within hV hsink (hV.call_within (by decide) ?_)
    simp only [List.forall_mem_singleton, Expr.Within, Property.AllWithin, and_true]
    rw [Expr.Within] at hadded
    exact ⟨hV.call_within (by decide) (by simpa using hbase), hadded⟩

lemma renderAdded_within (hV : V.Suits c) (hsink : V.Knows scope sink) (hitem : isTemporary item)
    (hextension : (Expr.identifier extension).Within V scope) : Inner V scope (renderAdded sink extension item) := by
  have hadded : (Expr.member (.identifier extension) "children").Within V scope := hV.member_within hextension (by decide)
  refine ⟨?_, rfl⟩
  simp only [renderAdded, Stmt.Within]
  refine ⟨?_, (renderEach_within hV hsink hitem hadded).1⟩
  rw [Expr.Within]
  exact ⟨hadded, hV.undefined_within⟩

lemma ownChildren_within (hV : V.Suits c) : Fresh.Gives (ownChildren sink content) fun own =>
    (∀ nodes ∈ own.1, isTemporary nodes) ∧
    ∀ scope, V.Knows scope sink → (∀ nodes ∈ own.1, V.Knows scope nodes) → ∀ s ∈ own.2, Inner V scope s := by
  unfold ownChildren
  split
  · exact .pure (by simp)
  · refine (Fresh.Gives.name 'c').bind ?_
    rintro _ ⟨n, rfl⟩
    refine (Fresh.Gives.name 'n').bind ?_
    rintro _ ⟨m, rfl⟩
    have hnodes : isTemporary (temporary 'c' n) := isTemporary_temporary (by decide) n
    refine .pure ⟨by simpa using hnodes, fun scope hsink hnodesIn => ?_⟩
    rw [List.forall_mem_singleton]
    exact renderEach_within hV hsink (isTemporary_temporary (by decide) m) (hV.identifier_within (hnodesIn _ rfl))

lemma childBinding_within (hV : V.Suits c) (hcontent : ∀ child ∈ content, child.expr.Within V scope) {nodes : Option String}
    (hnodes : ∀ name ∈ nodes, isTemporary name) : ∀ b ∈ childBinding c content nodes, V.binds b.1 ∧ b.2.Within V scope := by
  cases nodes with
  | none => simp [childBinding]
  | some nodes =>
    rw [childBinding, List.forall_mem_singleton]
    exact ⟨hV.binds (hnodes nodes rfl), Config.normalizeChildren_within hV hcontent .stream⟩

lemma leaf_within (hV : V.Suits c) (hsink : isTemporary sink) (hextension : isTemporary extension) {body : List Stmt}
    (hbody : ∀ s ∈ body, Inner V (V.extend [sink, extension] scope) s) {tag : Expr} (htag : tag.Within V scope) :
    (leaf c sink extension body tag).Within V scope := by
  rw [leaf, Expr.within_callWith]
  refine ⟨hV.member_within (hV.builder_within .stream) (by decide), ?_⟩
  simp only [List.forall_mem_cons, Expr.Within, Body.Within]
  exact ⟨⟨⟨hV.binds hsink, hV.binds hextension, by simp⟩, block_within hbody⟩, htag, by simp⟩

lemma body_within (hV : V.Suits c) (hsink : V.Knows scope sink) (hextension : V.Knows scope extension) (hitem : isTemporary item)
    {opening base : Expr} (hopening : opening.Within V scope)
    (hbase : base.Within V scope) {plain : List Expr} (hplain : ∀ e ∈ plain, e.Within V scope) {own rest : List Stmt}
    (hown : ∀ s ∈ own, Inner V scope s) (hrest : ∀ s ∈ rest, Inner V scope s) :
    ∀ s ∈ [write sink opening, writeAttributes c sink extension base plain, write sink (.string ">")] ++ own ++
      renderAdded sink extension item :: rest, Inner V scope s := by
  have hsinkHere : (Expr.identifier sink).Within V scope := hV.identifier_within hsink
  have hextensionHere : (Expr.identifier extension).Within V scope := hV.identifier_within hextension
  simp only [List.forall_mem_append, List.forall_mem_cons]
  exact ⟨⟨⟨write_within hV hsinkHere hopening, writeAttributes_within hV hsinkHere hextensionHere hbase hplain,
    write_within hV hsinkHere (hV.string_within _), by simp⟩, hown⟩,
    renderAdded_within hV hsink hitem hextensionHere, hrest⟩

end Statements

lemma childBinding_temporary {nodes : Option String} (hnodes : ∀ name ∈ nodes, isTemporary name) :
    ∀ name ∈ (childBinding c content nodes).map Prod.fst, isTemporary name := by
  cases nodes with
  | none => simp [childBinding]
  | some nodes => simpa [childBinding] using hnodes nodes rfl

lemma mem_childBinding {nodes : Option String} {name : String} (h : name ∈ nodes) :
    name ∈ (childBinding c content nodes).map Prod.fst := by
  cases h
  simp [childBinding]

lemma plainChunks_wherever (hV : V.Suits c) (values : String) :
    Fresh.Gives (plainChunks c (.identifier values) codes) fun chunks =>
      ∀ scope, V.Knows scope values → ∀ e ∈ chunks, e.Within V scope :=
  fun k _ hknows => plainChunks_within hV (hV.identifier_within hknows) k

lemma static_within (hV : V.Suits c) (hcodes : ∀ code ∈ codes, code.Within V scope)
    (hcontent : ∀ child ∈ content, child.expr.Within V scope) (tag : String) :
    Fresh.Gives (static c tag codes content) (Expr.Within V scope) := by
  refine (Fresh.Gives.name 's').bind ?_
  rintro _ ⟨s, rfl⟩
  refine (Fresh.Gives.name 'e').bind ?_
  rintro _ ⟨e, rfl⟩
  refine (Fresh.Gives.name 'a').bind ?_
  rintro _ ⟨a, rfl⟩
  have hsink : isTemporary (temporary 's' s) := isTemporary_temporary (by decide) s
  have hextension : isTemporary (temporary 'e' e) := isTemporary_temporary (by decide) e
  have hvalues : isTemporary (temporary 'a' a) := isTemporary_temporary (by decide) a
  refine (plainChunks_wherever hV _).bind fun plain hplain => (ownChildren_within hV).bind ?_
  rintro ⟨nodes, own⟩ ⟨hnodes, hown⟩
  refine (Fresh.Gives.name 'n').bind ?_
  rintro _ ⟨n, rfl⟩
  refine .pure (bindNames_within ?_ ?_)
  · rw [List.forall_mem_cons]
    exact ⟨⟨hV.binds hvalues, AttributeCode.toObject_within hcodes⟩, childBinding_within hV hcontent hnodes⟩
  · rw [Body.Within]
    refine leaf_within hV hsink hextension ?_ (hV.string_within tag)
    have hparams : ∀ name ∈ [temporary 's' s, temporary 'e' e], isTemporary name := by simp [hsink, hextension]
    have hnames : ∀ name ∈ temporary 'a' a :: (childBinding c content nodes).map Prod.fst, isTemporary name :=
      List.forall_mem_cons.2 ⟨hvalues, childBinding_temporary hnodes⟩
    have hsinkIn {inner : List String} : V.Knows (V.extend [temporary 's' s, temporary 'e' e] inner) (temporary 's' s) :=
      .bound hparams (by simp)
    have hbound {inner : List String} {name : String}
        (h : name ∈ temporary 'a' a :: (childBinding c content nodes).map Prod.fst) :
        V.Knows (V.extend [temporary 's' s, temporary 'e' e]
          (V.extend (temporary 'a' a :: (childBinding c content nodes).map Prod.fst) inner)) name :=
      .inner hparams (.bound hnames h)
    rw [List.append_assoc, List.singleton_append]
    refine body_within hV hsinkIn (.bound hparams (by simp)) (isTemporary_temporary (by decide) n) (hV.string_within _)
      (hV.identifier_within (hbound (by simp))) (hplain _ (hbound (by simp)))
      (hown _ hsinkIn fun nodes hmem => hbound (List.mem_cons_of_mem _ (mem_childBinding hmem))) ?_
    split
    · simp
    · rw [List.forall_mem_singleton]
      exact write_within hV (hV.identifier_within hsinkIn) (hV.string_within _)

lemma computed_within (hV : V.Suits c) {tag : Expr} (htag : tag.Within V scope) (hcodes : ∀ code ∈ codes, code.Within V scope)
    (hcontent : ∀ child ∈ content, child.expr.Within V scope) :
    Fresh.Gives (computed c tag codes content) (Expr.Within V scope) := by
  refine (Fresh.Gives.name 's').bind ?_
  rintro _ ⟨s, rfl⟩
  refine (Fresh.Gives.name 'e').bind ?_
  rintro _ ⟨e, rfl⟩
  refine (Fresh.Gives.name 't').bind ?_
  rintro _ ⟨t, rfl⟩
  refine (Fresh.Gives.name 'a').bind ?_
  rintro _ ⟨a, rfl⟩
  have hsink : isTemporary (temporary 's' s) := isTemporary_temporary (by decide) s
  have hextension : isTemporary (temporary 'e' e) := isTemporary_temporary (by decide) e
  have hname : isTemporary (temporary 't' t) := isTemporary_temporary (by decide) t
  have hvalues : isTemporary (temporary 'a' a) := isTemporary_temporary (by decide) a
  refine (plainChunks_wherever hV _).bind fun plain hplain => (ownChildren_within hV).bind ?_
  rintro ⟨nodes, own⟩ ⟨hnodes, hown⟩
  refine (Fresh.Gives.name 'n').bind ?_
  rintro _ ⟨n, rfl⟩
  refine (Fresh.Gives.name 'v').bind ?_
  rintro _ ⟨v, rfl⟩
  have hisVoid : isTemporary (temporary 'v' v) := isTemporary_temporary (by decide) v
  refine .pure (bindNames_within ?_ ?_)
  · rw [List.forall_mem_cons, List.forall_mem_cons]
    exact ⟨⟨hV.binds hname, htag⟩, ⟨hV.binds hvalues, AttributeCode.toObject_within hcodes⟩,
      childBinding_within hV hcontent hnodes⟩
  · have hparams : ∀ name ∈ [temporary 's' s, temporary 'e' e], isTemporary name := by simp [hsink, hextension]
    have hnames : ∀ name ∈ temporary 't' t :: temporary 'a' a :: (childBinding c content nodes).map Prod.fst,
        isTemporary name :=
      List.forall_mem_cons.2 ⟨hname, List.forall_mem_cons.2 ⟨hvalues, childBinding_temporary hnodes⟩⟩
    have hbound {inner : List String} {name : String}
        (h : name ∈ temporary 't' t :: temporary 'a' a :: (childBinding c content nodes).map Prod.fst) :
        V.Knows (V.extend [temporary 'v' v]
          (V.extend (temporary 't' t :: temporary 'a' a :: (childBinding c content nodes).map Prod.fst) inner)) name :=
      .inner (by simp [hisVoid]) (.bound hnames h)
    simp only [Body.Within, Stmt.declared, Stmt.AllWithin, Stmt.Within, and_true]
    refine ⟨⟨hV.binds hisVoid, hV.call_within (by decide) ?_⟩, leaf_within hV hsink hextension ?_
      (hV.identifier_within (hbound (by simp)))⟩
    · simp only [List.forall_mem_cons]
      refine ⟨hV.identifier_within (hbound (by simp)), ?_, by simp⟩
      cases nodes with
      | none => simp [Expr.Within, Item.AllWithin]
      | some nodes => exact hV.identifier_within (hbound (by simp [childBinding]))
    · have hsinkIn {inner : List String} : V.Knows (V.extend [temporary 's' s, temporary 'e' e] inner) (temporary 's' s) :=
        .bound hparams (by simp)
      have hsinkHere {inner : List String} :
          (Expr.identifier (temporary 's' s)).Within V (V.extend [temporary 's' s, temporary 'e' e] inner) :=
        hV.identifier_within hsinkIn
      have hnameHere {inner : List String} : (Expr.identifier (temporary 't' t)).Within V
          (V.extend [temporary 's' s, temporary 'e' e] (V.extend [temporary 'v' v]
            (V.extend (temporary 't' t :: temporary 'a' a :: (childBinding c content nodes).map Prod.fst) inner))) :=
        hV.identifier_within (.inner hparams (hbound (by simp)))
      refine body_within hV hsinkIn (.bound hparams (by simp)) (isTemporary_temporary (by decide) n) (hV.concat_within ?_)
        (hV.identifier_within (.inner hparams (hbound (by simp)))) (hplain _ (.inner hparams (hbound (by simp))))
        (hown _ hsinkIn fun nodes hmem => .inner hparams (hbound ?_)) ?_
      · simp only [List.forall_mem_cons]
        exact ⟨hV.string_within _, hnameHere, by simp⟩
      · exact List.mem_cons_of_mem _ (List.mem_cons_of_mem _ (mem_childBinding hmem))
      · rw [List.forall_mem_singleton]
        refine ⟨?_, rfl⟩
        simp only [Stmt.Within]
        refine ⟨?_, (write_within hV hsinkHere (hV.concat_within ?_)).1⟩
        · rw [Expr.Within]
          exact hV.identifier_within (.inner hparams (.bound (by simp [hisVoid]) (List.mem_singleton_self _)))
        · simp only [List.forall_mem_cons]
          exact ⟨hV.string_within _, hnameHere, hV.string_within _, by simp⟩

end StreamElement

end TemplateScript
