import Mathlib.Data.List.Nodup
import TemplateScript.Proofs.Template.FreshNames
import TemplateScript.Proofs.Template.Hygiene

namespace TemplateScript

structure Vocabulary.Follows (V : Vocabulary) (S : String → Prop) : Prop where
  binds : ∀ {name}, S name → V.binds name
  bound : ∀ {names scope name}, (∀ other ∈ names, S other) → name ∈ names → V.refers (V.extend names scope) name
  inner : ∀ {names scope name}, S name → V.refers scope name → V.refers (V.extend names scope) name
  member : ∀ name, V.member name
  literal : ∀ value, V.literal value

def Vocabulary.Sees (V : Vocabulary) (S : String → Prop) (scope names : List String) : Prop :=
  ∀ name ∈ names, S name ∧ V.refers scope name

namespace Vocabulary.Sees

variable {V : Vocabulary} {S : String → Prop} {scope names names' : List String}

lemma left (h : V.Sees S scope (names ++ names')) : V.Sees S scope names := (List.forall_mem_append.1 h).1

lemma right (h : V.Sees S scope (names ++ names')) : V.Sees S scope names' := (List.forall_mem_append.1 h).2

lemma extend (hS : V.Follows S) (h : V.Sees S scope names) (bound : List String) : V.Sees S (V.extend bound scope) names :=
  fun name hname => ⟨(h name hname).1, hS.inner (h name hname).1 (h name hname).2⟩

lemma under (hS : V.Follows S) {bound : List String} (hbound : ∀ name ∈ bound, S name)
    (h : V.Sees S scope (names.filter (· ∉ bound))) : V.Sees S (V.extend bound scope) names := by
  intro name hname
  by_cases hmem : name ∈ bound
  · exact ⟨hbound name hmem, hS.bound hbound hmem⟩
  · exact h.extend hS bound name (List.mem_filter.2 ⟨hname, by simpa using hmem⟩)

end Vocabulary.Sees

def Subterm.BindersIn (S : String → Prop) (xs : List Subterm) : Prop := ∀ x ∈ xs, ∀ name ∈ x.binders, S name

namespace Subterm.BindersIn

variable {S : String → Prop} {x : Subterm} {xs ys : List Subterm}

lemma head (h : BindersIn S (x :: xs)) : ∀ name ∈ x.binders, S name := h x List.mem_cons_self

lemma tail (h : BindersIn S (x :: xs)) : BindersIn S xs := (List.forall_mem_cons.1 h).2

lemma left (h : BindersIn S (xs ++ ys)) : BindersIn S xs := (List.forall_mem_append.1 h).1

lemma right (h : BindersIn S (xs ++ ys)) : BindersIn S ys := (List.forall_mem_append.1 h).2

lemma declared : {ss : List Stmt} → BindersIn S (Stmt.allSubterms ss) → ∀ name ∈ Stmt.declared ss, S name
  | [], _ => by simp [Stmt.declared]
  | .declare kind name value :: ss, h => by
    rw [Stmt.allSubterms, Stmt.subterms] at h
    rw [Stmt.declared, List.forall_mem_cons]
    exact ⟨h.left.head name (by simp [binders]), declared h.right⟩
  | .importModule _ _ :: ss, h | .expression _ :: ss, h | .branch _ _ _ :: ss, h | .block _ :: ss, h | .forOf _ _ _ :: ss, h
  | .leave _ :: ss, h => by
    rw [Stmt.allSubterms] at h
    rw [Stmt.declared]
    · exact declared h.right
    · simp

end Subterm.BindersIn

namespace Compile

open RawElement (IsOuter)
open Subterm (BindersIn)

variable {V : Vocabulary} {S : String → Prop} {c : Config}

lemma statement_heads (s : Stmt) : Gives (statement c s) fun code =>
    Stmt.declared [code] = Stmt.declared [s] ∧ Stmt.imported [code] = Stmt.imported [s] := by
  cases s with
  | importModule name path =>
    simp only [statement]
    exact .pure ⟨rfl, rfl⟩
  | leave value =>
    cases value with
    | none =>
      simp only [statement]
      exact .pure ⟨rfl, rfl⟩
    | some value =>
      simp only [statement]
      exact (Gives.trivial _).bind fun _ _ => .pure ⟨rfl, rfl⟩
  | declare | expression | block =>
    simp only [statement]
    exact (Gives.trivial _).bind fun _ _ => .pure ⟨rfl, rfl⟩
  | forOf =>
    simp only [statement]
    exact (Gives.trivial _).bind fun _ _ => (Gives.trivial _).bind fun _ _ => .pure ⟨rfl, rfl⟩
  | branch =>
    simp only [statement]
    exact (Gives.trivial _).bind fun _ _ => (Gives.trivial _).bind fun _ _ => (Gives.trivial _).bind fun _ _ =>
      .pure ⟨rfl, rfl⟩

lemma statements_heads (ss : List Stmt) : Gives (statements c ss) fun code =>
    Stmt.declared code = Stmt.declared ss ∧ Stmt.imported code = Stmt.imported ss := by
  induction ss with
  | nil =>
    simp only [statements]
    exact .pure ⟨rfl, rfl⟩
  | cons s ss ih =>
    simp only [statements]
    refine (statement_heads s).bind fun code h => ih.bind fun codes hs => .pure ?_
    rw [Stmt.declared_cons, Stmt.imported_cons, Stmt.declared_cons s, Stmt.imported_cons s, h.1, h.2, hs.1, hs.2]
    exact ⟨rfl, rfl⟩

lemma block_scoped {ss : List Stmt} {scope : List String}
    (h : Gives (statements c ss) (Stmt.AllWithin V (V.extend (Stmt.declared ss) scope))) :
    Gives (statements c ss) fun code => Stmt.AllWithin V (V.extend (Stmt.declared code) scope) code := by
  intro k code k' heq
  rw [(statements_heads ss k code k' heq).1]
  exact h k code k' heq

mutual

lemma expression_scoped (hV : V.Suits c) (hS : V.Follows S) : (e : Expr) → BindersIn S e.subterms →
    ∀ scope, V.Sees S scope e.free → Gives (expression c e) (Expr.Within V scope)
  | .identifier name, _, scope, h => by
    simp only [expression]
    refine .pure ?_
    rw [Expr.Within]
    exact (h name (by simp [Expr.free])).2
  | .literal (.string value _), _, scope, _ => by
    simp only [expression]
    exact .pure (hV.string_within value)
  | .literal (.number value), _, scope, _ => by
    simp only [expression]
    refine .pure ?_
    rw [Expr.Within]
    exact hS.literal _
  | .literal (.bool value), _, scope, _ => by
    simp only [expression]
    exact .pure (hV.bool_within value)
  | .literal .null, _, scope, _ => by
    simp only [expression]
    exact .pure hV.null_within
  | .literal .undefined, _, scope, _ => by
    simp only [expression]
    exact .pure hV.undefined_within
  | .array parts, hb, scope, h => by
    simp only [expression]
    rw [Expr.subterms] at hb
    rw [Expr.free] at h
    exact (items_scoped hV hS parts hb.tail scope h).bind fun parts hparts => .pure (by rwa [Expr.Within])
  | .object parts, hb, scope, h => by
    simp only [expression]
    rw [Expr.subterms] at hb
    rw [Expr.free] at h
    exact (properties_scoped hV hS parts hb.tail scope h).bind fun parts hparts => .pure (by rwa [Expr.Within])
  | .member object name, hb, scope, h => by
    simp only [expression]
    rw [Expr.subterms] at hb
    rw [Expr.free] at h
    refine (expression_scoped hV hS object hb.tail scope h).bind fun object hobject => .pure ?_
    rw [Expr.Within]
    exact ⟨hobject, hS.member name⟩
  | .index object index, hb, scope, h => by
    simp only [expression]
    rw [Expr.subterms] at hb
    rw [Expr.free] at h
    refine (expression_scoped hV hS object hb.tail.left scope h.left).bind fun object hobject =>
      (expression_scoped hV hS index hb.tail.right scope h.right).bind fun index hindex => .pure ?_
    rw [Expr.Within]
    exact ⟨hobject, hindex⟩
  | .call callee arguments, hb, scope, h => by
    simp only [expression]
    rw [Expr.subterms] at hb
    rw [Expr.free] at h
    refine (expression_scoped hV hS callee hb.tail.left scope h.left).bind fun callee hcallee =>
      (items_scoped hV hS arguments hb.tail.right scope h.right).bind fun arguments harguments => .pure ?_
    rw [Expr.Within]
    exact ⟨hcallee, harguments⟩
  | .not operand, hb, scope, h => by
    simp only [expression]
    rw [Expr.subterms] at hb
    rw [Expr.free] at h
    exact (expression_scoped hV hS operand hb.tail scope h).bind fun operand hoperand => .pure (by rwa [Expr.Within])
  | .binary op left right, hb, scope, h => by
    simp only [expression]
    rw [Expr.subterms] at hb
    rw [Expr.free] at h
    refine (expression_scoped hV hS left hb.tail.left scope h.left).bind fun left hleft =>
      (expression_scoped hV hS right hb.tail.right scope h.right).bind fun right hright => .pure ?_
    rw [Expr.Within]
    exact ⟨hleft, hright⟩
  | .conditional test consequent alternate, hb, scope, h => by
    simp only [expression]
    rw [Expr.subterms] at hb
    rw [Expr.free] at h
    refine (expression_scoped hV hS test hb.tail.left scope h.left).bind fun test htest =>
      (expression_scoped hV hS consequent hb.tail.right.left scope h.right.left).bind fun consequent hconsequent =>
        (expression_scoped hV hS alternate hb.tail.right.right scope h.right.right).bind fun alternate halternate => .pure ?_
    rw [Expr.Within]
    exact ⟨htest, hconsequent, halternate⟩
  | .arrow params body, hb, scope, h => by
    simp only [expression]
    rw [Expr.subterms] at hb
    rw [Expr.free] at h
    refine (function_scoped hV hS body hb.tail _ (.under hS hb.head h)).bind fun body hbody => .pure ?_
    rw [Expr.Within]
    exact ⟨fun name hname => hS.binds (hb.head name hname), hbody⟩
  | .markup node, hb, scope, h => by
    simp only [expression]
    rw [Expr.subterms] at hb
    rw [Expr.free] at h
    exact (markup_scoped hV hS node hb.tail scope h).bind fun code hcode => .pure hcode

lemma items_scoped (hV : V.Suits c) (hS : V.Follows S) : (parts : List Item) → BindersIn S (Item.subterms parts) →
    ∀ scope, V.Sees S scope (Item.allFree parts) → Gives (items c parts) (Item.AllWithin V scope)
  | [], _, scope, _ => by
    simp only [items]
    exact .pure (by simp [Item.AllWithin])
  | .single value :: parts, hb, scope, h => by
    simp only [items]
    rw [Item.subterms] at hb
    rw [Item.allFree] at h
    refine (expression_scoped hV hS value hb.left scope h.left).bind fun value hvalue =>
      (items_scoped hV hS parts hb.right scope h.right).bind fun parts hparts => .pure ?_
    rw [Item.AllWithin]
    exact ⟨hvalue, hparts⟩
  | .spread source :: parts, hb, scope, h => by
    simp only [items]
    rw [Item.subterms] at hb
    rw [Item.allFree] at h
    refine (expression_scoped hV hS source hb.left scope h.left).bind fun source hsource =>
      (items_scoped hV hS parts hb.right scope h.right).bind fun parts hparts => .pure ?_
    rw [Item.AllWithin]
    exact ⟨hsource, hparts⟩

lemma properties_scoped (hV : V.Suits c) (hS : V.Follows S) : (parts : List Property) →
    BindersIn S (Property.subterms parts) → ∀ scope, V.Sees S scope (Property.allFree parts) →
    Gives (properties c parts) (Property.AllWithin V scope)
  | [], _, scope, _ => by
    simp only [properties]
    exact .pure (by simp [Property.AllWithin])
  | .keyed key value :: parts, hb, scope, h => by
    simp only [properties]
    rw [Property.subterms] at hb
    rw [Property.allFree] at h
    refine (expression_scoped hV hS value hb.left scope h.left).bind fun value hvalue =>
      (properties_scoped hV hS parts hb.right scope h.right).bind fun parts hparts => .pure ?_
    rw [Property.AllWithin]
    exact ⟨hvalue, hparts⟩
  | .spread source :: parts, hb, scope, h => by
    simp only [properties]
    rw [Property.subterms] at hb
    rw [Property.allFree] at h
    refine (expression_scoped hV hS source hb.left scope h.left).bind fun source hsource =>
      (properties_scoped hV hS parts hb.right scope h.right).bind fun parts hparts => .pure ?_
    rw [Property.AllWithin]
    exact ⟨hsource, hparts⟩

lemma function_scoped (hV : V.Suits c) (hS : V.Follows S) : (body : Body) → BindersIn S body.subterms →
    ∀ scope, V.Sees S scope body.free → Gives (function c body) (Body.Within V scope)
  | .expression value, hb, scope, h => by
    simp only [function]
    rw [Body.subterms] at hb
    rw [Body.free] at h
    exact (expression_scoped hV hS value hb scope h).bind fun value hvalue => .pure (by rwa [Body.Within])
  | .block ss, hb, scope, h => by
    simp only [function]
    rw [Body.subterms] at hb
    rw [Body.free] at h
    exact (block_scoped (statements_scoped hV hS ss hb _ (.under hS hb.declared h))).bind fun ss hss =>
      .pure (by rwa [Body.Within])

lemma statement_scoped (hV : V.Suits c) (hS : V.Follows S) : (s : Stmt) → BindersIn S s.subterms →
    ∀ scope, V.Sees S scope s.free → Gives (statement c s) (Stmt.Within V scope)
  | .importModule name path, hb, scope, _ => by
    simp only [statement]
    rw [Stmt.subterms] at hb
    refine .pure ?_
    rw [Stmt.Within]
    exact hS.binds (hb.head name (by simp [Subterm.binders]))
  | .declare kind name value, hb, scope, h => by
    simp only [statement]
    rw [Stmt.subterms] at hb
    rw [Stmt.free] at h
    refine (expression_scoped hV hS value hb.tail scope h).bind fun value hvalue => .pure ?_
    rw [Stmt.Within]
    exact ⟨hS.binds (hb.head name (by simp [Subterm.binders])), hvalue⟩
  | .expression value, hb, scope, h => by
    simp only [statement]
    rw [Stmt.subterms] at hb
    rw [Stmt.free] at h
    exact (expression_scoped hV hS value hb.tail scope h).bind fun value hvalue => .pure (by rwa [Stmt.Within])
  | .branch test consequent none, hb, scope, h => by
    simp only [statement, otherwise, pure_bind]
    rw [Stmt.subterms] at hb
    rw [Stmt.free] at h
    refine (expression_scoped hV hS test hb.tail.left scope h.left).bind fun test htest =>
      (statement_scoped hV hS consequent hb.tail.right scope h.right).bind fun consequent hconsequent => .pure ?_
    rw [Stmt.Within]
    exact ⟨htest, hconsequent⟩
  | .branch test consequent (some alternate), hb, scope, h => by
    simp only [statement, otherwise, bind_assoc, pure_bind]
    rw [Stmt.subterms] at hb
    rw [Stmt.free] at h
    refine (expression_scoped hV hS test hb.tail.left scope h.left).bind fun test htest =>
      (statement_scoped hV hS consequent hb.tail.right.left scope h.right.left).bind fun consequent hconsequent =>
        (statement_scoped hV hS alternate hb.tail.right.right scope h.right.right).bind fun alternate halternate => .pure ?_
    rw [Stmt.Within]
    exact ⟨htest, hconsequent, halternate⟩
  | .block ss, hb, scope, h => by
    simp only [statement]
    rw [Stmt.subterms] at hb
    rw [Stmt.free] at h
    exact (block_scoped (statements_scoped hV hS ss hb.tail _ (.under hS hb.tail.declared h))).bind fun ss hss =>
      .pure (by rwa [Stmt.Within])
  | .forOf name source body, hb, scope, h => by
    simp only [statement]
    rw [Stmt.subterms] at hb
    rw [Stmt.free] at h
    have hname : ∀ other ∈ [name], S other := hb.head
    have hbody : V.Sees S (V.extend [name] scope) body.free := .under hS hname (by simpa using h.right)
    refine (expression_scoped hV hS source hb.tail.left scope h.left).bind fun source hsource =>
      (statement_scoped hV hS body hb.tail.right _ hbody).bind fun body hbody => .pure ?_
    rw [Stmt.Within]
    exact ⟨hS.binds (hname name (by simp)), hsource, hbody⟩
  | .leave none, _, scope, _ => by
    simp only [statement]
    exact .pure (by simp [Stmt.Within])
  | .leave (some value), hb, scope, h => by
    simp only [statement]
    rw [Stmt.subterms] at hb
    rw [Stmt.free] at h
    exact (expression_scoped hV hS value hb.tail scope h).bind fun value hvalue => .pure (by rwa [Stmt.Within])

lemma statements_scoped (hV : V.Suits c) (hS : V.Follows S) : (ss : List Stmt) → BindersIn S (Stmt.allSubterms ss) →
    ∀ scope, V.Sees S scope (Stmt.allFree ss) → Gives (statements c ss) (Stmt.AllWithin V scope)
  | [], _, scope, _ => by
    simp only [statements]
    exact .pure (by simp [Stmt.AllWithin])
  | s :: ss, hb, scope, h => by
    simp only [statements]
    rw [Stmt.allSubterms] at hb
    rw [Stmt.allFree] at h
    refine (statement_scoped hV hS s hb.left scope h.left).bind fun s hs =>
      (statements_scoped hV hS ss hb.right scope h.right).bind fun ss hss => .pure ?_
    rw [Stmt.AllWithin]
    exact ⟨hs, hss⟩

lemma markup_scoped (hV : V.Suits c) (hS : V.Follows S) : (node : Markup) → BindersIn S node.subterms →
    ∀ scope, V.Sees S scope node.free → Gives (markup c node) fun code => code.expr.Within V scope
  | .text value, _, scope, _ => by
    simp only [markup]
    exact .pure (hV.string_within _)
  | .container none, _, scope, _ => by
    simp only [markup]
    exact .pure hV.undefined_within
  | .container (some (.markup node)), hb, scope, h => by
    simp only [markup]
    rw [Markup.subterms, Expr.subterms] at hb
    rw [Markup.free, Expr.free] at h
    exact markup_scoped hV hS node hb.tail.tail scope h
  | .container (some (.identifier name)), hb, scope, h => by
    rw [Markup.subterms] at hb
    rw [Markup.free] at h
    exact container_within hV (by simp) (expression_scoped hV hS (.identifier name) hb.tail scope h)
  | .container (some (.literal value)), hb, scope, h => by
    rw [Markup.subterms] at hb
    rw [Markup.free] at h
    exact container_within hV (by simp) (expression_scoped hV hS (.literal value) hb.tail scope h)
  | .container (some (.array parts)), hb, scope, h => by
    rw [Markup.subterms] at hb
    rw [Markup.free] at h
    exact container_within hV (by simp) (expression_scoped hV hS (.array parts) hb.tail scope h)
  | .container (some (.object parts)), hb, scope, h => by
    rw [Markup.subterms] at hb
    rw [Markup.free] at h
    exact container_within hV (by simp) (expression_scoped hV hS (.object parts) hb.tail scope h)
  | .container (some (.member object name)), hb, scope, h => by
    rw [Markup.subterms] at hb
    rw [Markup.free] at h
    exact container_within hV (by simp) (expression_scoped hV hS (.member object name) hb.tail scope h)
  | .container (some (.index object index)), hb, scope, h => by
    rw [Markup.subterms] at hb
    rw [Markup.free] at h
    exact container_within hV (by simp) (expression_scoped hV hS (.index object index) hb.tail scope h)
  | .container (some (.call callee parts)), hb, scope, h => by
    rw [Markup.subterms] at hb
    rw [Markup.free] at h
    exact container_within hV (by simp) (expression_scoped hV hS (.call callee parts) hb.tail scope h)
  | .container (some (.not operand)), hb, scope, h => by
    rw [Markup.subterms] at hb
    rw [Markup.free] at h
    exact container_within hV (by simp) (expression_scoped hV hS (.not operand) hb.tail scope h)
  | .container (some (.binary op left right)), hb, scope, h => by
    rw [Markup.subterms] at hb
    rw [Markup.free] at h
    exact container_within hV (by simp) (expression_scoped hV hS (.binary op left right) hb.tail scope h)
  | .container (some (.conditional test consequent alternate)), hb, scope, h => by
    rw [Markup.subterms] at hb
    rw [Markup.free] at h
    exact container_within hV (by simp)
      (expression_scoped hV hS (.conditional test consequent alternate) hb.tail scope h)
  | .container (some (.arrow params body)), hb, scope, h => by
    rw [Markup.subterms] at hb
    rw [Markup.free] at h
    exact container_within hV (by simp) (expression_scoped hV hS (.arrow params body) hb.tail scope h)
  | .fragment parts, hb, scope, h => by
    simp only [markup]
    rw [Markup.subterms] at hb
    rw [Markup.free] at h
    exact (children_scoped hV hS parts hb.tail scope h).bind fun content hcontent =>
      .pure (Config.componentCall_within hV (hV.support_within (by decide)) (by simp) hcontent)
  | .element (.static name) attributes parts closed, hb, scope, h => by
    simp only [markup]
    rw [Markup.subterms, Tag.subterms, List.nil_append] at hb
    rw [Markup.free, Tag.free, List.nil_append] at h
    split
    · exact .throw_bind _ _
    · exact (attributeCodes_scoped hV hS attributes hb.tail.left scope h.left).bind fun codes hcodes =>
        (children_scoped hV hS parts hb.tail.right scope h.right).bind fun content hcontent =>
          (Gives.trivial _).bind fun _ _ => element_within hV trivial hcodes (by simp) hcontent
  | .element (.computed name) attributes parts closed, hb, scope, h => by
    simp only [markup]
    rw [Markup.subterms, Tag.subterms] at hb
    rw [Markup.free, Tag.free] at h
    -- The same codes stand inside the function that binds the tag, where more names are bound.
    have hcodes : Gives (attributeCodes c attributes) fun codes =>
        (∀ code ∈ codes, code.Within V scope) ∧ ∀ names, ∀ code ∈ codes, code.Within V (V.extend names scope) :=
      fun k codes k' heq => ⟨attributeCodes_scoped hV hS attributes hb.tail.right.left scope h.right.left k codes k' heq,
        fun names => attributeCodes_scoped hV hS attributes hb.tail.right.left _ (h.right.left.extend hS names) k codes k' heq⟩
    exact (expression_scoped hV hS name hb.tail.left scope h.left).bind fun name hname =>
      hcodes.bind fun codes hcodes =>
        (children_scoped hV hS parts hb.tail.right.right scope h.right.right).bind fun content hcontent =>
          element_within hV hname hcodes.1 (fun _ _ _ _ names _ => hcodes.2 names) hcontent
  | .element (.component callee) attributes parts closed, hb, scope, h => by
    simp only [markup]
    rw [Markup.subterms, Tag.subterms] at hb
    rw [Markup.free, Tag.free] at h
    exact (expression_scoped hV hS callee hb.tail.left scope h.left).bind fun callee hcallee =>
      (attributeCodes_scoped hV hS attributes hb.tail.right.left scope h.right.left).bind fun codes hcodes =>
        (children_scoped hV hS parts hb.tail.right.right scope h.right.right).bind fun content hcontent =>
          .pure (Config.componentCall_within hV hcallee hcodes hcontent)

lemma children_scoped (hV : V.Suits c) (hS : V.Follows S) : (parts : List Markup) → BindersIn S (Markup.allSubterms parts) →
    ∀ scope, V.Sees S scope (Markup.allFree parts) →
    Gives (children c parts) fun content => ∀ child ∈ content, child.expr.Within V scope
  | [], _, scope, _ => by
    simp only [children]
    exact .pure (by simp)
  | node :: nodes, hb, scope, h => by
    rw [Markup.allSubterms] at hb
    rw [Markup.allFree] at h
    by_cases hnode : node = .container none
    · subst hnode
      simp only [children]
      exact children_scoped hV hS nodes hb.right scope h.right
    · rw [children_cons hnode]
      refine (markup_scoped hV hS node hb.left scope h.left).bind fun child hchild =>
        (children_scoped hV hS nodes hb.right scope h.right).bind fun content hcontent => .pure ?_
      split
      · exact hcontent
      · exact List.forall_mem_cons.2 ⟨hchild, hcontent⟩

lemma attributeCodes_scoped (hV : V.Suits c) (hS : V.Follows S) : (attributes : List MarkupAttribute) →
    BindersIn S (MarkupAttribute.subterms attributes) → ∀ scope, V.Sees S scope (MarkupAttribute.allFree attributes) →
    Gives (attributeCodes c attributes) fun codes => ∀ code ∈ codes, code.Within V scope
  | [], _, scope, _ => by
    simp only [attributeCodes]
    exact .pure (by simp)
  | .named key none :: attributes, hb, scope, h => by
    simp only [attributeCodes]
    rw [MarkupAttribute.subterms] at hb
    rw [MarkupAttribute.allFree] at h
    have htrue : (Expr.bool true).Within V scope := hV.bool_within true
    exact (attributeCodes_scoped hV hS attributes hb scope h).bind fun codes hcodes =>
      .pure (List.forall_mem_cons.2 ⟨htrue, hcodes⟩)
  | .named key (some value) :: attributes, hb, scope, h => by
    simp only [attributeCodes]
    rw [MarkupAttribute.subterms] at hb
    rw [MarkupAttribute.allFree] at h
    exact (expression_scoped hV hS value hb.left scope h.left).bind fun value hvalue =>
      (attributeCodes_scoped hV hS attributes hb.right scope h.right).bind fun codes hcodes =>
        .pure (List.forall_mem_cons.2 ⟨attributeCode_within hV key hvalue, hcodes⟩)
  | .spread source :: attributes, hb, scope, h => by
    simp only [attributeCodes]
    rw [MarkupAttribute.subterms] at hb
    rw [MarkupAttribute.allFree] at h
    exact (expression_scoped hV hS source hb.left scope h.left).bind fun source hsource =>
      (attributeCodes_scoped hV hS attributes hb.right scope h.right).bind fun codes hcodes =>
        .pure (List.forall_mem_cons.2 ⟨hsource, hcodes⟩)

end

end Compile

namespace Config

variable (c : Config)

end Config

namespace Program

variable {c : Config} {p q : Program}

def nestedProgram : Program :=
  [.declare .constant "_n7" (.string "b"), .expression (.arrow ["x"] (.expression (.markup (.element (.computed (.identifier "_n7"))
    [.named "title" (some (.identifier "x"))] [.container (some (.markup (.element (.computed (.identifier "y"))
      [.spread (.identifier "x")] [.container (some (.identifier "_n7"))] false)))] false))))]

end Program

end TemplateScript
