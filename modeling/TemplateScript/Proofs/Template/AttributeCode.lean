import TemplateScript.Proofs.Document.Attributes
import TemplateScript.Proofs.Template.Execution

namespace TemplateScript

namespace AttributeCode

inductive Gathers : List AttributeCode → List (String × Value) → Prop
  | nil : Gathers [] []
  | static (name : String) (value : AttributeValue) {codes : List AttributeCode} {es : List (String × Value)} :
    Gathers codes es → Gathers (.static name value :: codes) ((name, value.toValue) :: es)
  | computed (name : String) (e : Expr) (v : Value) {codes : List AttributeCode} {es : List (String × Value)} :
    Gathers codes es → Gathers (.computed name e :: codes) ((name, v) :: es)
  | spread (e : Expr) (new : List (String × Value)) {codes : List AttributeCode} {es : List (String × Value)} :
    Gathers codes es → Gathers (.spread e :: codes) (new ++ es)

lemma setAll_append {α : Type} (es new new' : List (String × α)) :
    Entries.setAll es (new ++ new') = Entries.setAll (Entries.setAll es new) new' :=
  List.foldl_append

lemma expression_literal (call : Call) (scope : Scope) (value : AttributeValue) :
    Evaluation.expression call scope value.literal = pure value.toValue := by
  cases value <;>
    simp only [AttributeValue.literal, Expr.string, Expr.bool, Expr.null, Expr.undefined, Evaluation.expression,
      Evaluation.literal, AttributeValue.toValue]

lemma gathers_of_fields {call : Call} {scope : Scope} (codes : List AttributeCode) {es fs : List (String × Value)}
    {s t : Store} (h : Evaluation.fields call scope es (codes.map property) s = .ok fs t) :
    ∃ new, Gathers codes new ∧ fs = Entries.setAll es new := by
  induction codes generalizing es s with
  | nil =>
    simp only [List.map_nil, Evaluation.fields] at h
    obtain ⟨rfl, -⟩ := EStateM.Result.ok.inj h
    exact ⟨[], .nil, rfl⟩
  | cons code codes ih =>
    cases code with
    | static name value =>
      simp only [List.map_cons, property, Evaluation.fields, expression_literal, pure_bind] at h
      obtain ⟨new, hn, rfl⟩ := ih h
      exact ⟨_, .static name value hn, rfl⟩
    | computed name e =>
      simp only [List.map_cons, property, Evaluation.fields, run_bind_eq_ok] at h
      obtain ⟨v, s', -, h⟩ := h
      obtain ⟨new, hn, rfl⟩ := ih h
      exact ⟨_, .computed name e v hn, rfl⟩
    | spread e =>
      simp only [List.map_cons, property, Evaluation.fields, run_bind_eq_ok] at h
      obtain ⟨v, s', -, h⟩ := h
      obtain ⟨new, hn, rfl⟩ := ih h
      exact ⟨_, .spread e _ hn, (setAll_append ..).symm⟩

lemma gathers_of_object {call : Call} {scope : Scope} {codes : List AttributeCode} {v : Value} {s t : Store}
    (h : Evaluation.expression call scope (toObject codes) s = .ok v t) :
    ∃ identity new, Gathers codes new ∧ v = .object identity (Entries.setAll [] new) := by
  simp only [toObject, Evaluation.expression, run_bind_eq_ok] at h
  obtain ⟨fs, s', hf, h⟩ := h
  obtain ⟨new, hn, rfl⟩ := gathers_of_fields codes hf
  exact ⟨s'.identities, new, hn, (EStateM.Result.ok.inj h).1.symm⟩

lemma gathers_static {codes : List AttributeCode} {entries : List (String × AttributeValue)}
    (h : staticEntries? codes = some entries) {new : List (String × Value)} (hg : Gathers codes new) :
    new = Entries.mapValues AttributeValue.toValue entries := by
  induction hg generalizing entries with
  | nil =>
    obtain rfl := Option.some.inj h
    rfl
  | static name value _ ih =>
    simp only [staticEntries?, Option.map_eq_some_iff] at h
    obtain ⟨rest, hr, rfl⟩ := h
    rw [ih hr]
    rfl
  | computed => simp [staticEntries?] at h
  | spread => simp [staticEntries?] at h

lemma toAttributeValues_static {codes : List AttributeCode} {values : AttributeValues}
    (h : staticValues? codes = some values) {new : List (String × Value)} (hg : Gathers codes new) :
    Value.toAttributeValues new = values := by
  obtain ⟨entries, he, rfl⟩ := Option.map_eq_some_iff.1 h
  rw [gathers_static he hg, Value.toAttributeValues_eq, Entries.mapValues_mapValues]
  simp [AttributeValue.toAttributeValue_toValue, Entries.mapValues]

def entriesText (es : List (String × AttributeValue)) : String :=
  String.join (es.map fun e => Evaluation.attributeText e.1 e.2)

lemma entriesText_append (es fs : List (String × AttributeValue)) :
    entriesText (es ++ fs) = entriesText es ++ entriesText fs := by
  simp [entriesText, String.join_append]

lemma render_ofList {es : List (String × AttributeValue)} (h : (Entries.keys es).Nodup) :
    (AttributeValues.normalize (.ofList es)).render = entriesText es := by
  have he : (OrderedMap.ofList es).entries = es := Entries.setAll_nil_of_nodup h
  simp only [AttributeValues.normalize, OrderedMap.choose, Attributes.render, he, entriesText]
  clear he h
  induction es with
  | nil => rfl
  | cons e es ih =>
    simp only [List.map_cons, Entries.choose, String.join_cons, Evaluation.attributeText] at ih ⊢
    cases e.2.normalize with
    | none => simpa using ih
    | some a => simp [String.join_cons, ih]

def separateText (new : List (String × Value)) : String := entriesText (Entries.mapValues Value.toAttributeValue new)

lemma separateText_cons (name : String) (v : Value) (new : List (String × Value)) :
    separateText ((name, v) :: new) = Evaluation.attributeText name v.toAttributeValue ++ separateText new :=
  String.join_cons

lemma render_of_nodup {new : List (String × Value)} (h : (Entries.keys new).Nodup) :
    (AttributeValues.normalize (Value.toAttributeValues new)).render = separateText new :=
  render_ofList ((Entries.keys_mapValues Value.toAttributeValue new).symm ▸ h)

lemma of_not_needMerge {codes : List AttributeCode} (h : needMerge codes = false) :
    (∀ e, .spread e ∉ codes) ∧ (codes.filterMap name?).Nodup := by
  simp only [needMerge, Bool.or_eq_false_iff, List.any_eq_false, Bool.not_eq_false', decide_eq_true_eq] at h
  exact ⟨fun e hm => h.1 _ hm rfl, h.2⟩

lemma not_needMerge {codes : List AttributeCode} (h : needMerge codes = false) {new : List (String × Value)}
    (hg : Gathers codes new) : (∀ e, .spread e ∉ codes) ∧ (Entries.keys new).Nodup := by
  obtain ⟨hspread, hn⟩ := of_not_needMerge h
  have hk : Entries.keys new = codes.filterMap name? := by
    clear h hn
    induction hg with
    | nil => rfl
    | static name value _ ih => simp [Entries.keys, name?, ← ih fun e hm => hspread e (List.mem_cons_of_mem _ hm)]
    | computed name e v _ ih => simp [Entries.keys, name?, ← ih fun e hm => hspread e (List.mem_cons_of_mem _ hm)]
    | spread e => exact absurd List.mem_cons_self (hspread e)
  exact ⟨hspread, hk ▸ hn⟩

end AttributeCode

def Texts (n : Nat) (scope : Scope) (l₀ : Store) : List Expr → List String → Prop :=
  List.Forall₂ fun e text => Quietly l₀ (· = .string text) (Evaluation.expression (Evaluation.callWithin n) scope e)

namespace StreamElement

open Evaluation AttributeCode

variable {c : Config} {scope : Scope} {l₀ : Store} {n identity : Nat} {fs new : List (String × Value)} {base : Expr}
  {codes : List AttributeCode}

lemma constantChunk_texts (n : Nat) (scope : Scope) (l₀ : Store) (text : String) :
    ∃ texts, Texts n scope l₀ (constantChunk text) texts ∧ String.join texts = text := by
  simp only [constantChunk]
  split
  · exact ⟨[], .nil, by simp_all⟩
  · exact ⟨[text], .cons (string_quietly text) .nil, by simp⟩

lemma index_quietly (hbase : Quietly l₀ (· = .object identity fs) (expression (callWithin n) scope base))
    {name : String} {v : Value} (hv : Entries.get? name fs = some v) :
    Quietly l₀ (· = v) (expression (callWithin n) scope (.index base (.string name))) := by
  simp only [expression]
  refine hbase.bind fun _ e => (string_quietly name).bind fun _ e' => ?_
  subst e e'
  simp only [element, Evaluation.property, Value.text, hv, Option.getD_some]
  exact .pure rfl

lemma computedAttribute_quietly (hs : scope.In l₀) (h : l₀.Supports scope c.support)
    (hc : isTemporary c.support = false) (name : String) {value : Expr} {v : Value} (k : Nat)
    (hv : Quietly l₀ (· = v) (expression (callWithin (n + 1)) scope value)) :
    Quietly l₀ (· = .string (attributeText name v.toAttributeValue))
      (expression (callWithin (n + 1)) scope (computedAttribute c name value k).1) := by
  intro l hl
  rw [expression_computedAttribute (h.grow hs hl)]
  refine (Quietly.newIdentity.bind fun id _ => hv.bind fun _ e => ?_) l hl
  rw [e]
  exact attribute_call_quietly hs h hc name (k + 1) id v

lemma separateChunks_texts (hs : scope.In l₀) (h : l₀.Supports scope c.support) (hc : isTemporary c.support = false)
    (hbase : Quietly l₀ (· = .object identity fs) (expression (callWithin (n + 1)) scope base))
    (hg : Gathers codes new) (hspread : ∀ e, .spread e ∉ codes)
    (hget : ∀ e ∈ new, Entries.get? e.1 fs = some e.2) (pending : String) (k : Nat) :
    ∃ texts, Texts (n + 1) scope l₀ (separateChunks c base pending codes k).1 texts ∧
      String.join texts = pending ++ separateText new := by
  induction hg generalizing pending k with
  | nil =>
    obtain ⟨texts, ht, hj⟩ := constantChunk_texts (n + 1) scope l₀ pending
    exact ⟨texts, ht, by simp [hj, separateText, entriesText, Entries.mapValues]⟩
  | static name value _ ih =>
    obtain ⟨texts, ht, hj⟩ := ih (fun e hm => hspread e (List.mem_cons_of_mem _ hm))
      (fun e hm => hget e (List.mem_cons_of_mem _ hm)) (pending ++ attributeText name value) k
    refine ⟨texts, ht, ?_⟩
    rw [hj, separateText_cons, AttributeValue.toAttributeValue_toValue, String.append_assoc]
  | @computed name e v codes new _ ih =>
    obtain ⟨texts, ht, hj⟩ := ih (fun e hm => hspread e (List.mem_cons_of_mem _ hm))
      (fun e hm => hget e (List.mem_cons_of_mem _ hm)) "" (k + 1)
    obtain ⟨before, hb, hbj⟩ := constantChunk_texts (n + 1) scope l₀ pending
    have hv := index_quietly hbase (hget (name, v) List.mem_cons_self)
    refine ⟨before ++ attributeText name v.toAttributeValue :: texts, ?_, ?_⟩
    · exact List.rel_append hb (.cons (computedAttribute_quietly hs h hc name k hv) ht)
    · simp [String.join_append, String.join_cons, hbj, hj, separateText_cons]
  | spread e => exact absurd List.mem_cons_self (hspread e)

lemma renderAttributes_quietly (hs : scope.In l₀) (h : l₀.Supports scope c.support)
    (hbase : Quietly l₀ (fun v => ∃ identity, v = .object identity fs) (expression (callWithin n) scope base)) :
    Quietly l₀ (· = .string (AttributeValues.normalize (Value.toAttributeValues fs)).render)
      (expression (callWithin n) scope (c.callWith "renderAttributes" [base])) := by
  refine support_quietly hs h .renderAttributes (items_one_quietly hbase) ?_
  rintro _ ⟨_, ⟨identity, rfl⟩, rfl⟩
  exact .pure rfl

lemma plainChunks_texts (hs : scope.In l₀) (h : l₀.Supports scope c.support) (hc : isTemporary c.support = false)
    (hbase : Quietly l₀ (· = .object identity (Entries.setAll [] new)) (expression (callWithin (n + 1)) scope base))
    (hg : Gathers codes new) (k : Nat) :
    ∃ texts, Texts (n + 1) scope l₀ (plainChunks c base codes k).1 texts ∧
      String.join texts = (AttributeValues.normalize (Value.toAttributeValues new)).render := by
  simp only [plainChunks]
  cases hv : staticValues? codes with
  | some values =>
    rw [toAttributeValues_static hv hg]
    exact constantChunk_texts (n + 1) scope l₀ _
  | none =>
    cases hm : needMerge codes with
    | true =>
      have hr := renderAttributes_quietly hs h (hbase.mono fun _ e => ⟨identity, e⟩)
      rw [Value.toAttributeValues_setAll] at hr
      exact ⟨[_], .cons hr .nil, by simp⟩
    | false =>
      obtain ⟨hspread, hn⟩ := not_needMerge hm hg
      rw [render_of_nodup hn]
      rw [Entries.setAll_nil_of_nodup hn] at hbase
      have ht := separateChunks_texts hs h hc hbase hg hspread (fun e he => Entries.get?_of_mem hn he) "" k
      simpa using ht

end StreamElement

end TemplateScript
