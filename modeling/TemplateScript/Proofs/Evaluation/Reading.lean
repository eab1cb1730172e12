import TemplateScript.Proofs.Document.Children
import TemplateScript.Proofs.Evaluation.Correspondence

namespace TemplateScript

namespace Entries

variable {α β : Type} {R : α → β → Prop} {es : List (String × α)} {fs : List (String × β)}

lemma get?_related (h : List.Forall₂ (Entries.Rel R) es fs) (name : String) :
    Option.Rel R (get? name es) (get? name fs) := by
  induction h with
  | nil => exact .none
  | cons he _ ih =>
    obtain ⟨k, hv⟩ := he
    simp only [get?]
    split
    · exact .some hv
    · exact ih

lemma set_related (h : List.Forall₂ (Entries.Rel R) es fs) (name : String) {a : α} {b : β} (hv : R a b) :
    List.Forall₂ (Entries.Rel R) (set name a es) (set name b fs) := by
  induction h with
  | nil => exact .cons (.mk name hv) .nil
  | cons he hs ih =>
    obtain ⟨k, hw⟩ := he
    simp only [set]
    split
    · exact .cons (.mk k hv) hs
    · exact .cons (.mk k hw) ih

lemma setAll_related (h : List.Forall₂ (Entries.Rel R) es fs) {new : List (String × α)} {new' : List (String × β)}
    (hn : List.Forall₂ (Entries.Rel R) new new') :
    List.Forall₂ (Entries.Rel R) (setAll es new) (setAll fs new') := by
  induction hn generalizing es fs with
  | nil => exact h
  | cons he _ ih =>
    obtain ⟨k, hv⟩ := he
    exact ih (set_related h k hv)

end Entries

namespace Value.Match

variable {p : Pairing} {a a' b b' : Value}

lemma typeName_eq (h : Value.Match p a b) : a.typeName = b.typeName := by cases h <;> rfl

lemma isTruthy_eq (h : Value.Match p a b) : a.isTruthy = b.isTruthy := by cases h <;> rfl

mutual

lemma text_eq : {a b : Value} → Value.Match p a b → a.text = b.text
  | _, _, .array _ hs => by simp only [text, itemTexts_eq hs]
  | _, _, .undefined | _, _, .null | _, _, .bool _ | _, _, .number _ | _, _, .string _ | _, _, .object _ _
  | _, _, .closure _ _ _ _ | _, _, .native _ | _, _, .stream _ | _, _, .safe _ | _, _, .sink _
  | _, _, .builder _ => by simp only [text]
termination_by structural a => a

lemma itemTexts_eq : {xs ys : List Value} → List.Forall₂ (Value.Match p) xs ys → itemTexts xs = itemTexts ys
  | _, _, .nil => rfl
  | _, _, .cons h hs => by
    have ht := text_eq h
    have hr := itemTexts_eq hs
    cases h <;> simp only [itemTexts, ht, hr]
termination_by structural xs => xs

end

lemma addend?_eq (h : Value.Match p a b) : a.addend? = b.addend? := by cases h <;> rfl

lemma add (h : Value.Match p a a') (h' : Value.Match p b b') : Value.Match p (a.add b) (a'.add b') := by
  simp only [Value.add, h.addend?_eq, h'.addend?_eq, h.text_eq, h'.text_eq]
  split
  · exact .number _
  · exact .string _

lemma beq_eq {R : Nat → Nat → Prop} (h : Pairing.OneToOne R) {i j i' j' : Nat} (hi : R i j) (hi' : R i' j') :
    (i == i') = (j == j') := by
  rw [Bool.eq_iff_iff, beq_iff_eq, beq_iff_eq]
  exact h i j i' j' hi hi'

lemma strictEquals_eq (hi : Pairing.OneToOne p.identities) (hs : Pairing.OneToOne p.sinks) (h : Value.Match p a a')
    (h' : Value.Match p b b') : a.strictEquals b = a'.strictEquals b' := by
  cases h <;> cases h' <;>
    first
    | rfl
    | exact beq_eq hi (by assumption) (by assumption)
    | exact beq_eq hs (by assumption) (by assumption)

lemma string?_eq (h : Value.Match p a b) : a.string? = b.string? := by cases h <;> rfl

lemma toAttributeValue_eq (h : Value.Match p a b) : a.toAttributeValue = b.toAttributeValue := by
  have ht := h.text_eq
  cases h <;> simp_all only [toAttributeValue]

end Value.Match

namespace Fields.Match

variable {p : Pairing} {es fs : List (String × Value)}

lemma toAttributeValues_eq (h : Fields.Match p es fs) : Value.toAttributeValues es = Value.toAttributeValues fs := by
  have hm : es.map (fun e => (e.1, e.2.toAttributeValue)) = fs.map fun e => (e.1, e.2.toAttributeValue) := by
    induction h with
    | nil => rfl
    | cons he _ ih =>
      obtain ⟨k, hv⟩ := he
      simp only [List.map_cons, hv.toAttributeValue_eq, ih]
  exact congrArg OrderedMap.ofList hm

lemma stringField?_eq (h : Fields.Match p es fs) (name : String) :
    Value.stringField? name es = Value.stringField? name fs := by
  have hg := Entries.get?_related h name
  simp only [Value.stringField?]
  generalize Entries.get? name es = x at hg ⊢
  generalize Entries.get? name fs = y at hg ⊢
  cases hg with
  | none => rfl
  | some hv => exact hv.string?_eq

lemma elementAttributes?_eq (h : Fields.Match p es fs) :
    Value.elementAttributes? es = Value.elementAttributes? fs := by
  have hg := Entries.get?_related h "attributes"
  simp only [Value.elementAttributes?]
  generalize Entries.get? "attributes" es = x at hg ⊢
  generalize Entries.get? "attributes" fs = y at hg ⊢
  cases hg with
  | none => rfl
  | some hv => cases hv with
    | object _ hs => simp only [toAttributeValues_eq hs]
    | _ => rfl

lemma objectNode?_related (h : Fields.Match p es fs) {f g : Unit → Option (List Node)} (hc : f () = g ()) :
    Option.Rel (AnyNode.Rel (Value.Match p)) (Value.objectNode? es f) (Value.objectNode? fs g) := by
  simp only [Value.objectNode?, h.stringField?_eq, h.elementAttributes?_eq, hc]
  cases Value.stringField? "type" fs with
  | none => exact .none
  | some kind =>
    simp only [Option.bind_eq_bind, Option.bind_some]
    split
    · cases Value.stringField? "value" fs with
      | none => exact .none
      | some value => exact .some (.raw _)
    split
    · cases Value.stringField? "value" fs with
      | none => exact .none
      | some value => exact .some (.structured _)
    split
    · cases Value.stringField? "value" fs with
      | none => exact .none
      | some value => exact .some (.structured _)
    split
    · cases Value.elementAttributes? fs <;> cases g () <;> cases Value.stringField? "tag" fs <;>
        first | exact .none | exact .some (.structured _)
    · exact .none

end Fields.Match

namespace Value.Match

variable {p : Pairing}

mutual

lemma toNode?_related : {a b : Value} → Value.Match p a b →
    Option.Rel (AnyNode.Rel (Value.Match p)) a.toNode? b.toNode?
  | _, _, .stream h => by
    simp only [toNode?]
    exact .some (.stream h)
  | _, _, .object _ hs => by
    simp only [toNode?]
    exact Fields.Match.objectNode?_related hs (childTrees?_eq hs)
  | _, _, .undefined | _, _, .null | _, _, .bool _ | _, _, .number _ | _, _, .string _ | _, _, .array _ _
  | _, _, .closure _ _ _ _ | _, _, .native _ | _, _, .safe _ | _, _, .sink _ | _, _, .builder _ => by
    simp only [toNode?]
    exact .none
termination_by structural a => a

lemma childTrees?_eq : {es fs : List (String × Value)} → Fields.Match p es fs → childTrees? es = childTrees? fs
  | _, _, .nil => rfl
  | _, _, .cons (.mk name h) hs => by simp only [childTrees?, listedTrees?_eq h, childTrees?_eq hs]
termination_by structural es => es

lemma listedTrees?_eq : {a b : Value} → Value.Match p a b → a.listedTrees? = b.listedTrees?
  | _, _, .array _ hs => by simp only [listedTrees?, trees?_eq hs]
  | _, _, .undefined | _, _, .null | _, _, .bool _ | _, _, .number _ | _, _, .string _ | _, _, .object _ _
  | _, _, .closure _ _ _ _ | _, _, .native _ | _, _, .stream _ | _, _, .safe _ | _, _, .sink _
  | _, _, .builder _ => by simp only [listedTrees?]
termination_by structural a => a

lemma trees?_eq : {xs ys : List Value} → List.Forall₂ (Value.Match p) xs ys → trees? xs = trees? ys
  | _, _, .nil => rfl
  | _, _, .cons h hs => by
    have hn := toNode?_related h
    simp only [trees?, trees?_eq hs]
    generalize toNode? _ = x at hn ⊢
    generalize toNode? _ = y at hn ⊢
    cases hn with
    | none => rfl
    | some hr => cases hr <;> rfl
termination_by structural xs => xs

end

mutual

lemma toChild_related : {a b : Value} → Value.Match p a b →
    Child.Rel (AnyNode.Rel (Value.Match p)) a.toChild b.toChild
  | _, _, .undefined | _, _, .null => by
    simp only [toChild]
    exact .absent
  | _, _, .string value => by
    simp only [toChild]
    exact .text value
  | _, _, .number value => by
    simp only [toChild]
    exact .number value
  | _, _, .safe html => by
    simp only [toChild]
    exact .safe html
  | _, _, .array _ hs => by
    simp only [toChild]
    exact .list (toChildren_related hs)
  | _, _, .bool value => by
    cases value with
    | true =>
      simp only [toChild, toNode?]
      exact .invalid _
    | false =>
      simp only [toChild]
      exact .absent
  | _, _, .object hi hs => by
    have hn := toNode?_related (.object hi hs)
    simp only [toChild]
    generalize toNode? _ = x at hn ⊢
    generalize toNode? _ = y at hn ⊢
    cases hn with
    | none => exact .invalid _
    | some hr => exact .node hr
  | _, _, .stream h => by
    simp only [toChild, toNode?]
    exact .node (.stream h)
  | _, _, .closure _ _ _ _ | _, _, .native _ | _, _, .sink _ | _, _, .builder _ => by
    simp only [toChild, toNode?]
    exact .invalid _
termination_by structural a => a

lemma toChildren_related : {xs ys : List Value} → List.Forall₂ (Value.Match p) xs ys →
    List.Forall₂ (Child.Rel (AnyNode.Rel (Value.Match p))) (toChildren xs) (toChildren ys)
  | _, _, .nil => by
    simp only [toChildren]
    exact .nil
  | _, _, .cons h hs => by
    simp only [toChildren]
    exact .cons (toChild_related h) (toChildren_related hs)
termination_by structural xs => xs

end

end Value.Match

end TemplateScript
