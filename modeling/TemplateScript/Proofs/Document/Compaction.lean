import Mathlib.Tactic.Common
import TemplateScript.Document.Node

namespace TemplateScript

namespace Node

def Joined : List Node → Prop
  | [] => True
  | .text s :: nodes => s ≠ "" ∧ (∀ t, nodes.head? ≠ some (.text t)) ∧ Joined nodes
  | _ :: nodes => Joined nodes

lemma Joined.tail {node : Node} {nodes : List Node} (h : Joined (node :: nodes)) : Joined nodes := by
  cases node with
  | text s => exact h.2.2
  | prerendered html => exact h
  | element tag attributes children => exact h

lemma joined_consText {s : String} (hs : s ≠ "") {nodes : List Node} (h : Joined nodes) : Joined (consText s nodes) := by
  cases nodes with
  | nil => exact ⟨hs, by simp, trivial⟩
  | cons node nodes =>
    cases node with
    | text t => exact ⟨by simp [hs], h.2.1, h.2.2⟩
    | prerendered html => exact ⟨hs, by simp, h⟩
    | element tag attributes children => exact ⟨hs, by simp, h⟩

lemma joined_joinTexts (nodes : List Node) : Joined (joinTexts nodes) := by
  induction nodes with
  | nil => exact trivial
  | cons node nodes ih =>
    cases node with
    | text s =>
      simp only [joinTexts]
      split
      · exact ih
      · next hs => exact joined_consText hs ih
    | prerendered html => exact ih
    | element tag attributes children => exact ih

lemma consText_eq_cons {s : String} {nodes : List Node} (h : ∀ t, nodes.head? ≠ some (.text t)) :
    consText s nodes = .text s :: nodes := by
  cases nodes with
  | nil => rfl
  | cons node nodes =>
    cases node with
    | text t => exact absurd rfl (h t)
    | prerendered html => rfl
    | element tag attributes children => rfl

lemma joinTexts_of_joined {nodes : List Node} (h : Joined nodes) : joinTexts nodes = nodes := by
  induction nodes with
  | nil => rfl
  | cons node nodes ih =>
    cases node with
    | text s =>
      obtain ⟨hs, hnext, hj⟩ := h
      rw [joinTexts, if_neg hs, ih hj, consText_eq_cons hnext]
    | prerendered html => rw [joinTexts, ih h]; simp
    | element tag attributes children => rw [joinTexts, ih h]; simp

@[simp]
lemma joinTexts_joinTexts (nodes : List Node) : joinTexts (joinTexts nodes) = joinTexts nodes :=
  joinTexts_of_joined (joined_joinTexts nodes)

lemma compactAll_eq_map (nodes : List Node) : compactAll nodes = nodes.map compact := by
  induction nodes with
  | nil => simp only [compactAll, List.map_nil]
  | cons node nodes ih => simp only [compactAll, List.map_cons, ih]

lemma compact_element (tag : String) (attributes : Attributes) (children : List Node) :
    (Node.element tag attributes children).compact = .element tag attributes (joinTexts (children.map compact)) := by
  rw [compact, compactAll_eq_map]

@[simp]
lemma compact_text (s : String) : (Node.text s).compact = .text s := by simp only [compact]

@[simp]
lemma compact_prerendered (html : String) : (Node.prerendered html).compact = .prerendered html := by simp only [compact]

lemma map_compact_consText (s : String) (nodes : List Node) :
    (consText s nodes).map compact = consText s (nodes.map compact) := by
  cases nodes with
  | nil => simp [consText]
  | cons node nodes => cases node <;> simp [consText, compact_element]

lemma map_compact_joinTexts (nodes : List Node) : (joinTexts nodes).map compact = joinTexts (nodes.map compact) := by
  induction nodes with
  | nil => rfl
  | cons node nodes ih =>
    cases node with
    | text s =>
      simp only [joinTexts, List.map_cons, compact_text]
      split
      · exact ih
      · rw [map_compact_consText, ih]
    | prerendered html => simp [joinTexts, ih]
    | element tag attributes children => simp [joinTexts, compact_element, ih]

mutual

lemma compact_compact : (node : Node) → node.compact.compact = node.compact
  | .text s => by simp
  | .prerendered html => by simp
  | .element tag attributes children => by
    rw [compact_element, compact_element, map_compact_joinTexts, map_compact_compact children, joinTexts_joinTexts]

lemma map_compact_compact : (nodes : List Node) → (nodes.map compact).map compact = nodes.map compact
  | [] => rfl
  | node :: nodes => by simp only [List.map_cons, compact_compact node, map_compact_compact nodes]

end

lemma mem_consText {s : String} {node : Node} {nodes : List Node} (h : node ∈ consText s nodes) :
    (∃ t, node = .text t) ∨ node ∈ nodes := by
  cases nodes with
  | nil => exact .inl ⟨s, by simpa [consText] using h⟩
  | cons first nodes =>
    cases first with
    | text t =>
      rcases List.mem_cons.1 h with rfl | h
      · exact .inl ⟨_, rfl⟩
      · exact .inr (List.mem_cons_of_mem _ h)
    | prerendered html => exact (List.mem_cons.1 h).imp (fun e => ⟨s, e⟩) id
    | element tag attributes children => exact (List.mem_cons.1 h).imp (fun e => ⟨s, e⟩) id

lemma mem_joinTexts {node : Node} {nodes : List Node} (h : node ∈ joinTexts nodes) :
    (∃ t, node = .text t) ∨ node ∈ nodes := by
  induction nodes with
  | nil => simp [joinTexts] at h
  | cons first nodes ih =>
    have hrest (hm : node ∈ joinTexts nodes) : (∃ t, node = .text t) ∨ node ∈ first :: nodes :=
      (ih hm).imp id (List.mem_cons_of_mem _)
    cases first with
    | text s =>
      simp only [joinTexts] at h
      split at h
      · exact hrest h
      · exact (mem_consText h).elim .inl hrest
    | prerendered html => exact (List.mem_cons.1 h).elim (fun e => .inr (e ▸ List.mem_cons_self)) hrest
    | element tag attributes children => exact (List.mem_cons.1 h).elim (fun e => .inr (e ▸ List.mem_cons_self)) hrest

lemma children_of_compact {tag : String} {attributes : Attributes} {children : List Node}
    (h : (Node.element tag attributes children).compact = .element tag attributes children) :
    Joined children ∧ ∀ child ∈ children, child.compact = child := by
  rw [compact_element, Node.element.injEq] at h
  rw [← h.2.2]
  refine ⟨joined_joinTexts _, fun child hm => ?_⟩
  rcases mem_joinTexts hm with ⟨t, rfl⟩ | hm
  · simp
  · obtain ⟨node, -, rfl⟩ := List.mem_map.1 hm
    exact node.compact_compact

end Node

end TemplateScript
