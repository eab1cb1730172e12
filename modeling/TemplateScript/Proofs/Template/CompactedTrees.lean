import TemplateScript.Proofs.Template.TemplateCode

namespace TemplateScript

open Evaluation

def IsTree (tree : Node) (node : AnyNode Value) : Prop := node = .structured tree

abbrev CompactsTo (tree node : Node) : Prop := node.compact = tree.compact

variable {c : Config} {s t : Store} {scope : Scope} {code : Expr} {D : Child Node → Prop} {v : Value} {tree : Node}

lemma leaves_isTree : Leaves (fun _ => IsTree) (Trees CompactsTo) where
  stands h := ⟨_, h, rfl⟩
  moves _ h := by
    cases h with
    | structured node => exact Iff.rfl
    | stream _ => simp [IsTree]
    | raw node => simp [IsTree]

lemma reading_compact (htarget : c.target = .structured) :
    Reading c (fun _ => true) structuredBuilder (Trees CompactsTo) (fun _ => IsTree) where
  view := .trees htarget treeView_compact
  leaves := leaves_isTree
  temporary h := absurd htarget h
  ordinary h := absurd htarget h

lemma Means.compact_eq (h : Means (Trees CompactsTo) s scope code D) (hs : s.Closed) (hv : Evaluates scope code s v t)
    (hnode : v.toNode? = some (.structured tree)) : ∃ shown, D (.node shown) ∧ tree.compact = shown.compact := by
  obtain ⟨child, hd⟩ := h.shows (.refl _ _) hs hv
  obtain ⟨w, u, hw, hread⟩ := h.runs (.refl _ _) hs hd
  obtain ⟨rfl, rfl⟩ := Yields.unique (expression_steady scope code) hv hw
  rw [Value.toChild_of_toNode? hnode] at hread
  cases hread with
  | node hshown =>
    obtain ⟨_, hnode, hcompact⟩ := hshown
    cases hnode
    exact ⟨_, hd, hcompact⟩

lemma Means.evaluates_tree (h : Means (Trees CompactsTo) s scope code D) (hs : s.Closed) (hd : D (.node tree)) :
    ∃ v t node, Evaluates scope code s v t ∧ v.toNode? = some (.structured node) ∧ node.compact = tree.compact := by
  obtain ⟨v, t, hv, hread⟩ := h.runs (.refl _ _) hs hd
  generalize hchild : v.toChild = child at hread
  cases hread with
  | node hshown =>
    obtain ⟨node, rfl, hcompact⟩ := hshown
    exact ⟨v, t, node, hv, Value.toNode?_of_toChild hchild, hcompact⟩

def treeWithin (n : Nat) (scope : Scope) (code : Expr) (s : Store) : Option Node :=
  match expression (callWithin n) scope code s with
  | .ok v _ => v.toNode?.bind fun
    | .structured tree => some tree
    | _ => none
  | .error _ _ => none

lemma evaluates_of_treeWithin {n : Nat} (h : treeWithin n scope code s = some tree) :
    ∃ v t, Evaluates scope code s v t ∧ v.toNode? = some (.structured tree) := by
  unfold treeWithin at h
  split at h
  · next v t hv =>
    obtain ⟨node, hnode, htree⟩ := Option.bind_eq_some_iff.1 h
    cases node with
    | structured tree' =>
      cases htree
      exact ⟨v, t, ⟨n, hv⟩, hnode⟩
    | _ => cases htree
  · cases h

/-- Optimized code of the structured target builds the tree of direct code, up to compaction. -/
theorem TemplateNode.optimizing_compact_eq (htarget : c.target = .structured) (node : TemplateNode)
    (hp : node.isProper (fun _ => true) c.support = true) (hset : Context c s scope) (hsuits : node.Suits IsTree s scope)
    {k : Nat} (hcode : ((Compile.expression { c with mode := .direct } (.markup node.toMarkup)).run k).1 = .ok code)
    (hv : Evaluates scope code s v t) (hnode : v.toNode? = some (.structured tree)) (l : Nat) :
    ∃ code' w u tree', ((Compile.expression { c with mode := .optimizing } (.markup node.toMarkup)).run l).1 = .ok code' ∧
      Evaluates scope code' s w u ∧ w.toNode? = some (.structured tree') ∧ tree'.compact = tree.compact := by
  have ends (mode : Mode) := Template.code (reading_compact (c := { c with mode }) htarget) (.markup node)
    (by simpa only [Template.isProper] using hp)
  simp only [Template.toExpr, Template.SuitsIn] at ends
  have hset' (mode : Mode) : Context { c with mode } s scope := ⟨hset.inStore, hset.closed, hset.supports⟩
  obtain ⟨hcheck, -, hdirect⟩ := (ends .direct k).of_ok hcode
  obtain ⟨shown, hshown, htree⟩ := (hdirect (hset' _) hsuits).compact_eq hset.closed hv hnode
  have hend := ends .optimizing l
  rw [hcheck] at hend
  obtain ⟨code', hcode', -, hoptimizing⟩ := hend.exists_ok
  obtain ⟨w, u, tree', hw, hnode', htree'⟩ := (hoptimizing (hset' _) hsuits).evaluates_tree hset.closed hshown
  exact ⟨code', w, u, tree', hcode', hw, hnode', htree'.trans htree.symm⟩

theorem TemplateNode.optimizing_compact_eq_paragraph :
    let c : Config := { target := .structured }
    let s := Store.ofSupport "_h"
    let node : TemplateNode := .element (.static "p") [.named "title" (some (.string "y")), .spread (.object [])]
      [.text "a", .container (.plain (.array [.single (.string "b")])), .element (.static "b") [] [.text "c"] false] false
    ∃ code v t tree, ((Compile.expression { c with mode := .direct } (.markup node.toMarkup)).run 0).1 = .ok code ∧
      Evaluates [0] code s v t ∧ v.toNode? = some (.structured tree) ∧
      ∃ code' w u tree', ((Compile.expression { c with mode := .optimizing } (.markup node.toMarkup)).run 0).1 = .ok code' ∧
        Evaluates [0] code' s w u ∧ w.toNode? = some (.structured tree') ∧ tree'.compact = tree.compact := by
  intro c s node
  have hset : Context c s [0] := ⟨Store.ofSupport_in _, Store.ofSupport_closed _, Store.ofSupport_supports _⟩
  have hsuits : node.Suits IsTree s [0] := by
    refine ⟨trivial, trivial, fun v t hv => ?_, ⟨trivial, trivial, trivial⟩, trivial⟩
    simp only [evaluates_array, itemsYield_single, itemsYield_nil, evaluates_string] at hv
    obtain ⟨_, _, ⟨_, _, _, ⟨rfl, rfl⟩, ⟨rfl, rfl⟩, rfl⟩, rfl, rfl⟩ := hv
    exact ⟨.list [.text "b"], .list (.cons (.text _) .nil)⟩
  let code := c.elementCall .structured (.string "p") [.static "title" (.string "y"), .spread (.object [])]
    [.text "a", .dynamic (.array [.single (.string "b")]),
      .dynamic (c.elementCall .structured (.string "b") [] [.text "c"])]
  have hcode : ((Compile.expression { c with mode := .direct } (.markup node.toMarkup)).run 0).1 = .ok code := rfl
  have hrun : (treeWithin 3 [0] code s).isSome := by decide +kernel
  obtain ⟨tree, htree⟩ := Option.isSome_iff_exists.1 hrun
  obtain ⟨v, t, hv, hnode⟩ := evaluates_of_treeWithin htree
  exact ⟨code, v, t, tree, hcode, hv, hnode,
    TemplateNode.optimizing_compact_eq rfl node (by decide) hset hsuits hcode hv hnode 0⟩

end TemplateScript
