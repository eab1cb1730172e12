import TemplateScript.Document.Builder

/-!
Children as they are handed to an element, before they are nodes: lists are flattened in place, absent
children dropped, and texts built with the builder of the element.
-/

namespace TemplateScript

inductive Child (N : Type) where
  | absent
  | text (value : String)
  | number (value : Number)
  | safe (html : String)
  | list (items : List (Child N))
  | node (built : N)
  | invalid (found : String)

namespace Child

variable {M N : Type}

mutual

def mapNodes (f : M → Except Fault N) : Child M → Except Fault (Child N)
  | .absent => .ok .absent
  | .text value => .ok (.text value)
  | .number value => .ok (.number value)
  | .safe html => .ok (.safe html)
  | .list items => do
    let items ← mapAll f items
    return .list items
  | .node n => do
    let n ← f n
    return .node n
  | .invalid found => .ok (.invalid found)

def mapAll (f : M → Except Fault N) : List (Child M) → Except Fault (List (Child N))
  | [] => .ok []
  | child :: children => do
    let child ← child.mapNodes f
    let children ← mapAll f children
    return child :: children

end

def readAll {α : Type} (read : α → Child M) (f : M → Except Fault N) :
    List α → Except Fault (List (Child N))
  | [] => .ok []
  | item :: items => do
    let child ← (read item).mapNodes f
    let children ← readAll read f items
    return child :: children

theorem readAll_eq_mapAll {α : Type} (read : α → Child M) (f : M → Except Fault N) (items : List α) :
    readAll read f items = mapAll f (items.map read) := by
  induction items with
  | nil => simp [readAll, mapAll]
  | cons item items ih => simp [readAll, mapAll, ih]

mutual

def nodes (b : Builder N) : Child N → Except Fault (List N)
  | .absent => .ok []
  | .text value => .ok [b.text value]
  | .number value => .ok [b.text value.text]
  | .safe html => .ok [b.prerendered html]
  | .list items => flatten b items
  | .node n => .ok [n]
  | .invalid found => .error (.invalidChild found)

def flatten (b : Builder N) : List (Child N) → Except Fault (List N)
  | [] => .ok []
  | child :: children => do
    let first ← child.nodes b
    let rest ← flatten b children
    return first ++ rest

end

end Child

end TemplateScript
