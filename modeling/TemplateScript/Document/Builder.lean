import TemplateScript.Document.Node
import TemplateScript.Document.Stream

namespace TemplateScript

structure Builder (N : Type) where
  text : String → N
  prerendered : String → N
  element : String → AttributeValues → List N → Except Fault N

def Builder.content {N : Type} (b : Builder N) (value : String) (escape : Bool) : N :=
  if escape then b.text value else b.prerendered value

structure RawNode where
  html : String
  deriving DecidableEq

def structuredBuilder : Builder Node where
  text := .text
  prerendered := .prerendered
  element tag values children := do
    checkTag tag (!children.isEmpty)
    return .element tag values.normalize children

def rawBuilder : Builder RawNode where
  text value := ⟨escapeText value⟩
  prerendered html := ⟨html⟩
  element tag values children := do
    checkTag tag (!children.isEmpty)
    let close := if isVoidTag tag then "" else "</" ++ tag ++ ">"
    return ⟨"<" ++ tag ++ values.normalize.render ++ ">" ++ String.join (children.map RawNode.html) ++ close⟩

def streamBuilderWith (writePayload : String → Writing) {γ : Type} : Builder (StreamNode γ) where
  text value := .text (escapeText value)
  prerendered payload := .prerendered (writePayload payload)
  element tag values children := do
    checkTag tag (!children.isEmpty)
    return .element tag values.normalize children

def streamBuilder {γ : Type} : Builder (StreamNode γ) :=
  streamBuilderWith fun payload => ⟨[payload], none⟩

namespace Node

mutual

def rebuild {N : Type} (b : Builder N) : Node → Except Fault N
  | .text value => .ok (b.text value)
  | .prerendered html => .ok (b.prerendered html)
  | .element tag attributes children => do
    let children ← rebuildAll b children
    b.element tag attributes.values children

def rebuildAll {N : Type} (b : Builder N) : List Node → Except Fault (List N)
  | [] => .ok []
  | node :: nodes => do
    let node ← node.rebuild b
    let nodes ← rebuildAll b nodes
    return node :: nodes

end

def toHtml (node : Node) : Except Fault String := (node.rebuild rawBuilder).map RawNode.html

end Node

end TemplateScript
