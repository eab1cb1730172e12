import TemplateScript.Evaluation.Support

/-!
Rendering nodes and values. A generated leaf runs its function with the sink that the node is rendered
into, if that sink is a value of the language; otherwise it writes into a sink of its own, whose
contents count as one piece of text once the function has ended without a fault.
-/

namespace TemplateScript

abbrev Call := Value → List Value → Eval Value

namespace StreamNode

def sharedSink (call : Call) (place : Nat) : Sink Value Halt Store where
  write chunk s := { s with sinks := s.sinks.modify place (· ++ chunk) }
  run code e := do
    let extension ← e.toValue
    let _ ← call code [.sink place, extension]
  fail := .fault

def renderShared (call : Call) (place : Nat) (node : StreamNode Value) : Eval Unit :=
  node.render (sharedSink call place)

def leafText (call : Call) (code : Value) (e : Extension (StreamNode Value)) : Eval String := do
  let place ← Eval.newSink ""
  let extension ← e.toValue
  let _ ← call code [.sink place, extension]
  Eval.sinkContents place

def outsideSink {τ : Type} (append : τ → String → τ) (call : Call) : Sink Value Halt (Store × τ) where
  write chunk := fun (s, out) => (s, append out chunk)
  run code e := fun (s, out) =>
    match leafText call code e s with
    | .ok written s => .ok () (s, append out written)
    | .error halt s => .error halt (s, out)
  fail := .fault

def renderOutside {τ : Type} (append : τ → String → τ) (call : Call) (node : StreamNode Value) :
    EStateM Halt (Store × τ) Unit :=
  node.render (outsideSink append call)

def materialize (call : Call) (node : StreamNode Value) : Eval String := fun s =>
  match renderOutside (· ++ ·) call node (s, "") with
  | .ok _ (s, out) => .ok out s
  | .error halt (s, _) => .error halt s

end StreamNode

def AnyNode.toHtml (call : Call) : AnyNode Value → Eval String
  | .structured node => Eval.ofExcept node.toHtml
  | .stream node => node.materialize call
  | .raw node => return node.html

namespace Child

mutual

def toHtml (call : Call) : Child (AnyNode Value) → Eval String
  | .absent => return ""
  | .text value => return escapeText value
  | .number value => return escapeText value.text
  | .safe html => return html
  | .list items => return String.join (← toHtmls call items)
  | .node n => n.toHtml call
  | .invalid found => Eval.fail (.invalidChild found)

def toHtmls (call : Call) : List (Child (AnyNode Value)) → Eval (List String)
  | [] => return []
  | child :: children => return (← child.toHtml call) :: (← toHtmls call children)

end

end Child

namespace Value

def render (call : Call) (value : Value) : Eval String := value.toChild.toHtml call

def callMethod (call : Call) (receiver : Value) (name : String) (arguments : List Value) :
    Eval Value :=
  let missing := Eval.failType (.noMethod receiver.typeName name)
  match receiver with
  | .builder r => r.method name arguments
  | .stream node =>
    if name = "render" then
      match arguments.head? with
      | some (.sink place) => do
        node.renderShared call place
        return .undefined
      | _ => Eval.failType .sinkExpected
    else missing
  | .sink place =>
    if name = "write" then do
      Eval.writeSink place (Support.first arguments).text
      return .undefined
    else missing
  | _ => missing

end Value

end TemplateScript
