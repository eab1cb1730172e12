import TemplateScript.Evaluation.Value
import TemplateScript.Text.Hidden

namespace TemplateScript

def LeafKind.inspect : LeafKind → String
  | .text => "Text"
  | .prerendered => "Prerendered"
  | .element tag => "Element(" ++ Text.showQuoted tag ++ ")"

def StreamNode.inspect {γ : Type} : StreamNode γ → String
  | .patched base _ _ => "Patched \x7b base: " ++ base.inspect ++ " \x7d"
  | leaf => "Leaf \x7b kind: " ++ leaf.kind.inspect ++ " \x7d"

namespace Value

mutual

def inspect : Value → String
  | .string s => Text.showQuoted s
  | .array _ items => "[" ++ ", ".intercalate (inspectItems items) ++ "]"
  | .object _ fields => "\x7b" ++ ", ".intercalate (inspectFields fields) ++ "\x7d"
  | .native f => "[native " ++ f.name ++ "]"
  | .stream node => node.inspect
  | .builder r => "[builder " ++ r.name ++ "]"
  | other => other.text

def inspectItems : List Value → List String
  | [] => []
  | item :: items => item.inspect :: inspectItems items

def inspectFields : List (String × Value) → List String
  | [] => []
  | (name, value) :: fields => (Text.showQuoted name ++ ": " ++ value.inspect) :: inspectFields fields

end

end Value

end TemplateScript
