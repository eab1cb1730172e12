import TemplateScript.Document.Attribute

namespace TemplateScript

inductive Node where
  | text (value : String)
  | prerendered (html : String)
  | element (tag : String) (attributes : Attributes) (children : List Node)

namespace Node

def isElement : Node → Bool
  | .element .. => true
  | _ => false

def consText (s : String) : List Node → List Node
  | .text t :: nodes => .text (s ++ t) :: nodes
  | nodes => .text s :: nodes

def joinTexts : List Node → List Node
  | [] => []
  | .text s :: nodes => if s = "" then joinTexts nodes else consText s (joinTexts nodes)
  | node :: nodes => node :: joinTexts nodes

mutual

def compact : Node → Node
  | .element tag attributes children => .element tag attributes (joinTexts (compactAll children))
  | node => node

def compactAll : List Node → List Node
  | [] => []
  | node :: nodes => node.compact :: compactAll nodes

end

end Node

end TemplateScript
