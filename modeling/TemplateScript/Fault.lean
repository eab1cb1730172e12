namespace TemplateScript

/-- The three forms in which a document is built: as a tree, as an action that writes it, or as its
finished text. -/
inductive Representation where
  | structured
  | stream
  | raw
  deriving DecidableEq

namespace Representation

def all : List Representation := [.structured, .stream, .raw]

def name : Representation → String
  | .structured => "structured"
  | .stream => "stream"
  | .raw => "raw"

def ofName? (s : String) : Option Representation := all.find? fun r => r.name == s

def supportsLiterals : Representation → Bool
  | .structured | .raw => true
  | .stream => false

end Representation

inductive TypeFault where
  | notIterable (found : String)
  | cannotSpread (found : String)
  | notCallable (found : String)
  | cannotCall (method found : String)
  | cannotRead (property found : String)
  | noMethod (found method : String)
  | noBuilderMethod (representation : Representation) (method : String)
  | attributesExpected (found : String)
  | nodeExpected (found : String)
  | builderExpected (found : String)
  | tagExpected (found : String)
  | sinkExpected
  | nestedImport (path : String)
  | markupLeft
  | custom (message : String)
  deriving DecidableEq

def TypeFault.message : TypeFault → String
  | .notIterable found => found ++ " is not iterable"
  | .cannotSpread found => "cannot spread " ++ found
  | .notCallable found => found ++ " is not a function"
  | .cannotCall method found => "cannot call " ++ method ++ " on " ++ found
  | .cannotRead property found => "cannot read " ++ property ++ " of " ++ found
  | .noMethod found method => found ++ " has no method " ++ method
  | .noBuilderMethod representation method =>
    "the " ++ representation.name ++ " builder has no method " ++ method
  | .attributesExpected found => "attributes must be an object, received " ++ found
  | .nodeExpected found => "addItems expects a node, received " ++ found
  | .builderExpected found => "normalizeChildren expects a builder, received " ++ found
  | .tagExpected found => "element expects a tag name, received " ++ found
  | .sinkExpected => "render expects a sink"
  | .nestedImport path => "import of " ++ path ++ " is only allowed at the top level"
  | .markupLeft => "markup literals must be compiled before evaluation"
  | .custom message => message

inductive Fault where
  | invalidChild (found : String)
  | invalidTag (tag : String)
  | voidElement (tag : String)
  | notAnElement
  | prerendered
  | unsupported (representation : Representation)
  | representationMismatch (expected found : Representation)
  | type (fault : TypeFault)
  | unbound (name : String)
  | unknownModule (path : String)
  deriving DecidableEq

def Fault.message : Fault → String
  | .invalidChild found => "invalid child of type " ++ found
  | .invalidTag tag => tag ++ " is a macro name and cannot be used as an element tag"
  | .voidElement tag => "void element <" ++ tag ++ "> cannot have children"
  | .notAnElement => "cannot add attributes or children to a non-element"
  | .prerendered => "cannot add attributes or children to a prerendered node"
  | .unsupported representation =>
    "the " ++ representation.name ++ " representation does not support adding items"
  | .representationMismatch expected found =>
    "expected a " ++ expected.name ++ " node but received a " ++ found.name ++ " node"
  | .type fault => "type error: " ++ fault.message
  | .unbound name => name ++ " is not defined"
  | .unknownModule path => "unknown module " ++ path

end TemplateScript
