import TemplateScript.Fault

namespace TemplateScript

inductive Mode where
  | direct
  | optimizing
  deriving DecidableEq

namespace Mode

def all : List Mode := [.direct, .optimizing]

def name : Mode → String
  | .direct => "direct"
  | .optimizing => "optimizing"

def ofName? (s : String) : Option Mode := all.find? fun m => m.name == s

end Mode

structure Config where
  target : Representation := .raw
  mode : Mode := .optimizing
  /-- The name by which generated code refers to the support module. -/
  support : String := "_h"
  importPath : Option String := none

inductive CompileError where
  | voidElementChildren (tag : String)
  | componentTag (tag : String)
  | constantElement (fault : Fault)
  deriving DecidableEq

def CompileError.message : CompileError → String
  | .voidElementChildren tag => "void element <" ++ tag ++ "> cannot have children"
  | .componentTag tag => tag ++ " is a macro name and cannot be used as a plain tag"
  | .constantElement fault => "cannot build constant markup: " ++ fault.message

end TemplateScript
