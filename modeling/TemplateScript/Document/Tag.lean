import TemplateScript.Fault

namespace TemplateScript

def voidTags : List String :=
  ["area", "base", "br", "col", "embed", "hr", "img", "input", "keygen", "link", "meta", "param",
    "source", "track", "wbr"]

def isVoidTag (tag : String) : Bool := voidTags.contains tag

def isComponentName (name : String) : Bool := name.toList.head?.any Char.isUpper

def checkTag (tag : String) (hasChildren : Bool) : Except Fault Unit :=
  if isComponentName tag then .error (.invalidTag tag)
  else if hasChildren && isVoidTag tag then .error (.voidElement tag)
  else .ok ()

end TemplateScript
