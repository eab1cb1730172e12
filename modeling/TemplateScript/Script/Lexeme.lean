import TemplateScript.Number.Decimal
import TemplateScript.Text.Quoted

namespace TemplateScript

abbrev Reader (α : Type) := List Char → Option (α × List Char)

namespace Lexeme

def isNameStart (c : Char) : Bool := c.isAlpha || c == '_' || c == '$'

def isNameChar (c : Char) : Bool := c.isAlphanum || c == '_' || c == '$'

def isTagStart (c : Char) : Bool := c.isAlpha || c == '_'

def isTagChar (c : Char) : Bool := c.isAlphanum || c == '_' || c == '-' || c == '.' || c == ':'

def isAttributeStart (c : Char) : Bool := c.isAlpha || c == '_' || c == ':'

def isWord (start more : Char → Bool) : List Char → Bool
  | [] => false
  | c :: cs => start c && cs.all more

def isName (s : String) : Bool := isWord isNameStart isNameChar s.toList

def reserved : List String :=
  ["const", "let", "if", "else", "for", "return", "import", "true", "false", "null", "undefined"]

def isIdentifier (s : String) : Bool := isName s && !reserved.contains s

def isTagName (s : String) : Bool :=
  match s.toList with
  | '$' :: cs => isWord isTagStart isTagChar cs
  | cs => isWord isTagStart isTagChar cs

def isAttributeName (s : String) : Bool := isWord isAttributeStart isTagChar s.toList

mutual

/-- Passes over blanks and comments. A comment that is never closed is no comment. -/
def skip : List Char → List Char
  | ' ' :: cs => skip cs
  | '\t' :: cs => skip cs
  | '\r' :: cs => skip cs
  | '\n' :: cs => skip cs
  | '/' :: '/' :: cs => skipLine cs
  | '/' :: '*' :: cs => (skipComment? cs).getD ('/' :: '*' :: cs)
  | cs => cs

def skipLine : List Char → List Char
  | [] => []
  | '\n' :: cs => skip cs
  | '\r' :: cs => skip cs
  | _ :: cs => skipLine cs

def skipComment? : List Char → Option (List Char)
  | [] => none
  | '*' :: '/' :: cs => some (skip cs)
  | _ :: cs => skipComment? cs

end

def strip? : List Char → List Char → Option (List Char)
  | [], cs => some cs
  | _ :: _, [] => none
  | p :: ps, c :: cs => if p = c then strip? ps cs else none

def symbol (s : String) (cs : List Char) : Option (List Char) := strip? s.toList (skip cs)

def word (start more : Char → Bool) : Reader String
  | [] => none
  | c :: cs =>
    if start c then some (String.ofList (c :: cs.takeWhile more), cs.dropWhile more) else none

def propertyName (cs : List Char) : Option (String × List Char) :=
  word isNameStart isNameChar (skip cs)

def identifier (cs : List Char) : Option (String × List Char) := do
  let (name, cs) ← propertyName cs
  if reserved.contains name then none else some (name, cs)

def keyword (s : String) (cs : List Char) : Option (List Char) := do
  let (name, cs) ← propertyName cs
  if name = s then some cs else none

def attributeName (cs : List Char) : Option (String × List Char) :=
  word isAttributeStart isTagChar (skip cs)

def tagName (cs : List Char) : Option (String × List Char) :=
  match skip cs with
  | '$' :: cs => (word isTagStart isTagChar cs).map fun (name, cs) => ("$" ++ name, cs)
  | cs => word isTagStart isTagChar cs

def number (cs : List Char) : Option (Number × List Char) :=
  let cs := skip cs
  let whole := cs.takeWhile Char.isDigit
  let rest := cs.dropWhile Char.isDigit
  if whole.isEmpty then none
  else
    let fraction := match rest with
      | '.' :: cs => cs.takeWhile Char.isDigit
      | _ => []
    if fraction.isEmpty then some (Number.ofDecimal false (Number.ofDigits whole) 0, rest)
    else some (Number.ofDecimal false (Number.ofDigits (whole ++ fraction)) (-fraction.length),
      rest.drop (fraction.length + 1))

def contents (quote : Char) : Reader (List Char)
  | [] => none
  | ['\\'] => none
  | '\\' :: c :: cs => (contents quote cs).map fun (body, rest) => ('\\' :: c :: body, rest)
  | c :: cs =>
    if c = quote then some ([], cs)
    else (contents quote cs).map fun (body, rest) => (c :: body, rest)

def literalHere : Reader (String × String)
  | [] => none
  | quote :: cs =>
    if quote = '"' ∨ quote = '\'' then
      (contents quote cs).map fun (body, rest) =>
        ((String.ofList (Text.unescape body), String.ofList (quote :: body ++ [quote])), rest)
    else none

def stringLiteral (cs : List Char) : Option ((String × String) × List Char) :=
  literalHere (skip cs)

end Lexeme

def Reader.many {α : Type} (p : Reader α) : Nat → Reader (List α)
  | 0, cs => some ([], cs)
  | n + 1, cs =>
    match p cs with
    | none => some ([], cs)
    | some (a, cs) => (many p n cs).map fun (as, cs) => (a :: as, cs)

def Reader.commaSeparated {α : Type} (p : Reader α) (n : Nat) : Reader (List α) := fun cs =>
  match p cs with
  | none => some ([], cs)
  | some (a, cs) => do
    let (as, cs) ← many (fun cs => (Lexeme.symbol "," cs).bind p) n cs
    return (a :: as, (Lexeme.symbol "," cs).getD cs)

end TemplateScript
