import TemplateScript.Data.OrderedMap
import TemplateScript.Number.Decimal

/-!
Attributes. An author's value is normalized before it enters a document: `true` leaves a bare name,
strings and numbers leave a text, and everything else drops the attribute.
-/

namespace TemplateScript

inductive AttributeValue where
  | string (value : String)
  | number (value : Number)
  | bool (value : Bool)
  | null
  | undefined
  deriving DecidableEq

inductive Attribute where
  | bare
  | text (value : String)
  deriving DecidableEq

abbrev AttributeValues := OrderedMap AttributeValue

abbrev Attributes := OrderedMap Attribute

def escapeChar (c : Char) : List Char :=
  if c = '&' then ['&', 'a', 'm', 'p', ';']
  else if c = '<' then ['&', 'l', 't', ';']
  else if c = '>' then ['&', 'g', 't', ';']
  else if c = '"' then ['&', 'q', 'u', 'o', 't', ';']
  else if c = '\'' then ['&', '#', '3', '9', ';']
  else [c]

def escapeText (s : String) : String := String.ofList (s.toList.flatMap escapeChar)

def AttributeValue.normalize : AttributeValue → Option Attribute
  | .bool true => some .bare
  | .bool false | .null | .undefined => none
  | .string s => some (.text s)
  | .number n => some (.text n.text)

def Attribute.value : Attribute → AttributeValue
  | .bare => .bool true
  | .text s => .string s

theorem Attribute.normalize_value (a : Attribute) : a.value.normalize = some a := by
  cases a <;> rfl

def AttributeValues.normalize (values : AttributeValues) : Attributes :=
  values.choose AttributeValue.normalize

def Attributes.values (attributes : Attributes) : AttributeValues := attributes.map Attribute.value

def Attribute.render (name : String) : Attribute → String
  | .bare => " " ++ name
  | .text s => " " ++ name ++ "=\"" ++ escapeText s ++ "\""

def Attributes.render (attributes : Attributes) : String :=
  String.join (attributes.entries.map fun (name, a) => a.render name)

/-- Sets the values of `extra` over those of the document. A value of `extra` that normalizes to nothing
takes the attribute away. -/
def Attributes.merge (attributes : Attributes) (extra : AttributeValues) : AttributeValues :=
  attributes.values.setAll extra

end TemplateScript
