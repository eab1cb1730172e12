namespace TemplateScript.Text

def isControl (c : Char) : Bool := c.toNat < 0x20 || (0x7f ≤ c.toNat && c.toNat < 0xa0)

def codePoint (c : Char) : List Char := '\\' :: 'u' :: '{' :: Nat.toDigits 16 c.toNat ++ ['}']

def quoteChar (c : Char) : List Char :=
  if c = '"' then ['\\', '"']
  else if c = '\\' then ['\\', '\\']
  else if c = '\n' then ['\\', 'n']
  else if c = '\r' then ['\\', 'r']
  else if c = '\t' then ['\\', 't']
  else if c = '\x00' then ['\\', '0']
  else if isControl c then codePoint c
  else [c]

def quoteContents (cs : List Char) : List Char := cs.flatMap quoteChar

def quote (s : String) : String := String.ofList ('"' :: quoteContents s.toList ++ ['"'])

def hexValue? (c : Char) : Option Nat :=
  if c.isDigit then some (c.toNat - '0'.toNat)
  else if 'a' ≤ c ∧ c ≤ 'f' then some (c.toNat - 'a'.toNat + 10)
  else if 'A' ≤ c ∧ c ≤ 'F' then some (c.toNat - 'A'.toNat + 10)
  else none

def readHexFrom? : Nat → List Char → Option Nat
  | n, [] => some n
  | n, c :: cs => (hexValue? c).bind fun d => readHexFrom? (16 * n + d) cs

def readHex? : List Char → Option Nat
  | [] => none
  | '+' :: [] => none
  | '+' :: cs => readHexFrom? 0 cs
  | cs => readHexFrom? 0 cs

def ofCodePoint? (digits : List Char) : Option Char :=
  (readHex? digits).bind fun n => if n.isValidChar then some (Char.ofNat n) else none

def escaped (c : Char) : Char :=
  if c = 'n' then '\n'
  else if c = 't' then '\t'
  else if c = 'r' then '\r'
  else if c = '0' then '\x00'
  else c

/-- Decodes the contents of a literal after passing over `skip` characters. A code point in braces
that names no character is read as the letter `u` and the braces as they stand; a backslash at the end
stands for itself. -/
def unescapeFrom : (skip : Nat) → List Char → List Char
  | _, [] => []
  | skip + 1, _ :: cs => unescapeFrom skip cs
  | 0, ['\\'] => ['\\']
  | 0, '\\' :: 'u' :: '{' :: cs =>
    let digits := cs.takeWhile (· != '}')
    match ofCodePoint? digits with
    | some c =>
      if digits.length < cs.length then c :: unescapeFrom (digits.length + 1) cs
      else 'u' :: unescapeFrom 0 ('{' :: cs)
    | none => 'u' :: unescapeFrom 0 ('{' :: cs)
  | 0, '\\' :: c :: cs => escaped c :: unescapeFrom 0 cs
  | 0, c :: cs => c :: unescapeFrom 0 cs

def unescape (cs : List Char) : List Char := unescapeFrom 0 cs

end TemplateScript.Text
