import TemplateScript.Number.Basic

/-!
Numbers as decimal text. Writing never uses an exponent: an integer below `10 ^ 21` is written with
all its digits, every other finite number with the fewest digits that read back as the same number.
-/

namespace TemplateScript

attribute [local instance (2000)] instPowNat

namespace Number

structure Decimal where
  digits : Nat
  exponent : Int

def digitValue (c : Char) : Nat := c.toNat - '0'.toNat

def ofDigits (ds : List Char) : Nat := ds.foldl (fun n c => 10 * n + digitValue c) 0

def readSign : List Char → Bool × List Char
  | '-' :: cs => (true, cs)
  | '+' :: cs => (false, cs)
  | cs => (false, cs)

def readExponent? : List Char → Option Int
  | [] => some 0
  | c :: cs =>
    let (negative, ds) := readSign cs
    if (c == 'e' || c == 'E') && !ds.isEmpty && ds.all Char.isDigit then
      some (signed negative (ofDigits ds))
    else none

def readDecimal? (cs : List Char) : Option Decimal := do
  let whole := cs.takeWhile Char.isDigit
  let rest := cs.dropWhile Char.isDigit
  let (fraction, rest) := match rest with
    | '.' :: cs => (cs.takeWhile Char.isDigit, cs.dropWhile Char.isDigit)
    | cs => ([], cs)
  if whole.isEmpty && fraction.isEmpty then none
  else
    let exponent ← readExponent? rest
    return ⟨ofDigits (whole ++ fraction), exponent - fraction.length⟩

def ofText? (text : String) : Option Number :=
  let (negative, cs) := readSign text.toList
  let name := String.ofList (cs.map Char.toLower)
  if name = "nan" then some .nan
  else if name = "inf" ∨ name = "infinity" then some (.infinite negative)
  else (readDecimal? cs).map fun d => ofDecimal negative d.digits d.exponent

/-- How many digits the whole part has or, for a magnitude below one, minus the number of zeros that
follow the point. The magnitude is positive. -/
def magnitude (n : Nat) : Int :=
  if one ≤ n then (Nat.toDigits 10 (n / one)).length
  else match (List.range 324).find? fun j => one ≤ n * 10 ^ (j + 1) with
    | some j => -j
    | none => -324

/-- The interval of reals that round to the exact magnitude `n`: its ends in quarters of a unit, and
whether the ends belong to it. -/
def roundingInterval (n : Nat) : Nat × Nat × Bool :=
  let gap := 2 ^ spacing n
  let below := if n = 2 ^ (spacing n + 52) ∧ 0 < spacing n then gap else 2 * gap
  (4 * n - below, 4 * n + 2 * gap, n / gap % 2 == 0)

/-- The decimal with `count` digits that is nearest to the magnitude `n` among those that round to
it; of two equally near the larger. -/
def decimalWith? (n count : Nat) : Option Decimal :=
  let exponent := magnitude n - count
  let up := 10 ^ exponent.toNat
  let down := 10 ^ (-exponent).toNat
  let (low, high, closed) := roundingInterval n
  let position (c : Nat) := c * up * (4 * one)
  let inside (c : Nat) :=
    if closed then low * down ≤ position c ∧ position c ≤ high * down
    else low * down < position c ∧ position c < high * down
  let c := n * down / (one * up)
  let result (c : Nat) : Decimal := if c = 10 ^ count then ⟨1, magnitude n⟩ else ⟨c, exponent⟩
  if inside c ∧ inside (c + 1) then
    if 4 * n * down - position c < position (c + 1) - 4 * n * down then some (result c)
    else some (result (c + 1))
  else if inside c then some (result c)
  else if inside (c + 1) then some (result (c + 1))
  else none

def shortest (n : Nat) : Decimal :=
  ((List.range 17).findSome? fun k => decimalWith? n (k + 1)).getD ⟨n / one, 0⟩

def Decimal.text (d : Decimal) : String :=
  let ds := Nat.toDigits 10 d.digits
  let places := (-d.exponent).toNat
  if places = 0 then String.ofList (ds ++ List.replicate d.exponent.toNat '0')
  else if places < ds.length then
    String.ofList (ds.take (ds.length - places) ++ '.' :: ds.drop (ds.length - places))
  else String.ofList ('0' :: '.' :: List.replicate (places - ds.length) '0' ++ ds)

def magnitudeText (n : Nat) : String :=
  if n % one = 0 ∧ n < 10 ^ (21 : Nat) * one then String.ofList (Nat.toDigits 10 (n / one))
  else (shortest n).text

def text : Number → String
  | .nan => "NaN"
  | .infinite negative => if negative then "-Infinity" else "Infinity"
  | .finite u _ => if u < 0 then "-" ++ magnitudeText u.natAbs else magnitudeText u.natAbs

end Number

end TemplateScript
