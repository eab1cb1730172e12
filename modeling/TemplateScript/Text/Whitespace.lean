namespace TemplateScript.Text

def isWhiteSpace (c : Char) : Bool :=
  let n := c.toNat
  (0x9 ≤ n && n ≤ 0xd) || n == 0x20 || n == 0x85 || n == 0xa0 || n == 0x1680 ||
    (0x2000 ≤ n && n ≤ 0x200a) || n == 0x2028 || n == 0x2029 || n == 0x202f || n == 0x205f || n == 0x3000

def dropEndWhile (p : Char → Bool) (cs : List Char) : List Char := (cs.reverse.dropWhile p).reverse

def trim (cs : List Char) : List Char := dropEndWhile isWhiteSpace (cs.dropWhile isWhiteSpace)

def lines : List Char → List (List Char)
  | [] => [[]]
  | c :: cs =>
    if c = '\n' then [] :: lines cs
    else match lines cs with
      | [] => [[c]]
      | line :: rest => (c :: line) :: rest

def dropReturn (line : List Char) : List Char :=
  if line.getLast? = some '\r' then line.dropLast else line

def isBlank (c : Char) : Bool := c == ' ' || c == '\t'

/-- Removes the blanks of each line that stand next to a line break. The first line of the list follows
a line break unless `first` holds. -/
def trimBreaks : (first : Bool) → List (List Char) → List (List Char)
  | _, [] => []
  | first, [line] => [if first then line else line.dropWhile isBlank]
  | first, line :: rest =>
    dropEndWhile isBlank (if first then line else line.dropWhile isBlank) :: trimBreaks false rest

/-- Folds the line breaks of a text: lines are trimmed where they meet a line break, empty lines are
dropped and single spaces join the others. -/
def foldBreaks (cs : List Char) : List Char :=
  [' '].intercalate ((trimBreaks true ((lines cs).map dropReturn)).filter (! ·.isEmpty))

end TemplateScript.Text
