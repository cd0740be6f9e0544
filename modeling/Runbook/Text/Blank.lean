/-!
Blank characters and the text left when they are cut off the ends. A line of a
script, a number and a setting all use the same notion of blank: the Unicode
characters that separate words or lines, together with the four ASCII
separators from U+001C to U+001F.
-/

namespace Runbook.Text

/-- The characters that count as blank when text is stripped or split into
words. -/
def isBlank (c : Char) : Bool :=
  let code := c.toNat
  (9 ≤ code && code ≤ 13) || (28 ≤ code && code ≤ 32) || code == 0x85 ||
    code == 0xA0 || code == 0x1680 || (0x2000 ≤ code && code ≤ 0x200A) ||
    code == 0x2028 || code == 0x2029 || code == 0x202F || code == 0x205F ||
    code == 0x3000

def stripLeft (text : List Char) : List Char := text.dropWhile isBlank

/-- Cut the longest run of characters satisfying `drop` off the end. -/
def dropEndWhile (drop : Char → Bool) : List Char → List Char
  | [] => []
  | c :: rest =>
      match dropEndWhile drop rest with
      | [] => if drop c then [] else [c]
      | kept => c :: kept

def stripRight (text : List Char) : List Char := dropEndWhile isBlank text

def strip (text : List Char) : List Char := stripRight (stripLeft text)

/-- The maximal runs of characters that are not blank. -/
def words (text : List Char) : List (List Char) :=
  let rec collect : List Char → List Char → List (List Char)
    | current, [] => if current.isEmpty then [] else [current.reverse]
    | current, c :: rest =>
        if isBlank c then
          if current.isEmpty then collect [] rest
          else current.reverse :: collect [] rest
        else collect (c :: current) rest
  collect [] text

/-- The text up to the first blank after leading blanks. -/
def firstWord (text : List Char) : List Char :=
  (stripLeft text).takeWhile fun c => !isBlank c

end Runbook.Text
