/-!
# Character classes

The readers of this library look at source text through two families of classes. The ASCII classes
`isDigit`, `isWordChar` and `isSpace` decide where keywords, names and numerals begin and end; a
letter outside ASCII is no part of a word. `isBlank` is the wider Unicode class of white space, and
decides what the edges of a line are trimmed of.
-/

namespace ScriptLint

/-- A decimal digit of ASCII. -/
def isDigit (c : Char) : Bool := '0' ≤ c && c ≤ '9'

/-- A capital letter of ASCII. -/
def isUpper (c : Char) : Bool := 'A' ≤ c && c ≤ 'Z'

/-- A small letter of ASCII. -/
def isLower (c : Char) : Bool := 'a' ≤ c && c ≤ 'z'

/-- A character that a word is made of: an ASCII letter, an ASCII digit or the underscore. -/
def isWordChar (c : Char) : Bool := isLower c || isUpper c || isDigit c || c == '_'

/-- White space between tokens: the space and the five control characters from tab to carriage
return. -/
def isSpace (c : Char) : Bool := c == ' ' || (9 ≤ c.toNat && c.toNat ≤ 13)

/-- White space at the edge of a line: the space separators of Unicode, the line and paragraph
separators, and the control characters that separate lines or fields. The zero-width characters
are not among them. -/
def isBlank (c : Char) : Bool :=
  let n := c.toNat
  (9 ≤ n && n ≤ 13) || (0x1c ≤ n && n ≤ 0x20) || n == 0x85 || n == 0xa0 || n == 0x1680 ||
    (0x2000 ≤ n && n ≤ 0x200a) || n == 0x2028 || n == 0x2029 || n == 0x202f || n == 0x205f ||
    n == 0x3000

end ScriptLint
