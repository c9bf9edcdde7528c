import ScriptLint.Text.CharClass

/-!
# Lines and how they are read

A line is the list of its characters. Rules read a line through *readers*: a reader looks at one
column and either takes something there or not. `Line.findFirst?` gives the leftmost column at which
a reader takes something, and `Line.findAll` reads a whole line from left to right, going on after
each thing it takes, so that no two of them overlap. Where a reader takes as much as it can and still
has to leave something for the next one, `Line.takeMany` tries the longest stretch first.
-/

namespace ScriptLint

/-- One line of a text, without what ends it. -/
abbrev Line := List Char

/-- A reader looks at one column of a line. It is given the text before the column, nearest
character first, and the text from the column on. -/
abbrev Reader (α : Type) := (before after : List Char) → Option α

namespace Line

variable {α : Type}

/-- The line without the blanks that it begins with. -/
def trimStart (line : Line) : Line := line.dropWhile isBlank

/-- The line without the blanks that it ends in. -/
def trimEnd (line : Line) : Line := (line.reverse.dropWhile isBlank).reverse

/-- The line without the blanks at both ends. -/
def trim (line : Line) : Line := trimEnd (trimStart line)

/-- The leftmost column from `column` on at which a reader takes something, and what it takes. -/
def findFirstFrom (read : Reader α) (column : Nat) (before : List Char) :
    List Char → Option (Nat × α)
  | [] => none
  | c :: rest =>
    match read before (c :: rest) with
    | some found => some (column, found)
    | none => findFirstFrom read (column + 1) (c :: before) rest

/-- The leftmost column at which a reader takes something, and what it takes. -/
def findFirst? (read : Reader α) (line : Line) : Option (Nat × α) := findFirstFrom read 0 [] line

/-- What a reader takes from `column` on, after `skip` columns that belong to what it took last. -/
def findAllFrom (width : α → Nat) (read : Reader α) (skip column : Nat) (before : List Char) :
    List Char → List (Nat × α)
  | [] => []
  | c :: rest =>
    match skip with
    | skip + 1 => findAllFrom width read skip (column + 1) (c :: before) rest
    | 0 =>
      match read before (c :: rest) with
      | some found =>
        (column, found) ::
          findAllFrom width read (width found - 1) (column + 1) (c :: before) rest
      | none => findAllFrom width read 0 (column + 1) (c :: before) rest

/-- What a reader takes from a line read left to right, each with its column. Reading goes on after
the `width` columns of what was taken. -/
def findAll (width : α → Nat) (read : Reader α) (line : Line) : List (Nat × α) :=
  findAllFrom width read 0 0 [] line

/-- Reads a fixed token. -/
def token (expected : List Char) : Reader Unit := fun _ after =>
  if expected.isPrefixOf after then some () else none

/-- The leftmost column at which a token stands in a line, or -1 if it stands at none. -/
def firstColumn (expected : List Char) (line : Line) : Int :=
  match findFirst? (token expected) line with
  | some (column, _) => column
  | none => -1

/-- The rightmost column from `column` on at which a token stands. -/
def findLastFrom (expected : List Char) (column : Nat) : List Char → Option Nat
  | [] => none
  | c :: rest =>
    match findLastFrom expected (column + 1) rest with
    | some found => some found
    | none => if expected.isPrefixOf (c :: rest) then some column else none

/-- The rightmost column at which a token stands in a line, or -1 if it stands at none. -/
def lastColumn (expected : List Char) (line : Line) : Int :=
  match findLastFrom expected 0 line with
  | some column => column
  | none => -1

/-- How often a token occurs in a line, counted left to right without overlap. The empty token
occurs before each character and at the end. -/
def occurrences (expected : List Char) (line : Line) : Nat :=
  if expected.isEmpty then line.length + 1
  else (findAll (fun _ => expected.length) (token expected) line).length

/-- Whether a word can begin after the text `before`. -/
def startsWord (before : List Char) : Bool := !(before.head?.any isWordChar)

/-- Whether a word that stands before the text `after` ends there. -/
def endsWord (after : List Char) : Bool := !(after.head?.any isWordChar)

/-- Reads a keyword that stands as a whole word. -/
def keyword (word : List Char) : Reader Unit := fun before after =>
  if startsWord before && word.isPrefixOf after && endsWord (after.drop word.length) then some ()
  else none

/-- Reads the whole of a run of characters of a class, at the column where the run begins. -/
def run (p : Char → Bool) : Reader (List Char) := fun before after =>
  let taken := after.takeWhile p
  if before.head?.any p || taken.isEmpty then none else some taken

/-- The maximal runs of characters of a class, each with its column. -/
def runs (p : Char → Bool) (line : Line) : List (Nat × List Char) :=
  findAll List.length (run p) line

/-- Takes characters of a class, all that there are at first, and gives them back one by one until
`next` can read what has to follow. `next` is given what was taken, nearest character first, with
`taken` from before. -/
def takeMany (p : Char → Bool) (next : List Char → Reader α) (taken : List Char) : Reader α
  | before, [] => next taken before []
  | before, c :: rest =>
    if p c then
      match takeMany p next (c :: taken) (c :: before) rest with
      | some found => some found
      | none => next taken before (c :: rest)
    else next taken before (c :: rest)

/-- Takes characters of a class as `takeMany` does, but does not give back the first. -/
def takeSome (p : Char → Bool) (next : List Char → Reader α) (taken : List Char) : Reader α
  | _, [] => none
  | before, c :: rest =>
    if p c then takeMany p next (c :: taken) (c :: before) rest else none

end Line

end ScriptLint
