/-!
# Paths

A path is a list of components, after a root when it is absolute. A component that names the
directory it is in is left out, and so are empty ones; one that names the directory above is kept,
since what it leads to depends on the files.
-/

namespace ScriptLint

/-- A path to a file or a directory. -/
structure Path where
  /-- What an absolute path begins with; nothing, if the path is relative. -/
  root : String
  components : List String
  deriving DecidableEq, Repr

namespace Path

/-- What a path with so many slashes in front is relative to. Exactly two of them are a root of
their own. -/
def rootOf : Nat → String
  | 0 => ""
  | 2 => "//"
  | _ => "/"

/-- The components of a path without its root. -/
def split (text : List Char) : List String :=
  ((text.splitOn '/').map String.ofList).filter fun name => name ≠ "" && name ≠ "."

/-- The path that a text stands for. -/
def ofString (text : String) : Path :=
  ⟨rootOf (text.toList.takeWhile (· == '/')).length, split text.toList⟩

/-- The path in its shortest form; the current directory is a single dot. -/
def display (p : Path) : String :=
  let shown := p.root ++ "/".intercalate p.components
  if shown = "" then "." else shown

/-- The most bytes that a path leads anywhere with. -/
def maxBytes : Nat := 4095

/-- The most bytes that the name of a file or a directory has. -/
def maxNameBytes : Nat := 255

/-- Whether a path is too long to lead anywhere. -/
def isTooLong (p : Path) : Bool := maxBytes < p.display.utf8ByteSize

/-- Whether a name is too long to be that of a file or a directory. -/
def isLongName (name : String) : Bool := maxNameBytes < name.utf8ByteSize

/-- The path of something in the directory that a path leads to. -/
def child (p : Path) (name : String) : Path := { p with components := p.components ++ [name] }

/-- What the names of source files end in. -/
def sourceSuffix : List Char := ['.', 'c', 's', 'c']

/-- Whether a name is that of a source file. -/
def isSourceName (name : String) : Bool := sourceSuffix.isSuffixOf name.toList

/-- Whether a path leads to something with the name of a source file. -/
def isSource (p : Path) : Bool := p.components.getLast?.any isSourceName

/-- Whether components may stand before others: the first two that differ decide, and what leads to
a directory stands before what is in it. -/
def componentsPrecede : List String → List String → Bool
  | [], _ => true
  | _ :: _, [] => false
  | a :: as, b :: bs => if a = b then componentsPrecede as bs else a < b

/-- Whether a path may stand before another in a list of files. -/
def precedes (p q : Path) : Bool := componentsPrecede p.components q.components

end Path

end ScriptLint
