import ScriptLint.Batch.Path
import ScriptLint.Fault

/-!
# File trees

The files that a batch scan sees, as a value. `Tree.locate` follows a path from a directory, and
`Tree.sourceFiles` lists the files that are to be scanned for what a path leads to: a file itself,
whatever its name, or every source file below a directory, ordered by path. A path or a name that is
too long is a fault where it is looked up, and not where something before it is missing.
-/

namespace ScriptLint

/-- A file or a directory. -/
inductive Tree where
  | file (content : List UInt8)
  | directory (children : List (String × Tree))

/-- A file that is to be scanned. -/
structure SourceFile where
  path : Path
  content : List UInt8
  deriving DecidableEq, Repr

namespace Tree

/-- The directory without anything in it. -/
def empty : Tree := .directory []

/-- What has a name among the children of a directory. -/
def childOf (name : String) (children : List (String × Tree)) : Option Tree :=
  children.lookup name

/-- The children of a directory with a name given to what `make` makes of what had it before. -/
def setChild (name : String) (make : Option Tree → Tree) :
    List (String × Tree) → List (String × Tree)
  | [] => [(name, make none)]
  | (other, child) :: rest =>
    if other = name then (name, make (some child)) :: rest
    else (other, child) :: setChild name make rest

/-- The tree with something put at the end of a path, and with the directories on the way. A
directory that is there already is kept. -/
def put (added : Tree) : List String → Option Tree → Tree
  | [], some (.directory children) =>
    match added with
    | .file content => .file content
    | .directory _ => .directory children
  | [], _ => added
  | name :: rest, some (.directory children) =>
    .directory (setChild name (put added rest) children)
  | name :: rest, _ => .directory (setChild name (put added rest) [])

/-- Where components lead to from a directory that has all the directories on the way: a component
that names the directory above takes the one before it off. -/
def resolve (components : List String) : List String :=
  components.foldl (fun way name => if name = ".." then way.dropLast else way ++ [name]) []

/-- The tree with something put at the end of a path, after every directory on the way is made, also
those that the path leaves again. -/
def putAt (added : Tree) (components : List String) (tree : Tree) : Tree :=
  let ways := (List.range components.length).map fun n => resolve (components.take n)
  let tree := ways.foldl (fun tree way => put empty way (some tree)) tree
  put added (resolve components) (some tree)

/-- The tree with the given files and directories. -/
def ofEntries (entries : List (Path × Tree)) : Tree :=
  entries.foldl (fun tree entry => putAt entry.2 entry.1.components tree) empty

/-- Follows components from a place, the directories above which are given nearest first. What is
above the last of them is taken to be empty. -/
def follow (path : Path) (above : List Tree) (here : Tree) :
    List String → Except Fault (Option Tree)
  | [] => .ok (some here)
  | name :: rest =>
    match here with
    | .file _ => .ok none
    | .directory children =>
      if name = ".." then
        match above with
        | parent :: above => follow path above parent rest
        | [] => follow path [] empty rest
      else if Path.isLongName name then .error (.nameTooLong path.display)
      else
        match childOf name children with
        | some child => follow path (here :: above) child rest
        | none => .ok none

/-- What a path leads to from a directory. An absolute path leads out of it, where nothing is
known. -/
def locate (tree : Tree) (path : Path) : Except Fault (Option Tree) :=
  if path.display.contains '\x00' then .ok none
  else if path.isTooLong then .error (.nameTooLong path.display)
  else follow path [] (if path.root = "" then tree else empty) path.components

/-- The source files among the children of a directory. Whatever has the name of one is looked up. -/
def ownSources (path : Path) : List (String × Tree) → Except Fault (List SourceFile)
  | [] => .ok []
  | (name, child) :: rest =>
    let place := path.child name
    if !place.isSource then ownSources path rest
    else if place.isTooLong then .error (.nameTooLong place.display)
    else
      match child with
      | .file content => (ownSources path rest).map (⟨place, content⟩ :: ·)
      | .directory _ => ownSources path rest

mutual

/-- The source files below a directory that a path leads to: its own first, and then those of the
directories in it. -/
def sources (path : Path) : Tree → Except Fault (List SourceFile)
  | .file _ => .ok []
  | .directory children => do
    if path.isTooLong then throw (.nameTooLong path.display)
    let own ← ownSources path children
    let below ← childSources path children
    return own ++ below

/-- The source files below the directories among some children of a directory. -/
def childSources (path : Path) : List (String × Tree) → Except Fault (List SourceFile)
  | [] => .ok []
  | (name, child) :: rest => do
    let first ← sources (path.child name) child
    let others ← childSources path rest
    return first ++ others

end

/-- The files to scan for a path and what it leads to. -/
def sourceFiles (path : Path) (found : Tree) : Except Fault (List SourceFile) :=
  match found with
  | .file content => .ok [⟨path, content⟩]
  | .directory _ =>
    (sources path found).map fun files => files.mergeSort fun a b => a.path.precedes b.path

end Tree

end ScriptLint
