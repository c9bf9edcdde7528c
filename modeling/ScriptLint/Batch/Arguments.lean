import ScriptLint.Text.DecimalDigit

/-!
# Command line arguments

A batch scan is given one path and flags. A flag may be cut short as long as it can be told from the
others, and takes no value. What looks like a number, or has a space in it, is a path even after a
dash, and after a double dash everything is.
-/

namespace ScriptLint

/-- A flag of the command line. -/
inductive Flag where
  | help
  | noProgress
  | errorsOnly
  | verbose
  deriving DecidableEq, Repr

namespace Flag

/-- Every flag. -/
def all : List Flag := [.help, .noProgress, .errorsOnly, .verbose]

/-- The flag as it is written in full. -/
def name : Flag → String
  | .help => "--help"
  | .noProgress => "--no-progress"
  | .errorsOnly => "--errors-only"
  | .verbose => "--verbose"

/-- The flags that something can be short for. -/
def abbreviatedBy (text : List Char) : List Flag :=
  all.filter fun flag => text.isPrefixOf flag.name.toList

end Flag

/-- What an argument is taken for. -/
inductive Argument where
  | path (text : String)
  | flag (flag : Flag)
  /-- A flag with a value, which it does not take. -/
  | flagWithValue
  /-- Something that could be several flags. -/
  | ambiguous
  /-- Something after a dash that is no flag. -/
  | unknown
  deriving DecidableEq, Repr

namespace Argument

/-- The text without one line feed that it may end in. -/
def dropLineFeed (text : List Char) : List Char :=
  if text.getLast? = some '\n' then text.dropLast else text

/-- Whether a text is digits, or digits with a point before or among them. The digits may be those
of any script, and a line feed may follow them. -/
def isNumeral (text : List Char) : Bool :=
  let text := dropLineFeed text
  match text.dropWhile isDecimalDigit with
  | [] => !text.isEmpty
  | '.' :: fraction => !fraction.isEmpty && fraction.all isDecimalDigit
  | _ => false

/-- What the short flag for help is taken for with more characters behind it. It may be repeated
there, also after an equals sign, and anything else is a value. -/
def ofShortHelp : List Char → Argument
  | [] => .flag .help
  | ['='] => .flagWithValue
  | '=' :: rest => if rest.all (· == 'h') then .flag .help else .flagWithValue
  | rest => if rest.all (· == 'h') then .flag .help else .flagWithValue

/-- What an argument is taken for that begins with a dash and is none of the flags. -/
def ofUnknown (text : String) (afterDash : List Char) : Argument :=
  if isNumeral afterDash || afterDash.contains ' ' then .path text else .unknown

/-- What an argument before a double dash is taken for. -/
def read (text : String) : Argument :=
  match text.toList with
  | ['-'] => .path text
  | '-' :: 'h' :: rest => ofShortHelp rest
  | '-' :: '-' :: rest =>
    let whole := '-' :: '-' :: rest
    match Flag.abbreviatedBy (whole.takeWhile (· != '=')) with
    | [] => ofUnknown text ('-' :: rest)
    | [only] => if whole.contains '=' then .flagWithValue else .flag only
    | _ => .ambiguous
  | '-' :: rest => ofUnknown text rest
  | _ => .path text

end Argument

/-- What a batch scan is asked to do. -/
structure Arguments where
  path : String
  noProgress : Bool := false
  errorsOnly : Bool := false
  verbose : Bool := false
  deriving DecidableEq, Repr

/-- What the command line comes to. -/
inductive Command where
  /-- The arguments make no sense. -/
  | refuse
  /-- Help is asked for. -/
  | help
  | scan (arguments : Arguments)
  deriving DecidableEq, Repr

namespace Command

/-- What has been read of a command line. -/
structure Reading where
  path : Option String := none
  noProgress : Bool := false
  errorsOnly : Bool := false
  verbose : Bool := false
  /-- Whether there is an argument that nothing can be made of. -/
  surplus : Bool := false
  /-- Whether the path was read last. -/
  pathLast : Bool := false
  deriving DecidableEq, Repr

namespace Reading

/-- Reads one argument. Help is given at once, and a flag with a value ends the reading at once;
anything that cannot be used is noted. -/
def step (r : Reading) : Argument → Except Command Reading
  | .path text =>
    match r.path with
    | none => .ok { r with path := some text, pathLast := true }
    | some _ => .ok { r with surplus := true, pathLast := false }
  | .flag .help => .error .help
  | .flag .noProgress => .ok { r with noProgress := true, pathLast := false }
  | .flag .errorsOnly => .ok { r with errorsOnly := true, pathLast := false }
  | .flag .verbose => .ok { r with verbose := true, pathLast := false }
  | .flagWithValue => .error .refuse
  | .ambiguous => .error .refuse
  | .unknown => .ok { r with surplus := true, pathLast := false }

/-- Takes in what follows a double dash: the path, if there was none. A double dash with nothing
after it is accepted right behind the path only. -/
def paths (r : Reading) (texts : List String) : Reading :=
  match r.path, texts with
  | none, text :: rest => { r with path := some text, surplus := r.surplus || !rest.isEmpty }
  | none, [] => { r with surplus := true }
  | some _, [] => { r with surplus := r.surplus || !r.pathLast }
  | some _, _ :: _ => { r with surplus := true }

/-- What has been read, if it is complete and nothing is left over. -/
def finish (r : Reading) : Command :=
  match r.path, r.surplus with
  | some path, false => .scan ⟨path, r.noProgress, r.errorsOnly, r.verbose⟩
  | _, _ => .refuse

end Reading

/-- The command of a command line. Arguments that could be several flags are refused before any
flag is acted on. -/
def ofArguments (texts : List String) : Command :=
  let before := (texts.takeWhile (· != "--")).map Argument.read
  if before.contains .ambiguous then .refuse
  else
    match before.foldlM Reading.step {} with
    | .error command => command
    | .ok reading =>
      match texts.dropWhile (· != "--") with
      | [] => reading.finish
      | _ :: after => (reading.paths after).finish

end Command

end ScriptLint
