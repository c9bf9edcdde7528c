import ScriptLint.Value.Register

/-!
# Scan options

Options decide whether texts are scanned at all, and when an editor should have them scanned. They
come as an editor's settings, whose keys may begin with the name of the tool. Of several settings
that mean the same key the last one counts, and keys that are not known are ignored (`ScanOptions` in
§6 of `SPEC_FULL.md`).
-/

namespace ScriptLint

/-- A number of seconds, in the form it was given in. -/
inductive Seconds where
  | whole (n : Int)
  | real (x : Float)

/-- Whether a number of seconds is below zero. What is not a number is not. -/
def Seconds.isNegative : Seconds → Bool
  | .whole n => n < 0
  | .real x => x < 0

/-- The options of a scan. -/
structure ScanOptions where
  /-- Whether texts are scanned. -/
  diagnosticsEnabled : Bool := true
  /-- Whether a text is scanned again on each change. -/
  checkOnType : Bool := true
  /-- How long an editor waits after a change. -/
  debounce : Seconds := .real 0.5

namespace ScanOptions

/-- The options with the given parts, of which the delay may not be negative. -/
def make (diagnosticsEnabled checkOnType : Bool) (debounce : Seconds) :
    Except Fault ScanOptions :=
  if debounce.isNegative then .error .negativeDebounce
  else .ok ⟨diagnosticsEnabled, checkOnType, debounce⟩

/-- What the keys of settings may begin with. -/
def keyPrefix : List Char := ['c', 's', 'c', 'r', 'i', 'p', 't', '.']

/-- A settings key without the name of the tool in front, which is taken off once. -/
def shortKey (key : String) : String :=
  if keyPrefix.isPrefixOf key.toList then String.ofList (key.toList.drop keyPrefix.length) else key

/-- Settings by their short keys, in order. Every key has to be a text. -/
def shortKeys (settings : Register Value) : Except Fault (List (String × Value)) :=
  settings.entries.mapM fun entry =>
    match entry.1.shown with
    | .text key => .ok (shortKey key, entry.2)
    | .bytes _ => .error .bytesSettingKey
    | v => .error (.settingKey v.kind)

/-- The last value that settings give to a key. -/
def last? (settings : List (String × Value)) (key : String) : Option Value :=
  settings.reverse.lookup key

/-- The nearest floating-point number to an integer, which may not be too large for one. -/
def toReal (n : Int) : Except Fault Float :=
  let size := Float.ofScientific n.natAbs false 0
  if size.isInf then .error .numberTooLarge else .ok (if n < 0 then -size else size)

/-- A setting that is a number, if it is there. -/
def readNumber (key : String) : Option Value → Except Fault (Option Float)
  | none => .ok none
  | some (.integer n) => (toReal n).map some
  | some (.real x) => .ok (some x)
  | some v => .error (.settingNotNumber key v)

/-- A setting that is true or false, or its default if it is not there. -/
def readFlag (key : String) (default : Bool) : Option Value → Except Fault Bool
  | none => .ok default
  | some (.flag b) => .ok b
  | some v => .error (.settingNotFlag key v)

/-- The options that settings with the given values of the three known keys stand for. The delay is
given in milliseconds. -/
def ofKnown (debounceMs enabled checkOnType : Option Value) : Except Fault ScanOptions := do
  let delay ← readNumber "diagnostics.debounceMs" debounceMs
  let enabled ← readFlag "diagnostics.enabled" true enabled
  let checkOnType ← readFlag "diagnostics.checkOnType" true checkOnType
  make enabled checkOnType
    (match delay with
    | some milliseconds => .real (milliseconds / 1000)
    | none => .real 0.5)

/-- The options of an editor's settings. -/
def ofSettings (settings : Register Value) : Except Fault ScanOptions := do
  let settings ← shortKeys settings
  ofKnown (last? settings "diagnostics.debounceMs") (last? settings "diagnostics.enabled")
    (last? settings "diagnostics.checkOnType")

end ScanOptions

/-- What a caller gives where options are expected: options, or some other value. -/
inductive OptionsArgument where
  | options (o : ScanOptions)
  | other (v : Value)

namespace OptionsArgument

/-- Nothing in the place of options. -/
def absent : OptionsArgument := .other .null

/-- The options that an argument stands for; the defaults, if there is nothing. -/
def resolve : OptionsArgument → Except Fault ScanOptions
  | .options o => .ok o
  | .other .null => .ok {}
  | .other v => .error (.notOptions v.kind)

end OptionsArgument

end ScriptLint
