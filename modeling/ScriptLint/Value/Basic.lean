/-!
# Values

Settings and document identities arrive from an editor as values of no fixed kind. `Value` is the
type of such values, and `Value.Kind` their kinds, whose names appear in messages.
-/

namespace ScriptLint

/-- A value as an editor hands it over. -/
inductive Value where
  | null
  | flag (b : Bool)
  | integer (n : Int)
  | real (x : Float)
  | text (s : String)
  | bytes (bs : List UInt8)
  | list (items : List Value)
  | dictionary (entries : List (Value × Value))
  deriving Inhabited

namespace Value

/-- The kind of a value. -/
inductive Kind where
  | null
  | flag
  | integer
  | real
  | text
  | bytes
  | list
  | dictionary
  deriving DecidableEq, Repr

/-- The kind's name, as messages give it. -/
def Kind.name : Kind → String
  | .null => "NoneType"
  | .flag => "bool"
  | .integer => "int"
  | .real => "float"
  | .text => "str"
  | .bytes => "bytes"
  | .list => "list"
  | .dictionary => "dict"

/-- The kind of a value. -/
def kind : Value → Kind
  | .null => .null
  | .flag _ => .flag
  | .integer _ => .integer
  | .real _ => .real
  | .text _ => .text
  | .bytes _ => .bytes
  | .list _ => .list
  | .dictionary _ => .dictionary

end Value

end ScriptLint
