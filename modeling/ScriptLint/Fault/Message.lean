import ScriptLint.Fault
import ScriptLint.Value.Literal

/-!
# The wording of faults

What a fault is reported as: the family it belongs to, and a message. Every message is put together
here, from the data of the fault alone.
-/

namespace ScriptLint

/-- What is wrong with a rule's metadata, after the words that name the rule. -/
def RuleDefect.message : RuleDefect → String
  | .domain given => s!"invalid domain `{given}`; expected correctness/suspicious/style."
  | .confidence given => s!"invalid confidence `{given}`; expected policy/heuristic."
  | .scope given expected => s!"invalid scope `{given}`; expected `{expected}`."
  | .code given => s!"invalid code `{given}`; expected `LINT_` prefix."

/-- Why bytes cannot be decoded. -/
def Utf8Defect.message : Utf8Defect → String
  | .invalidStart => "invalid start byte"
  | .invalidContinuation => "invalid continuation byte"
  | .truncated => "unexpected end of data"

namespace Fault

/-- The families of faults that callers tell apart. -/
inductive Family where
  /-- Something is not of the kind that is asked for. -/
  | kind
  /-- Something is of the right kind, but not acceptable. -/
  | value
  | index
  | key
  /-- Something does not have what is asked of it. -/
  | attribute
  | overflow
  | encoding
  | system
  deriving DecidableEq, Repr

/-- The family of a fault. -/
def family : Fault → Family
  | .lineOutside .. => .index
  | .notText _ | .notOptions _ | .notALineRule _ | .notADocumentRule _ | .notAKey _
  | .missingVersion | .bytesSettingKey => .kind
  | .noChangePolicy _ | .settingKey _ => .attribute
  | .numberTooLarge => .overflow
  | .unknownSeverity _ => .key
  | .notUtf8 .. => .encoding
  | .nameTooLong _ => .system
  | .negativePosition | .reversedRange | .sliceAcrossLines | .noLines | .invalidRule ..
  | .numeralTooLong _ | .tooManyDigits | .settingNotNumber .. | .settingNotFlag ..
  | .negativeDebounce => .value

/-- The offending bytes of a text that is not UTF-8 and where they are: a single byte is shown, and
of several the first and the last position are given. -/
def utf8Place (position : Nat) : List UInt8 → String
  | [byte] =>
    let shown := String.ofList (Value.hexadecimal 2 byte.toNat)
    s!"byte 0x{shown} in position {position}"
  | offending =>
    let last := position + offending.length - 1
    s!"bytes in position {position}-{last}"

/-- The message that reports a fault. -/
def message : Fault → String
  | .negativePosition => "TextPosition cannot be negative"
  | .reversedRange => "TextRange invariant violated: start > end"
  | .sliceAcrossLines => "slice_line_range expects a single-line range"
  | .noLines => "SourceDocument requires at least one line"
  | .lineOutside index count => s!"Line {index} is outside document of {count} lines"
  | .notText kind => s!"Expected document text as str, got {kind.name}"
  | .notOptions kind => s!"Expected ScanOptions, got {kind.name}"
  | .noChangePolicy kind => s!"'{kind.name}' object has no attribute 'check_on_type'"
  | .invalidRule name defect => s!"Lint rule `{name}` has {defect.message}"
  | .notALineRule title => s!"{title}.run() takes 2 positional arguments but 4 were given"
  | .notADocumentRule title =>
    s!"{title}.run() missing 2 required positional arguments: 'line_index' and 'document'"
  | .numeralTooLong digits =>
    "Exceeds the limit (4300 digits) for integer string conversion: " ++
      s!"value has {digits} digits; use sys.set_int_max_str_digits() to increase the limit"
  | .tooManyDigits =>
    "Exceeds the limit (4300 digits) for integer string conversion; " ++
      "use sys.set_int_max_str_digits() to increase the limit"
  | .bytesSettingKey => "a bytes-like object is required, not 'str'"
  | .settingKey kind => s!"'{kind.name}' object has no attribute 'removeprefix'"
  | .settingNotNumber key given =>
    s!"Setting `cscript.{key}` must be a number, got {given.literal}"
  | .settingNotFlag key given =>
    s!"Setting `cscript.{key}` must be a boolean, got {given.literal}"
  | .numberTooLarge => "int too large to convert to float"
  | .negativeDebounce => "debounce_seconds cannot be negative"
  | .unknownSeverity name => Value.quoted name
  | .notAKey kind => s!"unhashable type: '{kind.name}'"
  | .missingVersion => "'<' not supported between instances of 'NoneType' and 'int'"
  | .nameTooLong path => s!"[Errno 36] File name too long: {Value.quoted path}"
  | .notUtf8 position offending defect =>
    s!"'utf-8' codec can't decode {utf8Place position offending}: {defect.message}"

end Fault

end ScriptLint
