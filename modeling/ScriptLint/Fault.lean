import ScriptLint.Value.Basic

/-!
# Faults

Everything that can go wrong in this library, as one type of causes. A fault holds the data that
its message needs; the wording is in `ScriptLint.Fault.Message`.
-/

namespace ScriptLint

/-- What is wrong with the metadata of a rule. -/
inductive RuleDefect where
  | domain (given : String)
  | confidence (given : String)
  | scope (given expected : String)
  | code (given : String)
  deriving DecidableEq, Repr

/-- Why bytes are not UTF-8. -/
inductive Utf8Defect where
  | invalidStart
  | invalidContinuation
  | truncated
  deriving DecidableEq, Repr

/-- The cause of a failure. -/
inductive Fault where
  /-- A position with a negative line or column. -/
  | negativePosition
  /-- A range whose start comes after its stop. -/
  | reversedRange
  /-- A range over several lines where one line is cut. -/
  | sliceAcrossLines
  /-- A document without a line. -/
  | noLines
  /-- A line index that the document of `count` lines does not have. -/
  | lineOutside (index : Int) (count : Nat)
  /-- A document text that is not a text. -/
  | notText (kind : Value.Kind)
  /-- Scan options that are not options. -/
  | notOptions (kind : Value.Kind)
  /-- A change event while options are configured that say nothing about change events. -/
  | noChangePolicy (kind : Value.Kind)
  /-- A rule with unacceptable metadata. -/
  | invalidRule (name : String) (defect : RuleDefect)
  /-- A rule for documents, named by its title, that is to run on a line. -/
  | notALineRule (title : String)
  /-- A rule for lines, named by its title, that is to run on a document. -/
  | notADocumentRule (title : String)
  /-- A numeral with more digits than are read. -/
  | numeralTooLong (digits : Nat)
  /-- A number with more digits than are written. -/
  | tooManyDigits
  /-- A settings key that nothing can be taken off from. -/
  | settingKey (kind : Value.Kind)
  /-- A settings key that is a byte string, from which no text can be taken off. -/
  | bytesSettingKey
  /-- A setting that has to be a number. -/
  | settingNotNumber (key : String) (given : Value)
  /-- A setting that has to be true or false. -/
  | settingNotFlag (key : String) (given : Value)
  /-- An integer beyond the largest floating-point number. -/
  | numberTooLarge
  /-- A negative delay. -/
  | negativeDebounce
  /-- A severity that is not counted. -/
  | unknownSeverity (name : String)
  /-- A value that cannot be the key of anything. -/
  | notAKey (kind : Value.Kind)
  /-- An event without a version for a document that has one. -/
  | missingVersion
  /-- A path that is too long, or has a name in it that is, to lead anywhere. -/
  | nameTooLong (path : String)
  /-- Bytes that are not UTF-8: the offending bytes and the offset of the first. -/
  | notUtf8 (position : Nat) (offending : List UInt8) (defect : Utf8Defect)

end ScriptLint
