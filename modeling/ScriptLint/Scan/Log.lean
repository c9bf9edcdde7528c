import ScriptLint.Value.Literal

/-!
# The log

What scans and workspaces report about their own work. A record keeps what it is about, and `render`
gives the line that is written to a log (§8 of `SPEC_FULL.md`).
-/

namespace ScriptLint

/-- A version as it stands in running text. -/
def displayVersion : Option Int → String
  | some version => toString version
  | none => "None"

/-- One record of a log. -/
inductive LogRecord where
  /-- A text was not scanned, since scans are switched off. -/
  | skipped (identity : Value)
  /-- A text was scanned. -/
  | scanned (identity : Value) (version : Option Int) (lines diagnostics : Nat)
  /-- A change was ignored, since scans on changes are switched off. -/
  | changeIgnored (identity : Value)
  /-- A version was dropped, since a later one is known. -/
  | stale (identity : Value) (version latest : Int)

/-- The line of a log for a record. -/
def LogRecord.render : LogRecord → String
  | .skipped identity =>
    s!"DEBUG cscriptpy.lint.runner: Diagnostics disabled; skipping scan of {identity.display}"
  | .scanned identity version lines diagnostics =>
    s!"DEBUG cscriptpy.lint.runner: Scanned {identity.display} " ++
      s!"(version {displayVersion version}): {lines} lines, {diagnostics} diagnostics"
  | .changeIgnored identity =>
    "DEBUG cscriptpy.workspace.provider: check_on_type disabled; " ++
      s!"ignoring change to {identity.display}"
  | .stale identity version latest =>
    s!"DEBUG cscriptpy.workspace.provider: Dropping stale scan of {identity.display}: " ++
      s!"version {version} < {latest}"

end ScriptLint
