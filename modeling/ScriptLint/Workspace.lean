import ScriptLint.Scan.Session

/-!
# Workspaces

A workspace follows the documents that are open in an editor. It keeps the diagnostics of each, and
the version that they belong to, so that a late scan of an older version never takes the place of a
newer one: the `DocumentDiagnosticsProvider` of §6 of `SPEC_FULL.md` with the `DiagnosticCollection`
that it writes to, under the rule of §5 that only the newest version is kept. `Workspace.step` is what
an event does to a workspace; the reply of an event that fails is a fault, and the workspace after it
is given in any case.
-/

namespace ScriptLint

/-- The documents that are open in an editor. -/
structure Workspace where
  /-- The name of the collection of diagnostics. -/
  name : String := "cscript"
  /-- What was configured in the place of options. -/
  options : OptionsArgument := .options {}
  /-- The versions that the diagnostics belong to. -/
  versions : Register (Option Int) := .empty
  diagnostics : Register (List Diagnostic) := .empty

/-- What can happen to a workspace. -/
inductive Event where
  /-- A document was opened (`on_open`). -/
  | opened (identity text : Value) (version : Option Int)
  /-- A document is to be scanned (`update`). -/
  | updated (identity text : Value) (version : Option Int)
  /-- A document was changed (`on_change`). -/
  | changed (identity text : Value) (version : Option Int)
  /-- A document was closed (`on_close`). -/
  | closed (identity : Value)
  /-- Diagnostics are put into the collection (`set`). -/
  | published (identity : Value) (diagnostics : List Diagnostic)
  /-- The diagnostics of a document are taken out of the collection (`delete`). -/
  | withdrawn (identity : Value)
  /-- All diagnostics are taken out of the collection (`clear`). -/
  | cleared
  /-- Options are set for the events that follow. -/
  | configured (options : OptionsArgument)

/-- What an event comes to. -/
structure Outcome where
  /-- The result of the scan that was published, if there was one. -/
  reply : Except Fault (Option ScanResult)
  workspace : Workspace
  log : List LogRecord := []

namespace Workspace

/-- A workspace without documents. Default options take the place of none. -/
def create (name : String) (options : OptionsArgument) : Workspace :=
  { name
    options := match options with
      | .other .null => .options {}
      | given => given }

/-- The workspace, with an event refused. -/
def refuse (w : Workspace) (fault : Fault) : Outcome := ⟨.error fault, w, []⟩

/-- Whether a version is older than the one that was last published. A document without a version
cannot be compared with one. -/
def isStale (version latest : Option Int) : Except Fault Bool :=
  match version, latest with
  | _, none => .ok false
  | none, some _ => .error .missingVersion
  | some version, some latest => .ok (version < latest)

/-- The record that a version was dropped. -/
def staleRecord (identity : Value) (version latest : Option Int) : List LogRecord :=
  match version, latest with
  | some version, some latest => [.stale identity version latest]
  | _, _ => []

/-- The workspace after the result of a scan was published under an identity. -/
def publish (w : Workspace) (id : Identity) (version : Option Int) (result : ScanResult) :
    Workspace :=
  { w with
    versions := w.versions.insert id version
    diagnostics := w.diagnostics.insert id result.diagnostics }

/-- Scans a text and publishes the result, unless scans are switched off. -/
def scanAndPublish (w : Workspace) (id : Identity) (text : Value) (version : Option Int) :
    Outcome :=
  match Session.create text w.options ListedRule.defaultLine ListedRule.defaultDocument
      id.shown version with
  | .error fault => w.refuse fault
  | .ok session =>
    let run := session.run
    match run.outcome with
    | .error fault => ⟨.error fault, w, run.log⟩
    | .ok result =>
      if result.skipped then ⟨.ok none, w, run.log⟩
      else ⟨.ok (some result), w.publish id version result, run.log⟩

/-- Scans a text and publishes the result, unless a later version was published before: a publish for
an older version is ignored (§5). -/
def update (w : Workspace) (identity text : Value) (version : Option Int) : Outcome :=
  match Identity.ofValue identity with
  | .error fault => w.refuse fault
  | .ok id =>
    let latest := (w.versions.get? id).join
    match isStale version latest with
    | .error fault => w.refuse fault
    | .ok true => ⟨.ok none, w, staleRecord identity version latest⟩
    | .ok false => w.scanAndPublish id text version

/-- Updates a document that was changed, if the options ask for that (`check_on_type`, §6). -/
def change (w : Workspace) (identity text : Value) (version : Option Int) : Outcome :=
  match w.options with
  | .other v => w.refuse (.noChangePolicy v.kind)
  | .options o =>
    if o.checkOnType then w.update identity text version
    else ⟨.ok none, w, [.changeIgnored identity]⟩

/-- Forgets the version of a document and takes out its diagnostics. -/
def close (w : Workspace) (identity : Value) : Outcome :=
  match w.versions.eraseValue identity with
  | .error fault => w.refuse fault
  | .ok versions =>
    let w := { w with versions }
    match w.diagnostics.eraseValue identity with
    | .error fault => w.refuse fault
    | .ok diagnostics => ⟨.ok none, { w with diagnostics }, []⟩

/-- Puts diagnostics into the collection. -/
def set (w : Workspace) (identity : Value) (diagnostics : List Diagnostic) : Outcome :=
  match Identity.ofValue identity with
  | .error fault => w.refuse fault
  | .ok id => ⟨.ok none, { w with diagnostics := w.diagnostics.insert id diagnostics }, []⟩

/-- Takes diagnostics out of the collection. -/
def withdraw (w : Workspace) (identity : Value) : Outcome :=
  match w.diagnostics.eraseValue identity with
  | .error fault => w.refuse fault
  | .ok diagnostics => ⟨.ok none, { w with diagnostics }, []⟩

/-- What an event does to a workspace. -/
def step (w : Workspace) : Event → Outcome
  | .opened identity text version => w.update identity text version
  | .updated identity text version => w.update identity text version
  | .changed identity text version => w.change identity text version
  | .closed identity => w.close identity
  | .published identity diagnostics => w.set identity diagnostics
  | .withdrawn identity => w.withdraw identity
  | .cleared => ⟨.ok none, { w with diagnostics := .empty }, []⟩
  | .configured options => ⟨.ok none, { w with options }, []⟩

/-- The diagnostics that the collection has for an identity. -/
def get (w : Workspace) (identity : Value) : Except Fault (List Diagnostic) := do
  let id ← Identity.ofValue identity
  return (w.diagnostics.get? id).getD []

/-- Whether the collection has an identity. -/
def has (w : Workspace) (identity : Value) : Except Fault Bool := do
  let id ← Identity.ofValue identity
  return w.diagnostics.contains id

end Workspace

end ScriptLint
