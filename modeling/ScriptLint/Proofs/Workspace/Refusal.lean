import ScriptLint.Proofs.Scan.Outcome
import ScriptLint.Proofs.Workspace.Effect

/-!
# Refused events

An event that is refused leaves no trace in a workspace: neither the collection nor the versions nor
the options are other than before. `run_refused` says so of every workspace that events can lead to,
and that all refused events can be left out of a sequence without a difference to the rest.

`Refusal` lists what events are refused for, each cause with the condition under which it occurs. That
an event is never refused half-way is a fact about its effect (`step_eq_of_refused`). What it is
refused for is read off the checks in their order, from the scan of a text (`scanAndPublish_refusal`)
outwards to the event (`step_refusal`).
-/

namespace ScriptLint

/-! ## What scans and identities are refused for -/

/-- Only lists and dictionaries are no identities. -/
theorem Identity.ofValue_eq_error {v : Value} {fault : Fault} (h : ofValue v = .error fault) :
    (v.kind = .list ∨ v.kind = .dictionary) ∧ fault = .notAKey v.kind := by
  unfold ofValue at h
  split at h
  case h_4 x =>
    -- A number is an identity, whether it is an integer, another number or none.
    split at h
    · cases h
    · split at h
      · cases h
      · cases h
  case h_7 => cases h; exact ⟨Or.inl rfl, rfl⟩
  case h_8 => cases h; exact ⟨Or.inr rfl, rfl⟩
  all_goals cases h

/-- Only a text has a document. -/
theorem Document.ofValue_eq_error {v : Value} {fault : Fault} (h : ofValue v = .error fault) :
    (∀ s, v ≠ .text s) ∧ fault = .notText v.kind := by
  unfold ofValue at h
  split at h
  · cases h
  · next hother =>
    cases h
    exact ⟨hother, rfl⟩

/-- The document of a text is made of its lines. -/
theorem Document.ofValue_eq_ok {v : Value} {document : Document} (h : ofValue v = .ok document) :
    ∃ s, v = .text s ∧ document = .ofText s := by
  unfold ofValue at h
  split at h
  · next s =>
    cases h
    exact ⟨s, rfl, rfl⟩
  · cases h

/-- The usual rules end in a fault only at a range that is too long. -/
theorem allDiagnostics_default_eq_error {document : Document} {fault : Fault}
    (h : allDiagnostics ListedRule.defaultLine ListedRule.defaultDocument document = .error fault) :
    ∃ n, document.FirstOverlong n ∧ fault = .numeralTooLong n := by
  have hrules := @allDiagnostics_eq_error_iff (LineRule.all.map fun rule => (rule, rule.metadata))
    (DocumentRule.all.map fun rule => (rule, rule.metadata)) document fault
  obtain ⟨n, -, hlong, hfault⟩ := hrules.mp h
  exact ⟨n, hlong, hfault⟩

/-- With the usual rules, no session is made only if there are no options or no text. -/
theorem Session.create_default_eq_error {text identity : Value} {options : OptionsArgument}
    {version : Option Int} {fault : Fault}
    (h : create text options ListedRule.defaultLine ListedRule.defaultDocument identity version =
      .error fault) :
    (∃ v, options = .other v ∧ v ≠ .null ∧ fault = .notOptions v.kind) ∨
      ((∀ s, text ≠ .text s) ∧ fault = .notText text.kind) := by
  unfold create at h
  rw [ListedRule.validate_defaultLine, ListedRule.validate_defaultDocument] at h
  cases hresolve : options.resolve with
  | error cause =>
    rw [hresolve] at h
    cases h
    exact Or.inl (OptionsArgument.resolve_eq_error_iff.mp hresolve)
  | ok resolved =>
    cases hdocument : Document.ofValue text with
    | error cause =>
      rw [hresolve, hdocument] at h
      cases h
      exact Or.inr (Document.ofValue_eq_error hdocument)
    | ok document =>
      rw [hresolve, hdocument] at h
      cases h

/-- With the usual rules, the session of a text ends in a fault only at a range that is too long. -/
theorem Session.run_default_eq_error {text identity : Value} {options : OptionsArgument}
    {version : Option Int} {session : Session} {fault : Fault}
    (hsession : create text options ListedRule.defaultLine ListedRule.defaultDocument identity
      version = .ok session)
    (hrun : session.run.outcome = .error fault) :
    ∃ s n, text = .text s ∧ (Document.ofText s).FirstOverlong n ∧ fault = .numeralTooLong n := by
  obtain ⟨resolved, -, h⟩ := bind_eq_ok hsession
  obtain ⟨-, -, h⟩ := bind_eq_ok h
  obtain ⟨-, -, h⟩ := bind_eq_ok h
  obtain ⟨document, hdocument, h⟩ := bind_eq_ok h
  cases h
  obtain ⟨s, rfl, rfl⟩ := Document.ofValue_eq_ok hdocument
  rw [Session.run_outcome rfl, scanDocument] at hrun
  split at hrun
  · -- The scan is the only step left that can fail.
    have hall : allDiagnostics ListedRule.defaultLine ListedRule.defaultDocument (.ofText s) =
        .error fault := by
      rw [← fault?_eq_some_iff] at hrun ⊢
      rwa [fault?_bind_pure] at hrun
    obtain ⟨n, hlong, rfl⟩ := allDiagnostics_default_eq_error hall
    exact ⟨s, n, rfl, hlong, rfl⟩
  · cases hrun

/-- The value that an event names its document by, if it is for one document. -/
def Event.subject? : Event → Option Value
  | .opened v _ _ | .updated v _ _ | .changed v _ _ | .closed v | .published v _
  | .withdrawn v => some v
  | .cleared | .configured _ => none

/-- A scan is asked for under the value that names the document. -/
theorem Event.subject?_of_request? {event : Event} {r : Request} (h : event.request? = some r) :
    event.subject? = some r.identity := by
  cases event with
  | opened | updated | changed => cases h; rfl
  | closed | published | withdrawn | cleared | configured => cases h

/-- Whether an event that was handled was not refused. -/
def Handled.isAccepted (h : Handled) : Bool := h.reply.isOk

namespace Workspace

/-- What an event is refused for. -/
inductive Refusal (w : Workspace) (event : Event) : Fault → Prop
  /-- The document is named by a list or a dictionary, which is no identity. -/
  | subject (v : Value) (hsubject : event.subject? = some v)
      (hkind : v.kind = .list ∨ v.kind = .dictionary) : Refusal w event (.notAKey v.kind)
  /-- There is no version that could be compared with the one that is recorded. -/
  | version (r : Request) (id : Identity) (latest : Int) (hrequest : event.request? = some r)
      (hversion : r.version = none) (hid : Identity.ofValue r.identity = .ok id)
      (hlatest : w.versions.get? id = some (some latest)) : Refusal w event .missingVersion
  /-- A scan is asked for, and what was configured are no options. -/
  | options (r : Request) (v : Value) (hrequest : event.request? = some r)
      (hoptions : w.options = .other v) (hnull : v ≠ .null) : Refusal w event (.notOptions v.kind)
  /-- A document was changed, and what was configured does not say whether changes are followed. -/
  | policy (identity text : Value) (version : Option Int) (v : Value)
      (hevent : event = .changed identity text version) (hoptions : w.options = .other v) :
      Refusal w event (.noChangePolicy v.kind)
  /-- What is to be scanned is no text. -/
  | text (r : Request) (hrequest : event.request? = some r) (htext : ∀ s, r.text ≠ .text s) :
      Refusal w event (.notText r.text.kind)
  /-- The text has a range with too many digits. -/
  | range (r : Request) (s : String) (n : Nat) (hrequest : event.request? = some r)
      (htext : r.text = .text s) (hlong : (Document.ofText s).FirstOverlong n) :
      Refusal w event (.numeralTooLong n)

variable {w : Workspace} {event : Event} {fault : Fault}

/-! ## One event -/

/-- An event that is refused leaves the workspace as it is. -/
theorem step_eq_of_refused (h : (w.step event).reply = .error fault) :
    (w.step event).workspace = w := by
  have heffect := w.step_effect event
  rw [h] at heffect
  generalize (w.step event).workspace = w' at heffect ⊢
  -- Every other effect has a reply that is no fault.
  cases heffect with
  | refused => rfl

/-- Versions cannot be compared only if one is recorded and none is given. -/
theorem isStale_eq_error {version : Option Int} {recorded : Option (Option Int)}
    (h : isStale version recorded.join = .error fault) :
    version = none ∧ ∃ latest, recorded = some (some latest) ∧ fault = .missingVersion := by
  unfold isStale at h
  split at h
  · cases h
  · next latest hlatest =>
    cases h
    exact ⟨rfl, latest, Option.join_eq_some_iff.mp hlatest, rfl⟩
  · cases h

/-- A value that is no identity is a cause of refusal. -/
theorem Refusal.of_ofValue {v : Value} (hsubject : event.subject? = some v)
    (h : Identity.ofValue v = .error fault) : Refusal w event fault := by
  obtain ⟨hkind, rfl⟩ := Identity.ofValue_eq_error h
  exact .subject v hsubject hkind

/-- A scan is refused for the options, the text or a range in it. -/
theorem scanAndPublish_refusal {r : Request} {id : Identity} (hrequest : event.request? = some r)
    (h : (w.scanAndPublish id r.text r.version).reply = .error fault) : Refusal w event fault := by
  unfold scanAndPublish at h
  split at h
  · next cause hsession =>
    cases h
    obtain ⟨v, hoptions, hnull, rfl⟩ | ⟨htext, rfl⟩ := Session.create_default_eq_error hsession
    · exact .options r v hrequest hoptions hnull
    · exact .text r hrequest htext
  · next session hsession =>
    dsimp only at h
    split at h
    · next cause hrun =>
      cases h
      obtain ⟨s, n, htext, hlong, rfl⟩ := Session.run_default_eq_error hsession hrun
      exact .range r s n hrequest htext hlong
    · -- A session with a result is no cause of refusal, skipped or not.
      split at h
      · cases h
      · cases h

/-- An update is refused for its identity or its version, or as a scan. -/
theorem update_refusal {r : Request} (hrequest : event.request? = some r)
    (h : (w.update r.identity r.text r.version).reply = .error fault) : Refusal w event fault := by
  unfold update at h
  split at h
  · next cause hid =>
    cases h
    exact .of_ofValue (Event.subject?_of_request? hrequest) hid
  · next id hid =>
    dsimp only at h
    split at h
    · next cause hstale =>
      cases h
      obtain ⟨hversion, latest, hlatest, rfl⟩ := isStale_eq_error hstale
      exact .version r id latest hrequest hversion hid hlatest
    · cases h
    · exact scanAndPublish_refusal hrequest h

/-- A change is refused for what was configured, or as an update. -/
theorem change_refusal {identity text : Value} {version : Option Int}
    (h : (w.change identity text version).reply = .error fault) :
    Refusal w (.changed identity text version) fault := by
  unfold change at h
  split at h
  · next v hoptions =>
    cases h
    exact .policy identity text version v rfl hoptions
  · split at h
    · exact update_refusal (r := ⟨identity, text, version⟩) rfl h
    · cases h

/-- A document is refused to be closed for its identity, whichever register has to be searched. -/
theorem close_refusal {v : Value} (h : (w.close v).reply = .error fault) :
    Refusal w (.closed v) fault := by
  have hcause : ∀ {α : Type} {r : Register α}, r.eraseValue v = .error fault →
      Refusal w (.closed v) fault :=
    fun herase => .of_ofValue rfl (Register.ofValue_of_eraseValue_eq_error herase)
  unfold close at h
  split at h
  · next cause hversions =>
    cases h
    exact hcause hversions
  · dsimp only at h
    split at h
    · next cause hdiagnostics =>
      cases h
      exact hcause hdiagnostics
    · cases h

/-- An event that is refused is refused for one of the causes. -/
theorem step_refusal (h : (w.step event).reply = .error fault) : Refusal w event fault := by
  cases event with
  | opened identity text version => exact update_refusal (r := ⟨identity, text, version⟩) rfl h
  | updated identity text version => exact update_refusal (r := ⟨identity, text, version⟩) rfl h
  | changed identity text version => exact change_refusal h
  | closed v => exact close_refusal h
  | published v ds =>
    change (w.set v ds).reply = .error fault at h
    unfold set at h
    split at h
    · next cause hid =>
      cases h
      exact .of_ofValue rfl hid
    · cases h
  | withdrawn v =>
    change (w.withdraw v).reply = .error fault at h
    unfold withdraw at h
    split at h
    · next cause herase =>
      cases h
      exact .of_ofValue rfl (Register.ofValue_of_eraseValue_eq_error herase)
    · cases h
  | cleared => cases h
  | configured options => cases h

/-! ## Sequences of events -/

/-- The events of a sequence that are not refused, each in the workspace that it meets. -/
def accepted (w : Workspace) (events : List Event) : List Event :=
  ((w.trace events).filter Handled.isAccepted).map Handled.event

/-- Without its refused events, a sequence leads to the same workspace, and the other events have the
same replies. -/
theorem run_accepted (w : Workspace) (events : List Event) :
    w.run (w.accepted events) = w.run events ∧
      w.trace (w.accepted events) = (w.trace events).filter Handled.isAccepted := by
  induction events generalizing w with
  | nil => exact ⟨rfl, rfl⟩
  | cons event rest ih =>
    have hrest := ih (w.step event).workspace
    unfold accepted at hrest ⊢
    rw [trace]
    cases hreply : (w.step event).reply with
    | ok result =>
      have hkept : Handled.isAccepted ⟨event, .ok result⟩ = true := rfl
      rw [List.filter_cons_of_pos hkept, List.map_cons, trace, hrest.2, hreply]
      exact ⟨hrest.1, rfl⟩
    | error fault =>
      -- The rest of the sequence meets the workspace that the refused event met.
      have hleft : ¬ Handled.isAccepted ⟨event, .error fault⟩ = true := Bool.false_ne_true
      have hsame := step_eq_of_refused hreply
      rw [hsame] at hrest
      rw [List.filter_cons_of_neg hleft, hsame]
      refine ⟨hrest.1.trans ?_, hrest.2⟩
      show w.run rest = (w.step event).workspace.run rest
      rw [hsame]

/-- In every workspace that events can lead to, an event that is refused leaves the collection, the
versions and the options as they are, and is refused for one of the causes. Hence the refused events of
a sequence make no difference: without them the workspace at its end and all other replies are the
same. -/
theorem run_refused (start : Workspace) (events : List Event) :
    let w := start.run events
    (∀ event fault, (w.step event).reply = .error fault →
      (w.step event).workspace = w ∧ Refusal w event fault) ∧
    w = start.run (start.accepted events) ∧
    (start.trace events).filter Handled.isAccepted = start.trace (start.accepted events) := by
  intro w
  obtain ⟨hrun, htrace⟩ := run_accepted start events
  exact ⟨fun event fault h => ⟨step_eq_of_refused h, step_refusal h⟩, hrun.symm, htrace.symm⟩

/-- Diagnostics are put into the collection while no version is recorded, so that closing a list is
refused by the second register only. A document is opened and updated without a version, and what is
then configured does not say whether a change is followed. -/
theorem run_refused_second_register :
    let start := Workspace.create "cscript" .absent
    let collected : Event := .published (.text "a") []
    let opened : Event := .opened (.text "b") (.text "x") (some 3)
    let configured : Event := .configured (.other (.integer 0))
    let changed : Event := .changed (.text "b") (.text "x") (some 4)
    let events : List Event := [collected, .closed (.list []), opened,
      .updated (.text "b") (.text "x") none, configured]
    let w := start.run [collected]
    let w' := start.run events
    (w.step (.closed (.list []))).reply = .error (.notAKey .list) ∧
      (w.step (.closed (.list []))).workspace = w ∧
      (w'.step changed).reply = .error (.noChangePolicy .integer) ∧
      (w'.step changed).workspace = w' ∧ Refusal w' changed (.noChangePolicy .integer) ∧
      w' = start.run [collected, opened, configured] := by
  intro start collected opened configured changed events w w'
  have hclosed : (w.step (.closed (.list []))).reply = .error (.notAKey .list) := rfl
  have hchanged : (w'.step changed).reply = .error (.noChangePolicy .integer) := rfl
  have haccepted : start.accepted events = [collected, opened, configured] := rfl
  obtain ⟨hfirst, -⟩ := run_refused start [collected]
  obtain ⟨hrefused, hrun, -⟩ := run_refused start events
  rw [haccepted] at hrun
  exact ⟨hclosed, (hfirst _ _ hclosed).1, hchanged, (hrefused _ _ hchanged).1,
    (hrefused _ _ hchanged).2, hrun⟩

end Workspace

end ScriptLint
