import ScriptLint.Proofs.Workspace.Newest

/-!
# What an event does

`Effect` lists all that an event can come to, and `step_effect` says that a step is one of these. An
event that is refused leaves the workspace as it is. The one case that needs an argument is a document
that is closed: its version is forgotten before its diagnostics are taken out, and the second can only
fail where the first found nothing to forget.

`trace` is the record of a sequence of events with their replies. What a workspace keeps is described
by the trace that led to it.
-/

namespace ScriptLint

/-- A text that a scan is asked for. -/
structure Request where
  identity : Value
  text : Value
  version : Option Int

/-- The scan that an event asks for, if it does. -/
def Event.request? : Event → Option Request
  | .opened identity text version | .updated identity text version
  | .changed identity text version => some ⟨identity, text, version⟩
  | _ => none

/-- An event and the reply to it. -/
structure Handled where
  event : Event
  reply : Except Fault (Option ScanResult)

/-- A session that was not skipped has the diagnostics of its text. -/
theorem scan_of_session {text identity : Value} {options : OptionsArgument} {version : Option Int}
    {session : Session} {result : ScanResult}
    (hsession : Session.create text options ListedRule.defaultLine ListedRule.defaultDocument
      identity version = .ok session)
    (hrun : session.run.outcome = .ok result) (hskipped : ¬ result.skipped = true) :
    scan text = .ok result.diagnostics := by
  obtain ⟨resolved, -, h⟩ := bind_eq_ok hsession
  obtain ⟨-, -, h⟩ := bind_eq_ok h
  obtain ⟨-, -, h⟩ := bind_eq_ok h
  obtain ⟨document, hdocument, h⟩ := bind_eq_ok h
  cases h
  rw [Session.run_outcome rfl, scanDocument] at hrun
  split at hrun
  · obtain ⟨ds, hall, h⟩ := bind_eq_ok hrun
    cases h
    exact scan_eq_ok_iff.mpr ⟨document, hdocument, hall⟩
  · cases hrun
    exact absurd rfl hskipped

namespace Workspace

/-- The events of a sequence, each with its reply. -/
def trace (w : Workspace) : List Event → List Handled
  | [] => []
  | event :: rest => ⟨event, (w.step event).reply⟩ :: (w.step event).workspace.trace rest

/-- What an event can come to: its reply, and the workspace after it. -/
inductive Effect (w : Workspace) (event : Event) :
    Except Fault (Option ScanResult) → Workspace → Prop
  /-- The event is refused. No document is refused to be closed that could have been opened. -/
  | refused (fault : Fault)
      (hclosed : ∀ v id, event = .closed v → Identity.ofValue v ≠ .ok id) :
      Effect w event (.error fault) w
  /-- A version is stale, or is not to be scanned. -/
  | passed (r : Request) (hrequest : event.request? = some r) : Effect w event (.ok none) w
  /-- A text was scanned. -/
  | scanned (r : Request) (id : Identity) (result : ScanResult)
      (hrequest : event.request? = some r) (hid : Identity.ofValue r.identity = .ok id)
      (hscan : scan r.text = .ok result.diagnostics) :
      Effect w event (.ok (some result)) (w.publish id r.version result)
  /-- A document was closed. -/
  | closed (v : Value) (versions : Register (Option Int)) (diagnostics : Register (List Diagnostic))
      (hevent : event = .closed v) (hversions : w.versions.eraseValue v = .ok versions)
      (hdiagnostics : w.diagnostics.eraseValue v = .ok diagnostics) :
      Effect w event (.ok none) { w with versions, diagnostics }
  /-- Diagnostics were put into the collection. -/
  | collected (v : Value) (id : Identity) (ds : List Diagnostic) (hevent : event = .published v ds)
      (hid : Identity.ofValue v = .ok id) :
      Effect w event (.ok none) { w with diagnostics := w.diagnostics.insert id ds }
  /-- Diagnostics were taken out of the collection. -/
  | withdrawn (v : Value) (diagnostics : Register (List Diagnostic)) (hevent : event = .withdrawn v)
      (hdiagnostics : w.diagnostics.eraseValue v = .ok diagnostics) :
      Effect w event (.ok none) { w with diagnostics }
  /-- The collection was emptied. -/
  | cleared (hevent : event = .cleared) : Effect w event (.ok none) { w with diagnostics := .empty }
  /-- Options were set. -/
  | configured (options : OptionsArgument) (hevent : event = .configured options) :
      Effect w event (.ok none) { w with options }

variable {w : Workspace} {event : Event}

/-- An event that asks for a scan can be refused at any time. -/
theorem Effect.refused_request {r : Request} (hrequest : event.request? = some r) (fault : Fault) :
    Effect w event (.error fault) w := by
  refine .refused fault fun v id hevent => ?_
  rw [hevent] at hrequest
  cases hrequest

/-- A scan is refused or passed, or its result is published. -/
theorem scanAndPublish_effect {r : Request} {id : Identity} (hrequest : event.request? = some r)
    (hid : Identity.ofValue r.identity = .ok id) :
    Effect w event (w.scanAndPublish id r.text r.version).reply
      (w.scanAndPublish id r.text r.version).workspace := by
  unfold scanAndPublish
  split
  · exact .refused_request hrequest _
  · next session hsession =>
    dsimp only
    split
    · exact .refused_request hrequest _
    · next result hrun =>
      split
      · exact .passed r hrequest
      · next hskipped =>
        exact .scanned r id result hrequest hid (scan_of_session hsession hrun hskipped)

/-- An update is a scan, unless it is refused or the version is stale. -/
theorem update_effect {r : Request} (hrequest : event.request? = some r) :
    Effect w event (w.update r.identity r.text r.version).reply
      (w.update r.identity r.text r.version).workspace := by
  unfold update
  split
  · exact .refused_request hrequest _
  · next id hid =>
    dsimp only
    split
    · exact .refused_request hrequest _
    · exact .passed r hrequest
    · exact scanAndPublish_effect hrequest hid

/-- A change is an update, unless it is refused or changes are not followed. -/
theorem change_effect {r : Request} (hrequest : event.request? = some r) :
    Effect w event (w.change r.identity r.text r.version).reply
      (w.change r.identity r.text r.version).workspace := by
  unfold change
  split
  · exact .refused_request hrequest _
  · split
    · exact update_effect hrequest
    · exact .passed r hrequest

/-- A document is closed in both registers, or in none. -/
theorem close_effect (v : Value) :
    Effect w (.closed v) (w.close v).reply (w.close v).workspace := by
  have hrefused : ∀ {fault}, Identity.ofValue v = .error fault →
      ∀ u id, Event.closed v = .closed u → Identity.ofValue u ≠ .ok id := by
    intro fault hfault u id hu hid
    cases hu
    rw [hfault] at hid
    cases hid
  unfold close
  split
  · next fault hversions =>
    exact .refused fault (hrefused (Register.ofValue_of_eraseValue_eq_error hversions))
  · next versions hversions =>
    dsimp only
    split
    · next fault hdiagnostics =>
      have hfault := Register.ofValue_of_eraseValue_eq_error hdiagnostics
      obtain ⟨id, hid, -⟩ | ⟨rfl, -⟩ := Register.eraseValue_eq_ok hversions
      · rw [hfault] at hid
        cases hid
      · -- The value stands for no identity, so there were no versions to take one from.
        exact .refused fault (hrefused hfault)
    · next diagnostics hdiagnostics =>
      exact .closed v versions diagnostics rfl hversions hdiagnostics

/-- A step has one of the effects. -/
theorem step_effect (w : Workspace) (event : Event) :
    Effect w event (w.step event).reply (w.step event).workspace := by
  cases event with
  | opened identity text version => exact update_effect (r := ⟨identity, text, version⟩) rfl
  | updated identity text version => exact update_effect (r := ⟨identity, text, version⟩) rfl
  | changed identity text version => exact change_effect (r := ⟨identity, text, version⟩) rfl
  | closed v => exact close_effect v
  | published v ds =>
    show Effect w _ (w.set v ds).reply (w.set v ds).workspace
    unfold set
    split
    · exact .refused _ fun _ _ hevent => by cases hevent
    · next id hid => exact .collected v id ds rfl hid
  | withdrawn v =>
    show Effect w _ (w.withdraw v).reply (w.withdraw v).workspace
    unfold withdraw
    split
    · exact .refused _ fun _ _ hevent => by cases hevent
    · next diagnostics hdiagnostics => exact .withdrawn v diagnostics rfl hdiagnostics
  | cleared => exact .cleared rfl
  | configured options => exact .configured options rfl

end Workspace

end ScriptLint
