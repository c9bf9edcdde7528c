import ScriptLint.Proofs.Workspace.Effect

/-!
# Documents do not interfere

What a workspace keeps for a document, and what it replies to the events of that document, does not
depend on the events of other documents. The events that *concern* an identity are those of values that
it recognises, and those that have no identity: a change of the options, and the emptying of the
collection. Leaving out all others makes no difference to it.

The relation between the two runs is `Keeps`: both workspaces have the same options and keep the same
for the identity. An event that does not concern the identity keeps it, in one run alone
(`step_keeps_of_not_concerns`). An event that does gives the same reply in both runs and leads to
workspaces that are related again (`step_alike`), since it reads nothing but what `Keeps` compares.
`run_alike` is the induction over the events.
-/

namespace ScriptLint

/-- Whether an event is for a document, or for all of them. -/
def Event.concerns (x : Identity) : Event → Bool
  | .opened v _ _ | .updated v _ _ | .changed v _ _ | .closed v | .published v _ | .withdrawn v =>
    x.recognises v
  | .cleared | .configured _ => true

/-- Whether an event that was handled is for a document, or for all of them. -/
def Handled.concerns (x : Identity) (h : Handled) : Bool := h.event.concerns x

/-- Taking out the data of a value that is recognised succeeds, and leaves none. -/
theorem Register.exists_eraseValue {α : Type} {x : Identity} {v : Value}
    (h : x.recognises v = true) (r : Register α) :
    ∃ left, r.eraseValue v = .ok left ∧ left.get? x = none := by
  obtain ⟨id, hid, hsame⟩ := Identity.exists_ofValue_of_recognises h
  cases hleft : r.eraseValue v with
  | error fault =>
    rw [ofValue_of_eraseValue_eq_error hleft] at hid
    cases hid
  | ok left =>
    refine ⟨left, rfl, ?_⟩
    obtain ⟨other, hother, rfl⟩ | ⟨-, hnone⟩ := eraseValue_eq_ok hleft
    · cases hid.symm.trans hother
      exact get?_erase_of_same r hsame
    · exact absurd hid (hnone id)

namespace Workspace

variable {x : Identity} {w w' w'' : Workspace}

/-- What is kept from one workspace to the next is kept from the first to the last. -/
theorem Keeps.trans (h : Keeps x w w') (h' : Keeps x w' w'') : Keeps x w w'' :=
  ⟨h'.options.trans h.options, h'.versions.trans h.versions, h'.diagnostics.trans h.diagnostics⟩

/-- What is kept in one direction is kept in the other. -/
theorem Keeps.symm (h : Keeps x w w') : Keeps x w' w :=
  ⟨h.options.symm, h.versions.symm, h.diagnostics.symm⟩

/-! ## Events that do not concern an identity -/

/-- An event that does not concern an identity keeps what there is for it. -/
theorem step_keeps_of_not_concerns {event : Event} (h : event.concerns x = false) :
    Keeps x w (w.step event).workspace := by
  have helsewhere : ∀ v, x.recognises v = false → (!x.recognises v) = true := by
    intro v hv
    rw [hv, Bool.not_false]
  cases event with
  | opened v text version => exact step_keeps (helsewhere v h)
  | updated v text version => exact step_keeps (helsewhere v h)
  | changed v text version => exact step_keeps (helsewhere v h)
  | closed v => exact step_keeps (helsewhere v h)
  | published v ds =>
    show Keeps x w (w.set v ds).workspace
    unfold set
    split
    · exact Keeps.refl x w
    · next id hid =>
      have hother := Identity.not_same_of_recognises h hid
      exact ⟨rfl, rfl, Register.get?_insert_of_not_same _ _ hother⟩
  | withdrawn v =>
    show Keeps x w (w.withdraw v).workspace
    unfold withdraw
    split
    · exact Keeps.refl x w
    · next diagnostics hdiagnostics =>
      refine ⟨rfl, rfl, Register.get?_of_eraseValue hdiagnostics fun id hid => ?_⟩
      exact Identity.not_same_of_recognises h hid
  | cleared => cases h
  | configured => cases h

/-! ## Events that concern an identity -/

/-- Two outcomes with the same reply, and with workspaces that keep the same for an identity. -/
structure Alike (x : Identity) (o o' : Outcome) : Prop where
  reply : o'.reply = o.reply
  keeps : Keeps x o.workspace o'.workspace

/-- A scan reads the options alone, and publishes the same in both workspaces. -/
theorem scanAndPublish_alike (h : Keeps x w w') {id : Identity} (hid : id.same x = true)
    (text : Value) (version : Option Int) :
    Alike x (w.scanAndPublish id text version) (w'.scanAndPublish id text version) := by
  unfold scanAndPublish
  rw [h.options]
  split
  · exact ⟨rfl, h⟩
  · next session _ =>
    dsimp only
    cases session.run.outcome with
    | error fault => exact ⟨rfl, h⟩
    | ok result =>
      dsimp only
      split
      · exact ⟨rfl, h⟩
      · refine ⟨rfl, h.options, ?_, ?_⟩
        · show (w'.versions.insert id version).get? x = (w.versions.insert id version).get? x
          rw [Register.get?_insert_of_same _ _ hid, Register.get?_insert_of_same _ _ hid]
        · show (w'.diagnostics.insert id _).get? x = (w.diagnostics.insert id _).get? x
          rw [Register.get?_insert_of_same _ _ hid, Register.get?_insert_of_same _ _ hid]

/-- An update also reads the version that is recorded for its document. -/
theorem update_alike (h : Keeps x w w') {v : Value} (hv : x.recognises v = true) (text : Value)
    (version : Option Int) : Alike x (w.update v text version) (w'.update v text version) := by
  obtain ⟨id, hid, hsame⟩ := Identity.exists_ofValue_of_recognises hv
  have hlatest : w'.versions.get? id = w.versions.get? id := by
    rw [Register.get?_congr _ hsame, Register.get?_congr _ hsame, h.versions]
  unfold update
  rw [hid]
  dsimp only
  rw [hlatest]
  cases isStale version (w.versions.get? id).join with
  | error fault => exact ⟨rfl, h⟩
  | ok stale =>
    cases stale with
    | true => exact ⟨rfl, h⟩
    | false => exact scanAndPublish_alike h hsame text version

/-- A change reads the options and is an update. -/
theorem change_alike (h : Keeps x w w') {v : Value} (hv : x.recognises v = true) (text : Value)
    (version : Option Int) : Alike x (w.change v text version) (w'.change v text version) := by
  unfold change
  rw [h.options]
  split
  · exact ⟨rfl, h⟩
  · split
    · exact update_alike h hv text version
    · exact ⟨rfl, h⟩

/-- Nothing is kept for a document that was closed. -/
theorem close_alike (h : Keeps x w w') {v : Value} (hv : x.recognises v = true) :
    Alike x (w.close v) (w'.close v) := by
  obtain ⟨versions, hversions, hnone⟩ := Register.exists_eraseValue hv w.versions
  obtain ⟨versions', hversions', hnone'⟩ := Register.exists_eraseValue hv w'.versions
  obtain ⟨diagnostics, hdiagnostics, hempty⟩ := Register.exists_eraseValue hv w.diagnostics
  obtain ⟨diagnostics', hdiagnostics', hempty'⟩ := Register.exists_eraseValue hv w'.diagnostics
  unfold close
  simp only [hversions, hversions', hdiagnostics, hdiagnostics']
  exact ⟨rfl, h.options, hnone'.trans hnone.symm, hempty'.trans hempty.symm⟩

/-- An event that concerns an identity has the same reply in workspaces that keep the same for it, and
they keep the same afterwards. -/
theorem step_alike (h : Keeps x w w') {event : Event} (hevent : event.concerns x = true) :
    Alike x (w.step event) (w'.step event) := by
  cases event with
  | opened v text version => exact update_alike h hevent text version
  | updated v text version => exact update_alike h hevent text version
  | changed v text version => exact change_alike h hevent text version
  | closed v => exact close_alike h hevent
  | published v ds =>
    obtain ⟨id, hid, hsame⟩ := Identity.exists_ofValue_of_recognises hevent
    show Alike x (w.set v ds) (w'.set v ds)
    unfold set
    rw [hid]
    refine ⟨rfl, h.options, h.versions, ?_⟩
    show (w'.diagnostics.insert id ds).get? x = (w.diagnostics.insert id ds).get? x
    rw [Register.get?_insert_of_same _ _ hsame, Register.get?_insert_of_same _ _ hsame]
  | withdrawn v =>
    obtain ⟨diagnostics, hdiagnostics, hempty⟩ := Register.exists_eraseValue hevent w.diagnostics
    obtain ⟨diagnostics', hdiagnostics', hempty'⟩ := Register.exists_eraseValue hevent w'.diagnostics
    show Alike x (w.withdraw v) (w'.withdraw v)
    unfold withdraw
    rw [hdiagnostics, hdiagnostics']
    exact ⟨rfl, h.options, h.versions, hempty'.trans hempty.symm⟩
  | cleared => exact ⟨rfl, h.options, h.versions, rfl⟩
  | configured options => exact ⟨rfl, rfl, h.versions, h.diagnostics⟩

/-! ## Sequences of events -/

/-- A sequence of events and those of them that concern an identity, in workspaces that keep the same
for it: these have the same replies, and the workspaces keep the same afterwards. -/
theorem run_alike (h : Keeps x w w') (events : List Event) :
    Keeps x (w.run events) (w'.run (events.filter (Event.concerns x))) ∧
      (w.trace events).filter (Handled.concerns x) =
        w'.trace (events.filter (Event.concerns x)) := by
  induction events generalizing w w' with
  | nil => exact ⟨h, rfl⟩
  | cons event rest ih =>
    rw [trace]
    cases hevent : event.concerns x with
    | true =>
      have hhandled : Handled.concerns x ⟨event, (w.step event).reply⟩ = true := hevent
      have hstep := step_alike h hevent
      obtain ⟨hkeeps, htrace⟩ := ih hstep.keeps
      rw [List.filter_cons_of_pos hevent, List.filter_cons_of_pos hhandled, trace, htrace,
        hstep.reply]
      exact ⟨hkeeps, rfl⟩
    | false =>
      -- The event is left out of the second run, where nothing happens.
      have hskipped : ¬ event.concerns x = true := Bool.eq_false_iff.mp hevent
      have hhandled : ¬ Handled.concerns x ⟨event, (w.step event).reply⟩ = true := hskipped
      rw [List.filter_cons_of_neg hskipped, List.filter_cons_of_neg hhandled]
      exact ih ((step_keeps_of_not_concerns hevent).symm.trans h)

/-- Of the events of a workspace, only those matter to a document that are for it or for all. If the
others are left out, the same diagnostics and the same version are kept for it, and each event that is
left has the same reply. -/
theorem run_concerning (w : Workspace) {v : Value} {x : Identity}
    (hx : Identity.ofValue v = .ok x) (events : List Event) :
    let kept := events.filter (Event.concerns x)
    (w.run events).get v = (w.run kept).get v ∧ (w.run events).has v = (w.run kept).has v ∧
      (w.run events).versions.get? x = (w.run kept).versions.get? x ∧
      (w.trace events).filter (Handled.concerns x) = w.trace kept := by
  intro kept
  obtain ⟨hkeeps, htrace⟩ := run_alike (Keeps.refl x w) events
  refine ⟨?_, ?_, hkeeps.versions.symm, htrace⟩
  · unfold get
    rw [hx]
    show Except.ok (((w.run events).diagnostics.get? x).getD []) = _
    rw [← hkeeps.diagnostics]
    rfl
  · unfold has
    rw [hx]
    show Except.ok ((w.run events).diagnostics.contains x) = _
    rw [Register.contains_eq, ← hkeeps.diagnostics, ← Register.contains_eq]
    rfl

/-- A document is opened under a number, and an older version of it arrives under the flag that is the
same. Another document is opened, put into the collection and closed in between, and a list cannot be
closed. Then the options are set to a number, and an update is refused. -/
theorem run_concerning_number_and_flag :
    let w := Workspace.create "cscript" .absent
    let first : Event := .opened (.integer 1) (.text "|x") (some 2)
    let late : Event := .changed (.flag true) (.text "x") (some 1)
    let unset : Event := .configured (.other (.integer 0))
    let refused : Event := .updated (.flag true) (.text "x") (some 3)
    let x : Identity := ⟨.integer 1, some (.number 1)⟩
    let events : List Event := [.opened (.text "a") (.text "x") none, first,
      .published (.text "a") [], .closed (.list []), late, .closed (.text "a"), unset, refused]
    Identity.ofValue (.integer 1) = .ok x ∧
      events.filter (Event.concerns x) = [first, late, unset, refused] ∧
      (w.run events).get (.integer 1) = (w.run [first, late, unset, refused]).get (.integer 1) ∧
      (w.run events).has (.integer 1) = (w.run [first, late, unset, refused]).has (.integer 1) ∧
      (w.run events).versions.get? x = (w.run [first, late, unset, refused]).versions.get? x ∧
      (w.trace events).filter (Handled.concerns x) =
        w.trace [first, late, unset, refused] := by
  intro w first late unset refused x events
  have hx : Identity.ofValue (.integer 1) = .ok x := rfl
  have hkept : events.filter (Event.concerns x) = [first, late, unset, refused] := rfl
  have hrun := run_concerning w hx events
  rw [hkept] at hrun
  exact ⟨hx, hkept, hrun⟩

end Workspace

end ScriptLint
