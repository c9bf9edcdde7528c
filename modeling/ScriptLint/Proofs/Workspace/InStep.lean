import ScriptLint.Proofs.Workspace.Effect

/-!
# Versions and diagnostics stay in step

A workspace keeps versions in one register and diagnostics in another. As long as nothing else writes
to the collection, the two have the same identities in the same order, and each entry is what the last
scan of its document came to.

Both registers are images of one, whose entries are *publications*: a text that was scanned, with its
version and its diagnostics, and the place in the trace where that happened. A publication is *current*
while no later event has ended it, by closing the document or by publishing again
(`current_append_singleton`). The invariant `InStep` is that the entries of this register are exactly
the current publications. `InStep.step` shows that an event keeps it, by cases on its effect, and
`InStep.run` is the induction over a sequence of events.
-/

namespace ScriptLint

/-- Whether an event is one that a provider of diagnostics has: all but those that write to the
collection directly. -/
def Event.isOfProvider : Event → Bool
  | .opened .. | .updated .. | .changed .. | .closed _ | .configured _ => true
  | .published .. | .withdrawn _ | .cleared => false

/-- A scan whose result was published. -/
structure Publication where
  /-- The number of events before it. -/
  place : Nat
  text : Value
  version : Option Int
  diagnostics : List Diagnostic
  scanned : scan text = .ok diagnostics

namespace Handled

/-- An event publishes a text and a version if it asks for their scan and has a result. -/
def Publishes (h : Handled) (id : Identity) (p : Publication) : Prop :=
  ∃ v result, h.event.request? = some ⟨v, p.text, p.version⟩ ∧ Identity.ofValue v = .ok id ∧
    h.reply = .ok (some result)

/-- An event ends what was published for an identity if it closes the document, or asks for another
scan of it and has a result. -/
def Ends (h : Handled) (id : Identity) : Prop :=
  (∃ v, h.event = .closed v ∧ id.recognises v = true) ∨
    ∃ r result, h.event.request? = some r ∧ id.recognises r.identity = true ∧
      h.reply = .ok (some result)

variable {h : Handled}

/-- An event without a result publishes nothing. -/
theorem not_publishes (hreply : ∀ result, h.reply ≠ .ok (some result)) (id : Identity)
    (p : Publication) : ¬ h.Publishes id p := by
  rintro ⟨v, result, -, -, hresult⟩
  exact hreply result hresult

/-- An event without a result ends what was published only if it closes the document. -/
theorem ends_iff_closed (hreply : ∀ result, h.reply ≠ .ok (some result)) (id : Identity) :
    h.Ends id ↔ ∃ v, h.event = .closed v ∧ id.recognises v = true := by
  refine or_iff_left ?_
  rintro ⟨r, result, -, -, hresult⟩
  exact hreply result hresult

/-- An event without a result that closes no document ends nothing. -/
theorem not_ends (hreply : ∀ result, h.reply ≠ .ok (some result))
    (hclosed : ∀ v x, h.event = .closed v → Identity.ofValue v ≠ .ok x) (id : Identity) :
    ¬ h.Ends id := by
  rw [ends_iff_closed hreply]
  rintro ⟨v, hv, hrecognised⟩
  obtain ⟨x, hx, -⟩ := Identity.exists_ofValue_of_recognises hrecognised
  exact hclosed v x hv hx

end Handled

/-- A publication for an identity that no later event of a trace has ended. -/
def Current (t : List Handled) (id : Identity) (p : Publication) : Prop :=
  ∃ before h after, t = before ++ h :: after ∧ before.length = p.place ∧ h.Publishes id p ∧
    ∀ later ∈ after, ¬ later.Ends id

/-- A current publication has its place in the trace. -/
theorem Current.place_lt {t : List Handled} {id : Identity} {p : Publication}
    (hp : Current t id p) : p.place < t.length := by
  obtain ⟨before, h, after, rfl, hplace, -⟩ := hp
  rw [List.length_append, List.length_cons]
  omega

/-- After one more event, that event's own publication is current, and so are those before that it
did not end. -/
theorem current_append_singleton {t : List Handled} {h : Handled} {id : Identity}
    {p : Publication} :
    Current (t ++ [h]) id p ↔
      (h.Publishes id p ∧ p.place = t.length) ∨ (Current t id p ∧ ¬ h.Ends id) := by
  constructor
  · rintro ⟨before, last, after, ht, hplace, hlast, hafter⟩
    -- The publication is the last event exactly when nothing comes after it.
    obtain rfl | ⟨middle, final, rfl⟩ := List.eq_nil_or_concat after
    · obtain ⟨rfl, hh⟩ := List.append_inj' ht rfl
      cases hh
      exact Or.inl ⟨hlast, hplace.symm⟩
    · rw [List.concat_eq_append] at ht hafter
      rw [← List.cons_append, ← List.append_assoc] at ht
      obtain ⟨rfl, hh⟩ := List.append_inj' ht rfl
      cases hh
      refine Or.inr ⟨⟨before, last, middle, rfl, hplace, hlast, fun later hlater => ?_⟩, ?_⟩
      · exact hafter later (List.mem_append_left _ hlater)
      · exact hafter h (List.mem_append_right _ List.mem_cons_self)
  · rintro (⟨hlast, hplace⟩ | ⟨⟨before, last, after, rfl, hplace, hlast, hafter⟩, hends⟩)
    · exact ⟨t, h, [], rfl, hplace.symm, hlast, fun _ hlater => absurd hlater List.not_mem_nil⟩
    · refine ⟨before, last, after ++ [h], ?_, hplace, hlast, fun later hlater => ?_⟩
      · rw [List.append_assoc, List.cons_append]
      · obtain hlater | hlater := List.mem_append.mp hlater
        · exact hafter later hlater
        · rw [List.mem_singleton.mp hlater]
          exact hends

namespace Workspace

/-- A workspace whose registers are the images of one register of publications, which has exactly the
current ones. -/
structure InStep (t : List Handled) (w : Workspace) (r : Register Publication) : Prop where
  versions : w.versions = r.map Publication.version
  diagnostics : w.diagnostics = r.map Publication.diagnostics
  apart : r.Apart
  distinct : (r.entries.map fun entry => entry.2.place).Nodup
  current : ∀ entry ∈ r.entries, ∃ id, entry.1.Agrees id ∧ Current t id entry.2
  complete : ∀ id p, Current t id p → ∃ first : Identity, first.Agrees id ∧ (first, p) ∈ r.entries

namespace InStep

variable {t : List Handled} {w : Workspace} {r : Register Publication}

/-- A workspace without documents is in step with the empty trace. -/
theorem create (name : String) (options : OptionsArgument) :
    InStep [] (Workspace.create name options) .empty := by
  refine ⟨rfl, rfl, Register.apart_empty, List.nodup_nil, ?_, ?_⟩
  · exact fun entry hentry => absurd hentry List.not_mem_nil
  · exact fun id p hcurrent => absurd hcurrent.place_lt (Nat.not_lt_zero _)

/-- An event without a result that closes no document and changes no register. -/
theorem quiet (hw : InStep t w r) {h : Handled} {w' : Workspace}
    (hreply : ∀ result, h.reply ≠ .ok (some result))
    (hclosed : ∀ v x, h.event = .closed v → Identity.ofValue v ≠ .ok x)
    (hversions : w'.versions = w.versions) (hdiagnostics : w'.diagnostics = w.diagnostics) :
    InStep (t ++ [h]) w' r := by
  refine ⟨hversions.trans hw.versions, hdiagnostics.trans hw.diagnostics, hw.apart, hw.distinct,
    ?_, ?_⟩
  · intro entry hentry
    obtain ⟨id, hagrees, hcurrent⟩ := hw.current entry hentry
    refine ⟨id, hagrees, current_append_singleton.mpr (Or.inr ⟨hcurrent, ?_⟩)⟩
    exact Handled.not_ends hreply hclosed id
  · intro id p hcurrent
    obtain ⟨hlast, -⟩ | ⟨hold, -⟩ := current_append_singleton.mp hcurrent
    · exact absurd hlast (Handled.not_publishes hreply id p)
    · exact hw.complete id p hold

section Ending

variable {h : Handled} {x : Identity} (hends : ∀ id, h.Ends id ↔ x.same id = true)
include hends

/-- What is left when a document is taken out is current after the event that ends it. -/
theorem current_of_mem_erase (hw : InStep t w r) {entry : Identity × Publication}
    (hentry : entry ∈ (r.erase x).entries) :
    ∃ id, entry.1.Agrees id ∧ Current (t ++ [h]) id entry.2 := by
  obtain ⟨hold, hother⟩ := Register.mem_erase.mp hentry
  obtain ⟨id, hagrees, hcurrent⟩ := hw.current entry hold
  refine ⟨id, hagrees, current_append_singleton.mpr (Or.inr ⟨hcurrent, fun hended => ?_⟩)⟩
  rw [hends, Identity.same_comm, ← hagrees.same_eq, hother] at hended
  cases hended

/-- What was current and is not ended is left when a document is taken out. -/
theorem mem_erase_of_current (hw : InStep t w r) {id : Identity} {p : Publication}
    (hcurrent : Current t id p) (hkept : ¬ h.Ends id) :
    ∃ first : Identity, first.Agrees id ∧ (first, p) ∈ (r.erase x).entries := by
  obtain ⟨first, hagrees, hmem⟩ := hw.complete id p hcurrent
  refine ⟨first, hagrees, Register.mem_erase.mpr ⟨hmem, ?_⟩⟩
  rw [hagrees.same_eq, Identity.same_comm, Bool.eq_false_iff]
  exact fun hsame => hkept ((hends id).mpr hsame)

end Ending

/-- An event that publishes the result of a scan. -/
theorem publish (hw : InStep t w r) {event : Event} {request : Request} {x : Identity}
    {result : ScanResult} (hrequest : event.request? = some request)
    (hx : Identity.ofValue request.identity = .ok x)
    (hscan : scan request.text = .ok result.diagnostics) :
    ∃ r', InStep (t ++ [⟨event, .ok (some result)⟩]) (w.publish x request.version result) r' := by
  let new : Publication := ⟨t.length, request.text, request.version, result.diagnostics, hscan⟩
  have hends : ∀ id, Handled.Ends ⟨event, .ok (some result)⟩ id ↔ x.same id = true := by
    intro id
    rw [← Identity.recognises_of_ofValue hx]
    constructor
    · rintro (⟨v, rfl, -⟩ | ⟨other, -, hother, hrecognised, -⟩)
      · cases hrequest
      · cases hrequest.symm.trans hother
        exact hrecognised
    · exact fun hrecognised => Or.inr ⟨request, result, hrequest, hrecognised, rfl⟩
  have hpublishes : Handled.Publishes ⟨event, .ok (some result)⟩ x new :=
    ⟨request.identity, result, hrequest, hx, rfl⟩
  -- Place, text and version determine a publication, since its diagnostics are those of the text.
  have hunique : ∀ id p, Handled.Publishes ⟨event, .ok (some result)⟩ id p → p.place = t.length →
      id = x ∧ p = new := by
    rintro id ⟨place, text, version, ds, hds⟩ ⟨v, -, hrequested, hid, -⟩ rfl
    cases hrequest.symm.trans hrequested
    cases hx.symm.trans hid
    cases hscan.symm.trans hds
    exact ⟨rfl, rfl⟩
  obtain ⟨first, hfirst, hperm⟩ := hw.apart.exists_insert_perm x new
  refine ⟨r.insert x new, ?_, ?_, hw.apart.insert x new, ?_, ?_, ?_⟩
  · show w.versions.insert x new.version = _
    rw [hw.versions, Register.insert_map]
  · show w.diagnostics.insert x new.diagnostics = _
    rw [hw.diagnostics, Register.insert_map]
  · -- Current publications have places in the trace so far, and the new one comes after it.
    rw [(hperm.map _).nodup_iff, List.map_cons, List.nodup_cons]
    refine ⟨fun hmem => ?_, hw.distinct.sublist (List.filter_sublist.map _)⟩
    obtain ⟨entry, hentry, hplace⟩ := List.mem_map.mp hmem
    obtain ⟨id, -, hcurrent⟩ := hw.current entry (Register.mem_erase.mp hentry).1
    exact absurd hcurrent.place_lt (by rw [hplace]; exact Nat.lt_irrefl _)
  · intro entry hentry
    obtain rfl | hentry := List.mem_cons.mp (hperm.mem_iff.mp hentry)
    · exact ⟨x, hfirst, current_append_singleton.mpr (Or.inl ⟨hpublishes, rfl⟩)⟩
    · exact hw.current_of_mem_erase hends hentry
  · intro id p hcurrent
    obtain ⟨hlast, hplace⟩ | ⟨hold, hkept⟩ := current_append_singleton.mp hcurrent
    · obtain ⟨rfl, rfl⟩ := hunique id p hlast hplace
      exact ⟨first, hfirst, hperm.mem_iff.mpr List.mem_cons_self⟩
    · obtain ⟨known, hagrees, hmem⟩ := hw.mem_erase_of_current hends hold hkept
      exact ⟨known, hagrees, hperm.mem_iff.mpr (List.mem_cons_of_mem _ hmem)⟩

/-- An event that closes a document. -/
theorem close (hw : InStep t w r) {v : Value} {versions : Register (Option Int)}
    {diagnostics : Register (List Diagnostic)} (hversions : w.versions.eraseValue v = .ok versions)
    (hdiagnostics : w.diagnostics.eraseValue v = .ok diagnostics) :
    ∃ r', InStep (t ++ [⟨.closed v, .ok none⟩]) { w with versions, diagnostics } r' := by
  rw [hw.versions, Register.eraseValue_map] at hversions
  rw [hw.diagnostics, Register.eraseValue_map] at hdiagnostics
  have hreply : ∀ result, (Except.ok none : Except Fault (Option ScanResult)) ≠ .ok (some result) :=
    fun _ => nofun
  cases hleft : r.eraseValue v with
  | error fault =>
    rw [hleft] at hversions
    cases hversions
  | ok left =>
    rw [hleft] at hversions hdiagnostics
    cases hversions
    cases hdiagnostics
    obtain ⟨x, hx, rfl⟩ | ⟨rfl, hnone⟩ := Register.eraseValue_eq_ok hleft
    · have hends : ∀ id, Handled.Ends ⟨.closed v, .ok none⟩ id ↔ x.same id = true := by
        intro id
        rw [Handled.ends_iff_closed hreply, ← Identity.recognises_of_ofValue hx]
        constructor
        · rintro ⟨u, hu, hrecognised⟩
          cases hu
          exact hrecognised
        · exact fun hrecognised => ⟨v, rfl, hrecognised⟩
      refine ⟨r.erase x, rfl, rfl, hw.apart.erase x,
        hw.distinct.sublist (List.filter_sublist.map _), ?_, ?_⟩
      · exact fun entry hentry => hw.current_of_mem_erase hends hentry
      · intro id p hcurrent
        obtain ⟨hlast, -⟩ | ⟨hold, hkept⟩ := current_append_singleton.mp hcurrent
        · exact absurd hlast (Handled.not_publishes hreply id p)
        · exact hw.mem_erase_of_current hends hold hkept
    · -- The value stands for no identity, so there was nothing to take out.
      refine ⟨left, hw.quiet hreply (fun u x hu => ?_) hw.versions.symm hw.diagnostics.symm⟩
      cases hu
      exact hnone x

/-- An event of a provider keeps a workspace in step. -/
theorem step (hw : InStep t w r) {event : Event} (hevent : event.isOfProvider = true) :
    ∃ r', InStep (t ++ [⟨event, (w.step event).reply⟩]) (w.step event).workspace r' := by
  have heffect := w.step_effect event
  generalize (w.step event).reply = reply at heffect ⊢
  generalize (w.step event).workspace = w' at heffect ⊢
  cases heffect with
  | refused fault hclosed => exact ⟨r, hw.quiet (fun _ => nofun) hclosed rfl rfl⟩
  | passed request hrequest =>
    refine ⟨r, hw.quiet (fun _ => nofun) (fun v x hv => ?_) rfl rfl⟩
    rw [show event = .closed v from hv] at hrequest
    cases hrequest
  | scanned request x result hrequest hx hscan => exact hw.publish hrequest hx hscan
  | closed v versions diagnostics hclosed hversions hdiagnostics =>
    subst hclosed
    exact hw.close hversions hdiagnostics
  | collected v x ds hcollected =>
    subst hcollected
    cases hevent
  | withdrawn v diagnostics hwithdrawn =>
    subst hwithdrawn
    cases hevent
  | cleared hcleared =>
    subst hcleared
    cases hevent
  | configured options hconfigured =>
    refine ⟨r, hw.quiet (fun _ => nofun) (fun v x hv => ?_) rfl rfl⟩
    cases hconfigured.symm.trans hv

/-- A sequence of events of a provider keeps a workspace in step. -/
theorem run (hw : InStep t w r) {events : List Event}
    (hevents : ∀ event ∈ events, event.isOfProvider = true) :
    ∃ r', InStep (t ++ w.trace events) (w.run events) r' := by
  induction events generalizing t w r with
  | nil =>
    rw [trace, List.append_nil]
    exact ⟨r, hw⟩
  | cons event rest ih =>
    obtain ⟨r', hw'⟩ := hw.step (hevents event List.mem_cons_self)
    rw [trace, List.append_cons]
    exact ih hw' fun later hlater => hevents later (List.mem_cons_of_mem _ hlater)

end InStep

/-- After any events of a provider, refused ones among them, versions and diagnostics are kept for the
same identities in the same order. They are those of the current publications: each entry is the last
scan of its document that had a result, which no later event has closed, and no such scan is missing. -/
theorem run_in_step (name : String) (options : OptionsArgument) {events : List Event}
    (hevents : ∀ event ∈ events, event.isOfProvider = true) :
    let start := Workspace.create name options
    (start.run events).versions.identities = (start.run events).diagnostics.identities ∧
      ∃ r, InStep (start.trace events) (start.run events) r := by
  intro start
  obtain ⟨r, hr⟩ := (InStep.create name options).run hevents
  refine ⟨?_, r, hr⟩
  rw [hr.versions, hr.diagnostics, Register.identities_map, Register.identities_map]

/-- A document is opened under a flag and updated under the number that is the same. Another one is
opened without a version and closed, and a list cannot be closed. Then the options are set to a number,
and a change is refused. -/
theorem run_in_step_flag_and_number :
    let start := Workspace.create "cscript" .absent
    let events : List Event := [.opened (.flag true) (.text "|x") (some 2),
      .opened (.text "a") (.text "x") none, .updated (.integer 1) (.text "x") (some 3),
      .closed (.text "a"), .closed (.list []), .configured (.other (.integer 0)),
      .changed (.flag true) (.text "|x") (some 4)]
    (∀ event ∈ events, event.isOfProvider = true) ∧
      (start.run events).versions.entries = [(⟨.flag true, some (.number 1)⟩, some 3)] ∧
      (start.run events).versions.identities = (start.run events).diagnostics.identities ∧
      ∃ r, InStep (start.trace events) (start.run events) r := by
  intro start events
  have hevents : ∀ event ∈ events, event.isOfProvider = true := by decide
  exact ⟨hevents, rfl, run_in_step "cscript" .absent hevents⟩

end Workspace

end ScriptLint
