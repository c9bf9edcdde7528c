import Mathlib.Data.List.Nodup
import ScriptLint.Proofs.Scan.Report
import ScriptLint.Proofs.Value.Register
import ScriptLint.Workspace

/-!
# The newest version wins

A workspace receives the versions of a document in any order, between events for other documents. It
keeps the diagnostics of the newest version, and of several with that number those of the last.

Two facts about a single event carry this. An event for another document leaves what is kept for this
one as it is (`step_keeps`). A version that is submitted is published unless the recorded one is newer
(`step_submission`), so that what is recorded is always the newest of those that were submitted
(`Follows.submit`). `Follows.run` is the induction over a sequence of events.
-/

namespace ScriptLint

/-- A version of a document that is submitted for a scan. -/
structure Submission where
  version : Int
  text : Value

/-- Whether a value stands for an identity. -/
def Identity.recognises (x : Identity) (v : Value) : Bool :=
  match Identity.ofValue v with
  | .ok id => id.same x
  | .error _ => false

/-- An identity recognises the values of the identities that are the same. -/
theorem Identity.recognises_of_ofValue {x id : Identity} {v : Value} (h : ofValue v = .ok id) :
    x.recognises v = id.same x := by
  unfold recognises
  rw [h]

/-- A value that is recognised stands for an identity that is the same. -/
theorem Identity.exists_ofValue_of_recognises {x : Identity} {v : Value}
    (h : x.recognises v = true) : ∃ id, ofValue v = .ok id ∧ id.same x = true := by
  unfold recognises at h
  cases hid : ofValue v with
  | error fault =>
    rw [hid] at h
    cases h
  | ok id =>
    rw [hid] at h
    exact ⟨id, rfl, h⟩

/-- A value that is not recognised stands for another identity, if for any. -/
theorem Identity.not_same_of_recognises {x id : Identity} {v : Value}
    (hv : x.recognises v = false) (h : ofValue v = .ok id) : ¬ id.same x = true := by
  rw [← recognises_of_ofValue h, hv]
  exact Bool.false_ne_true

namespace Event

/-- The version of a document that an event submits, if it does. -/
def submission? (x : Identity) : Event → Option Submission
  | .opened v text (some version) | .updated v text (some version)
  | .changed v text (some version) => if x.recognises v then some ⟨version, text⟩ else none
  | _ => none

/-- Whether an event opens, changes, updates or closes another document. -/
def isElsewhere (x : Identity) : Event → Bool
  | .opened v _ _ | .updated v _ _ | .changed v _ _ | .closed v => !x.recognises v
  | _ => false

/-- A version is submitted by opening, updating or changing the document. -/
theorem submission?_eq_some {x : Identity} {event : Event} {s : Submission}
    (h : event.submission? x = some s) :
    ∃ v, x.recognises v = true ∧ (event = .opened v s.text (some s.version) ∨
      event = .updated v s.text (some s.version) ∨ event = .changed v s.text (some s.version)) := by
  unfold submission? at h
  split at h
  · next v text version =>
    obtain ⟨hv, hs⟩ := Option.ite_none_right_eq_some.mp h
    cases hs
    exact ⟨v, hv, Or.inl rfl⟩
  · next v text version =>
    obtain ⟨hv, hs⟩ := Option.ite_none_right_eq_some.mp h
    cases hs
    exact ⟨v, hv, Or.inr (Or.inl rfl)⟩
  · next v text version =>
    obtain ⟨hv, hs⟩ := Option.ite_none_right_eq_some.mp h
    cases hs
    exact ⟨v, hv, Or.inr (Or.inr rfl)⟩
  · cases h

/-- An event for another document submits nothing for this one. -/
theorem submission?_eq_none {x : Identity} {event : Event} (h : event.isElsewhere x = true) :
    event.submission? x = none := by
  rw [Option.eq_none_iff_forall_ne_some]
  intro s hs
  obtain ⟨v, hv, rfl | rfl | rfl⟩ := submission?_eq_some hs
  -- All three ways to submit are for a value that is recognised.
  all_goals
    rw [isElsewhere, hv] at h
    cases h

/-- An event that is for another document, or submits a version whose text can be scanned. -/
def IsAdmissible (x : Identity) (event : Event) : Prop :=
  event.isElsewhere x = true ∨
    ∃ s, event.submission? x = some s ∧ ∃ ds, scan s.text = .ok ds

end Event

/-- The submission that counts among several: none before it is newer, and all after it are older. -/
def Newest (s : Submission) (submissions : List Submission) : Prop :=
  ∃ before after, submissions = before ++ s :: after ∧
    (∀ earlier ∈ before, earlier.version ≤ s.version) ∧
    ∀ later ∈ after, later.version < s.version

namespace Newest

variable {s t : Submission} {submissions : List Submission}

/-- The submission that counts is one of them. -/
theorem mem (h : Newest s submissions) : s ∈ submissions := by
  obtain ⟨before, after, rfl, -, -⟩ := h
  exact List.mem_append_right before List.mem_cons_self

/-- No submission is newer than the one that counts. -/
theorem le (h : Newest s submissions) (ht : t ∈ submissions) : t.version ≤ s.version := by
  obtain ⟨before, after, rfl, hbefore, hafter⟩ := h
  obtain hmem | hmem := List.mem_append.mp ht
  · exact hbefore t hmem
  · obtain rfl | hmem := List.mem_cons.mp hmem
    · exact Int.le_refl _
    · exact Int.le_of_lt (hafter t hmem)

/-- An older submission does not count. -/
theorem append_older (h : Newest s submissions) (ht : t.version < s.version) :
    Newest s (submissions ++ [t]) := by
  obtain ⟨before, after, rfl, hbefore, hafter⟩ := h
  refine ⟨before, after ++ [t], by rw [List.append_assoc, List.cons_append], hbefore, ?_⟩
  intro later hlater
  obtain hmem | hmem := List.mem_append.mp hlater
  · exact hafter later hmem
  · rw [List.mem_singleton.mp hmem]
    exact ht

/-- A submission that is not older than any before it counts from then on. -/
theorem append_newer (h : ∀ earlier ∈ submissions, earlier.version ≤ t.version) :
    Newest t (submissions ++ [t]) :=
  ⟨submissions, [], rfl, h, fun _ hmem => absurd hmem List.not_mem_nil⟩

/-- Where no two submissions have one version, the one that counts does not depend on their order. -/
theorem eq_of_perm {other : List Submission} (hs : Newest s submissions) (ht : Newest t other)
    (hperm : submissions.Perm other)
    (hdistinct : (submissions.map Submission.version).Nodup) : s = t := by
  have htmem : t ∈ submissions := hperm.mem_iff.mpr ht.mem
  have hversion : s.version = t.version :=
    Int.le_antisymm (ht.le (hperm.mem_iff.mp hs.mem)) (hs.le htmem)
  exact List.inj_on_of_nodup_map hdistinct hs.mem htmem hversion

end Newest

namespace Workspace

/-- The version that is recorded for an identity. -/
def version? (w : Workspace) (x : Identity) : Option Int := (w.versions.get? x).join

/-- The workspace after a sequence of events. -/
def run (w : Workspace) (events : List Event) : Workspace :=
  events.foldl (fun w event => (w.step event).workspace) w

/-! ## Events for other documents -/

/-- What is kept for an identity is the same in two workspaces, and so are the options. -/
structure Keeps (x : Identity) (w w' : Workspace) : Prop where
  options : w'.options = w.options
  versions : w'.versions.get? x = w.versions.get? x
  diagnostics : w'.diagnostics.get? x = w.diagnostics.get? x

/-- A workspace keeps what it has. -/
theorem Keeps.refl (x : Identity) (w : Workspace) : Keeps x w w := ⟨rfl, rfl, rfl⟩

/-- A scan leaves the workspace as it is, or publishes its result. -/
theorem scanAndPublish_workspace (w : Workspace) (id : Identity) (text : Value)
    (version : Option Int) :
    (w.scanAndPublish id text version).workspace = w ∨
      ∃ result, (w.scanAndPublish id text version).workspace = w.publish id version result := by
  unfold scanAndPublish
  split
  · exact Or.inl rfl
  · dsimp only
    split
    · exact Or.inl rfl
    · split
      · exact Or.inl rfl
      · exact Or.inr ⟨_, rfl⟩

/-- An update leaves the workspace as it is, or publishes a result under the identity it is for. -/
theorem update_workspace (w : Workspace) (v text : Value) (version : Option Int) :
    (w.update v text version).workspace = w ∨
      ∃ id result, Identity.ofValue v = .ok id ∧
        (w.update v text version).workspace = w.publish id version result := by
  unfold update
  cases hid : Identity.ofValue v with
  | error fault => exact Or.inl rfl
  | ok id =>
    dsimp only
    split
    · exact Or.inl rfl
    · exact Or.inl rfl
    · obtain hsame | ⟨result, hpublished⟩ := w.scanAndPublish_workspace id text version
      · exact Or.inl hsame
      · exact Or.inr ⟨id, result, rfl, hpublished⟩

/-- An update of another document keeps what there is for this one. -/
theorem update_keeps {w : Workspace} {x : Identity} {v text : Value} {version : Option Int}
    (h : x.recognises v = false) : Keeps x w (w.update v text version).workspace := by
  obtain hsame | ⟨id, result, hid, hpublished⟩ := w.update_workspace v text version
  · rw [hsame]
    exact Keeps.refl x w
  · have hother := Identity.not_same_of_recognises h hid
    rw [hpublished]
    exact ⟨rfl, Register.get?_insert_of_not_same _ _ hother,
      Register.get?_insert_of_not_same _ _ hother⟩

/-- Closing another document keeps what there is for this one. -/
theorem close_keeps {w : Workspace} {x : Identity} {v : Value} (h : x.recognises v = false) :
    Keeps x w (w.close v).workspace := by
  have hother : ∀ id, Identity.ofValue v = .ok id → ¬ id.same x = true :=
    fun id hid => Identity.not_same_of_recognises h hid
  unfold close
  split
  · exact Keeps.refl x w
  · next versions hversions =>
    have hkept := Register.get?_of_eraseValue hversions hother
    dsimp only
    split
    · exact ⟨rfl, hkept, rfl⟩
    · next diagnostics hdiagnostics =>
      exact ⟨rfl, hkept, Register.get?_of_eraseValue hdiagnostics hother⟩

/-- An event for another document keeps what there is for this one. -/
theorem step_keeps {w : Workspace} {x : Identity} {event : Event}
    (h : event.isElsewhere x = true) : Keeps x w (w.step event).workspace := by
  cases event with
  | opened v text version => exact update_keeps (Bool.not_eq_true' _ ▸ h)
  | updated v text version => exact update_keeps (Bool.not_eq_true' _ ▸ h)
  | changed v text version =>
    show Keeps x w (w.change v text version).workspace
    unfold change
    split
    · exact Keeps.refl x w
    · split
      · exact update_keeps (Bool.not_eq_true' _ ▸ h)
      · exact Keeps.refl x w
  | closed v => exact close_keeps (Bool.not_eq_true' _ ▸ h)
  | published => cases h
  | withdrawn => cases h
  | cleared => cases h
  | configured => cases h

/-! ## Events for the document -/

/-- The options are such that every version that arrives is scanned. -/
def Scans (w : Workspace) : Prop :=
  ∃ o, w.options = .options o ∧ o.diagnosticsEnabled = true ∧ o.checkOnType = true

/-- A text that can be scanned is published with its diagnostics. -/
theorem scanAndPublish_of_scan {w : Workspace} (hw : w.Scans) {text : Value}
    {ds : List Diagnostic} (hscan : scan text = .ok ds) (id : Identity) (version : Option Int) :
    ∃ result, (w.scanAndPublish id text version).workspace = w.publish id version result ∧
      result.diagnostics = ds := by
  obtain ⟨o, hoptions, henabled, -⟩ := hw
  obtain ⟨document, hdocument, hall⟩ := scan_eq_ok_iff.mp hscan
  have hcreate : Session.create text w.options ListedRule.defaultLine ListedRule.defaultDocument
      id.shown version = .ok
        { document, options := o, lineRules := ListedRule.defaultLine,
          documentRules := ListedRule.defaultDocument, identity := id.shown, version } := by
    unfold Session.create
    rw [hoptions, ListedRule.validate_defaultLine, ListedRule.validate_defaultDocument, hdocument]
    rfl
  unfold scanAndPublish
  rw [hcreate]
  dsimp only
  rw [Session.run_outcome rfl, scanDocument, if_pos henabled, hall]
  exact ⟨_, rfl, rfl⟩

/-- A version that is submitted is published, unless the recorded one is newer. -/
theorem update_of_scan {w : Workspace} (hw : w.Scans) {x : Identity} {v : Value}
    (hv : x.recognises v = true) {s : Submission} {ds : List Diagnostic}
    (hscan : scan s.text = .ok ds) :
    ((w.update v s.text (some s.version)).workspace = w ∧
      ∃ latest, w.version? x = some latest ∧ s.version < latest) ∨
    ((∀ latest, w.version? x = some latest → latest ≤ s.version) ∧
      ∃ id result, id.same x = true ∧ result.diagnostics = ds ∧
        (w.update v s.text (some s.version)).workspace = w.publish id (some s.version) result) := by
  cases hid : Identity.ofValue v with
  | error fault =>
    unfold Identity.recognises at hv
    rw [hid] at hv
    cases hv
  | ok id =>
    have hsame : id.same x = true := by rwa [← Identity.recognises_of_ofValue hid]
    have hlatest : (w.versions.get? id).join = w.version? x := by
      rw [version?, Register.get?_congr _ hsame]
    obtain ⟨result, hpublished, hds⟩ := scanAndPublish_of_scan hw hscan id (some s.version)
    unfold update
    rw [hid]
    dsimp only
    rw [hlatest]
    cases hversion : w.version? x with
    | none =>
      refine Or.inr ⟨fun latest h => ?_, id, result, hsame, hds, hpublished⟩
      cases h
    | some latest =>
      by_cases hstale : s.version < latest
      · refine Or.inl ⟨?_, latest, rfl, hstale⟩
        simp only [isStale, hstale, decide_true]
      · refine Or.inr ⟨fun other h => ?_, id, result, hsame, hds, ?_⟩
        · cases h
          omega
        · simp only [isStale, hstale, decide_false]
          exact hpublished

/-- An event that submits a version is an update with it, as long as changes are followed. -/
theorem step_submission {w : Workspace} (hw : w.Scans) {x : Identity} {event : Event}
    {s : Submission} (h : event.submission? x = some s) :
    ∃ v, x.recognises v = true ∧ w.step event = w.update v s.text (some s.version) := by
  obtain ⟨o, hoptions, -, htype⟩ := hw
  obtain ⟨v, hv, rfl | rfl | rfl⟩ := Event.submission?_eq_some h
  · exact ⟨v, hv, rfl⟩
  · exact ⟨v, hv, rfl⟩
  · refine ⟨v, hv, ?_⟩
    show w.change v s.text (some s.version) = _
    unfold change
    rw [hoptions]
    exact if_pos htype

/-! ## Sequences of events -/

/-- What a workspace keeps for an identity when the versions in `seen` were submitted for it: the
newest of them, with the diagnostics of its text. -/
structure Follows (x : Identity) (w : Workspace) (seen : List Submission) : Prop where
  scans : w.Scans
  unseen : seen = [] → w.version? x = none
  newest : seen ≠ [] → ∃ s, Newest s seen ∧ w.version? x = some s.version ∧
    ∃ ds, scan s.text = .ok ds ∧ w.diagnostics.get? x = some ds

namespace Follows

variable {x : Identity} {w w' : Workspace} {seen : List Submission}

/-- What is kept for the document is all that counts. -/
theorem keep (h : Follows x w seen) (hkeeps : Keeps x w w') : Follows x w' seen := by
  have hversion : w'.version? x = w.version? x := by
    unfold version?
    rw [hkeeps.versions]
  refine ⟨?_, ?_, ?_⟩
  · unfold Scans
    rw [hkeeps.options]
    exact h.scans
  · rw [hversion]
    exact h.unseen
  · rw [hversion, hkeeps.diagnostics]
    exact h.newest

/-- The recorded version is one of those that were submitted, and none of them is newer. -/
theorem le_of_version? (h : Follows x w seen) {bound : Int}
    (hbound : ∀ latest, w.version? x = some latest → latest ≤ bound) :
    ∀ earlier ∈ seen, earlier.version ≤ bound := by
  intro earlier hearlier
  obtain ⟨s, hnewest, hversion, -⟩ := h.newest (List.ne_nil_of_mem hearlier)
  have hle := hnewest.le hearlier
  have hs := hbound s.version hversion
  omega

/-- Submitting one more version. -/
theorem submit (h : Follows x w seen) {event : Event} {s : Submission}
    (hevent : event.submission? x = some s) {ds : List Diagnostic} (hscan : scan s.text = .ok ds) :
    Follows x (w.step event).workspace (seen ++ [s]) := by
  obtain ⟨v, hv, hstep⟩ := step_submission h.scans hevent
  rw [hstep]
  have hcons : seen ++ [s] ≠ [] := List.append_ne_nil_of_right_ne_nil seen (List.cons_ne_nil s [])
  obtain ⟨hsame, latest, hlatest, hstale⟩ | ⟨hbound, id, result, hid, hds, hpublished⟩ :=
    update_of_scan h.scans hv hscan
  · -- A newer version is recorded, and stays.
    rw [hsame]
    refine ⟨h.scans, fun hnil => absurd hnil hcons, fun _ => ?_⟩
    have hseen : seen ≠ [] := by
      intro hnil
      rw [h.unseen hnil] at hlatest
      cases hlatest
    obtain ⟨t, hnewest, hversion, hstored⟩ := h.newest hseen
    have holder : s.version < t.version := by
      rw [hversion] at hlatest
      cases hlatest
      exact hstale
    exact ⟨t, hnewest.append_older holder, hversion, hstored⟩
  · -- None that is recorded is newer, so this one is published in its place.
    rw [hpublished]
    refine ⟨h.scans, fun hnil => absurd hnil hcons, fun _ => ?_⟩
    refine ⟨s, Newest.append_newer (h.le_of_version? hbound), ?_, ds, hscan, ?_⟩
    · show ((w.versions.insert id (some s.version)).get? x).join = _
      rw [Register.get?_insert_of_same _ _ hid, Option.join_some]
    · show (w.diagnostics.insert id result.diagnostics).get? x = _
      rw [Register.get?_insert_of_same _ _ hid, hds]

/-- A sequence of events, each of which is for another document or submits a version. -/
theorem run {events : List Event} (h : Follows x w seen)
    (hevents : ∀ event ∈ events, event.IsAdmissible x) :
    Follows x (w.run events) (seen ++ events.filterMap (Event.submission? x)) := by
  induction events generalizing w seen with
  | nil =>
    rw [List.filterMap_nil, List.append_nil]
    exact h
  | cons event rest ih =>
    have hrest : ∀ event ∈ rest, event.IsAdmissible x :=
      fun event hmem => hevents event (List.mem_cons_of_mem _ hmem)
    obtain helsewhere | ⟨s, hs, ds, hscan⟩ := hevents event List.mem_cons_self
    · rw [List.filterMap_cons_none (Event.submission?_eq_none helsewhere)]
      exact ih (h.keep (step_keeps helsewhere)) hrest
    · rw [List.filterMap_cons_some hs, List.append_cons]
      exact ih (h.submit hs hscan) hrest

end Follows

/-- A workspace that follows a document gives the diagnostics of the newest version. -/
theorem Follows.get_eq {x : Identity} {w : Workspace} {seen : List Submission} {v : Value}
    (h : Follows x w seen) (hx : Identity.ofValue v = .ok x) (hseen : seen ≠ []) :
    ∃ s, Newest s seen ∧ w.version? x = some s.version ∧ w.get v = scan s.text := by
  obtain ⟨s, hnewest, hversion, ds, hscan, hstored⟩ := h.newest hseen
  refine ⟨s, hnewest, hversion, ?_⟩
  unfold get
  rw [hx, hscan]
  show Except.ok ((w.diagnostics.get? x).getD []) = _
  rw [hstored, Option.getD_some]

/-- Of the versions of a document that arrive in any order, between events for other documents, the
newest is recorded and its diagnostics are kept; of several with that number it is the last. If no two
have one number, the order in which all events arrive makes no difference. -/
theorem run_newest_version {w : Workspace} {o : ScanOptions} {v : Value} {x : Identity}
    {events : List Event} (hoptions : w.options = .options o)
    (henabled : o.diagnosticsEnabled = true) (htype : o.checkOnType = true)
    (hx : Identity.ofValue v = .ok x) (hunseen : w.version? x = none)
    (hevents : ∀ event ∈ events, event.IsAdmissible x)
    (hsome : events.filterMap (Event.submission? x) ≠ []) :
    (∃ s, Newest s (events.filterMap (Event.submission? x)) ∧
      (w.run events).version? x = some s.version ∧ (w.run events).get v = scan s.text) ∧
    (((events.filterMap (Event.submission? x)).map Submission.version).Nodup →
      ∀ others, events.Perm others → (w.run others).get v = (w.run events).get v) := by
  have hstart : Follows x w [] :=
    ⟨⟨o, hoptions, henabled, htype⟩, fun _ => hunseen, fun hnil => absurd rfl hnil⟩
  obtain ⟨s, hnewest, hversion, hget⟩ := (hstart.run hevents).get_eq hx hsome
  refine ⟨⟨s, hnewest, hversion, hget⟩, fun hdistinct others hperm => ?_⟩
  have hsubmissions : (events.filterMap (Event.submission? x)).Perm
      (others.filterMap (Event.submission? x)) := hperm.filterMap _
  have hothers : ∀ event ∈ others, event.IsAdmissible x :=
    fun event hmem => hevents event (hperm.mem_iff.mpr hmem)
  have hsomeOther : others.filterMap (Event.submission? x) ≠ [] := by
    intro hnil
    rw [hnil] at hsubmissions
    exact hsome hsubmissions.eq_nil
  obtain ⟨t, hnewestOther, -, hgetOther⟩ := (hstart.run hothers).get_eq hx hsomeOther
  have hst : s = t := hnewest.eq_of_perm hnewestOther hsubmissions hdistinct
  rw [hget, hgetOther, hst]

/-- A document is opened in its second version, another one is opened and closed, and the first version
arrives late; or the two arrive in their order. -/
theorem run_newest_version_late_first :
    let w : Workspace := {}
    let events : List Event := [.opened (.text "a") (.text "|x") (some 2),
      .opened (.text "b") .null none, .changed (.text "a") (.text "x") (some 1),
      .closed (.text "b")]
    let x : Identity := ⟨.text "a", some (.text "a")⟩
    (w.run events).version? x = some 2 ∧ (w.run events).get (.text "a") = scan (.text "|x") ∧
      (w.run events.reverse).get (.text "a") = scan (.text "|x") := by
  intro w events x
  have hbar : ∃ ds, scan (.text "|x") = .ok ds :=
    ⟨Diagnostic.sort [Spec.loneBar.at (.onLine 0 ⟨0, 2⟩) none],
      scan_eq_ok_iff.mpr ⟨_, rfl, rfl⟩⟩
  have hplain : ∃ ds, scan (.text "x") = .ok ds :=
    ⟨Diagnostic.sort [], scan_eq_ok_iff.mpr ⟨_, rfl, rfl⟩⟩
  have hsubmitted : events.filterMap (Event.submission? x) =
      [⟨2, .text "|x"⟩, ⟨1, .text "x"⟩] := rfl
  have hadmissible : ∀ event ∈ events, event.IsAdmissible x := by
    intro event hmem
    simp only [events, List.mem_cons, List.not_mem_nil, or_false] at hmem
    obtain rfl | rfl | rfl | rfl := hmem
    · exact Or.inr ⟨_, rfl, hbar⟩
    · exact Or.inl rfl
    · exact Or.inr ⟨_, rfl, hplain⟩
    · exact Or.inl rfl
  obtain ⟨⟨s, hnewest, hversion, hget⟩, hperm⟩ := run_newest_version (w := w) (o := {}) rfl rfl rfl
    (v := .text "a") (x := x) rfl rfl hadmissible (by rw [hsubmitted]; exact List.cons_ne_nil _ _)
  have hs : s = ⟨2, .text "|x"⟩ := by
    rw [hsubmitted] at hnewest
    have hle := hnewest.le List.mem_cons_self
    obtain rfl | hmem := List.mem_cons.mp hnewest.mem
    · rfl
    · rw [List.mem_singleton.mp hmem] at hle
      exact absurd hle (by decide)
  rw [hs] at hversion hget
  refine ⟨hversion, hget, ?_⟩
  have hdistinct : ((events.filterMap (Event.submission? x)).map Submission.version).Nodup := by
    rw [hsubmitted]
    decide
  rw [hperm hdistinct events.reverse (List.reverse_perm events).symm, hget]

end Workspace

end ScriptLint
