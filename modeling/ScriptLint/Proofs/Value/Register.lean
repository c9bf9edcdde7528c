import ScriptLint.Value.Register

/-!
# Laws of registers

What is found under an identity after data was put into a register or taken out of it. Identities
that are the same have the same key, so a register cannot tell one from the other
(`Identity.same_congr`). Data under one identity is found under all that are the same as it
(`get?_insert_of_same`), and what is found under any other does not change (`get?_insert_of_not_same`,
`get?_erase_of_not_same`).

A register that is filled from nothing keeps its identities apart (`Apart`), and then every entry, and
not only the first that a search meets, is as it was left (`Apart.exists_insert_perm`, `mem_erase`).
Registers with the same identities are images of one register under `map`, which all changes commute
with.
-/

namespace ScriptLint

namespace Identity

/-- Identities are the same exactly when they have one key. -/
theorem same_iff {a b : Identity} : a.same b = true ↔ ∃ key, a.key = some key ∧ b.key = some key := by
  unfold same
  rw [Bool.and_eq_true, Option.isSome_iff_exists, decide_eq_true_eq]
  constructor
  · rintro ⟨⟨key, ha⟩, hkeys⟩
    exact ⟨key, ha, by rw [← hkeys, ha]⟩
  · rintro ⟨key, ha, hb⟩
    exact ⟨⟨key, ha⟩, by rw [ha, hb]⟩

/-- What is the same as one of two identities that are the same is the same as the other. -/
theorem same_congr {a b : Identity} (h : a.same b = true) (c : Identity) : c.same a = c.same b := by
  obtain ⟨key, ha, hb⟩ := same_iff.mp h
  unfold same
  rw [ha, hb]

/-- Identities are the same from either side. -/
theorem same_comm (a b : Identity) : a.same b = b.same a := by
  rw [Bool.eq_iff_iff, same_iff, same_iff]
  exact exists_congr fun key => and_comm

/-- Of identities that are the same, either can be compared. -/
theorem same_congr_left {a b : Identity} (h : a.same b = true) (c : Identity) :
    a.same c = b.same c := by
  obtain ⟨key, ha, hb⟩ := same_iff.mp h
  unfold same
  rw [ha, hb]

/-- Whether data under one identity is data under the other: they are one identity, or the same. -/
def Agrees (a b : Identity) : Prop := a = b ∨ a.same b = true

/-- Identities that agree are the same as the same ones. -/
theorem Agrees.same_eq {a b : Identity} (h : a.Agrees b) (c : Identity) : a.same c = b.same c := by
  obtain rfl | h := h
  · rfl
  · exact same_congr_left h c

end Identity

namespace Register

variable {α : Type} {id x : Identity}

/-- Identities that are the same have the same data. -/
theorem get?_congr (r : Register α) (h : id.same x = true) : r.get? id = r.get? x := by
  unfold get?
  simp only [Identity.same_congr h]

/-- Data that is put under an identity is found under all that are the same. -/
theorem get?_insert_of_same (r : Register α) (a : α) (h : id.same x = true) :
    (r.insert id a).get? x = some a := by
  have hfind : ∀ entries : List (Identity × α),
      ((insertEntry id a entries).find? fun entry => entry.1.same x).map (·.2) = some a := by
    intro entries
    induction entries with
    | nil => simp only [insertEntry, List.find?_cons, h, Option.map_some]
    | cons entry rest ih =>
      rw [insertEntry, Identity.same_congr h]
      by_cases hold : entry.1.same x = true
      · rw [if_pos hold]
        simp only [List.find?_cons, hold, Option.map_some]
      · rw [if_neg hold]
        simp only [List.find?_cons, Bool.eq_false_iff.mpr hold, ih]
  exact hfind r.entries

/-- Data that is put under an identity is not found under another. -/
theorem get?_insert_of_not_same (r : Register α) (a : α) (h : ¬ id.same x = true) :
    (r.insert id a).get? x = r.get? x := by
  have hfind : ∀ entries : List (Identity × α),
      ((insertEntry id a entries).find? fun entry => entry.1.same x).map (·.2) =
        (entries.find? fun entry => entry.1.same x).map (·.2) := by
    intro entries
    induction entries with
    | nil => simp only [insertEntry, List.find?_cons, Bool.eq_false_iff.mpr h]
    | cons entry rest ih =>
      rw [insertEntry]
      by_cases hold : entry.1.same id = true
      · -- The entry that is replaced is not looked at, before or after.
        have hother : entry.1.same x = false := by
          rw [Identity.same_congr_left hold]
          exact Bool.eq_false_iff.mpr h
        simp only [if_pos hold, List.find?_cons, hother]
      · rw [if_neg hold]
        by_cases hx : entry.1.same x = true
        · simp only [List.find?_cons, hx]
        · simp only [List.find?_cons, Bool.eq_false_iff.mpr hx, ih]
  exact hfind r.entries

/-- Taking out the data under an identity leaves that under any other. -/
theorem get?_erase_of_not_same (r : Register α) (h : ¬ id.same x = true) :
    (r.erase id).get? x = r.get? x := by
  unfold get? erase
  rw [List.find?_filter]
  congr 2
  funext entry
  rw [Bool.eq_iff_iff, decide_eq_true_eq]
  refine ⟨fun hfound => hfound.2, fun hx => ⟨?_, hx⟩⟩
  -- What is the same as `x` is not the same as `id`, and is kept.
  rw [Bool.not_eq_true', Bool.eq_false_iff]
  intro hid
  exact h (by rwa [← Identity.same_congr_left hid])

/-- Data that is taken out is not found any more. -/
theorem get?_erase_of_same (r : Register α) (h : id.same x = true) : (r.erase id).get? x = none := by
  unfold get? erase
  rw [Option.map_eq_none_iff, List.find?_eq_none]
  intro entry hentry hx
  have hkept := (List.mem_filter.mp hentry).2
  rw [Identity.same_congr h, hx] at hkept
  cases hkept

/-- There is data under an identity exactly when data is found. -/
theorem contains_eq (r : Register α) (x : Identity) : r.contains x = (r.get? x).isSome := by
  unfold contains get?
  rw [Option.isSome_map, List.isSome_find?]

/-- Taking out the data of a value takes out that of the identity it stands for. Only where there is
no data at all may it stand for none. -/
theorem eraseValue_eq_ok {r s : Register α} {v : Value} (h : r.eraseValue v = .ok s) :
    (∃ id, Identity.ofValue v = .ok id ∧ s = r.erase id) ∨
      (s = r ∧ ∀ id, Identity.ofValue v ≠ .ok id) := by
  obtain ⟨entries⟩ := r
  unfold eraseValue at h
  split at h
  · next hempty =>
    cases h
    rw [List.isEmpty_iff] at hempty
    subst hempty
    cases hid : Identity.ofValue v with
    | error fault => exact Or.inr ⟨rfl, fun id hok => by cases hok⟩
    | ok id => exact Or.inl ⟨id, rfl, rfl⟩
  · cases hid : Identity.ofValue v with
    | error fault =>
      rw [hid] at h
      cases h
    | ok id =>
      rw [hid] at h
      cases h
      exact Or.inl ⟨id, rfl, rfl⟩

/-- The data of a value cannot be taken out only if it stands for no identity. -/
theorem ofValue_of_eraseValue_eq_error {r : Register α} {v : Value} {fault : Fault}
    (h : r.eraseValue v = .error fault) : Identity.ofValue v = .error fault := by
  unfold eraseValue at h
  split at h
  · cases h
  · cases hid : Identity.ofValue v with
    | error cause =>
      rw [hid] at h
      cases h
      rfl
    | ok id =>
      rw [hid] at h
      cases h

/-- Taking out the data of a value leaves that under any other identity. -/
theorem get?_of_eraseValue {r s : Register α} {v : Value} (hs : r.eraseValue v = .ok s)
    (h : ∀ id, Identity.ofValue v = .ok id → ¬ id.same x = true) : s.get? x = r.get? x := by
  obtain ⟨id, hid, rfl⟩ | ⟨rfl, -⟩ := eraseValue_eq_ok hs
  · exact get?_erase_of_not_same r (h id hid)
  · rfl

/-! ## Entries -/

/-- No two entries have identities that are the same. -/
def Apart (r : Register α) : Prop := r.identities.Pairwise fun a b => a.same b = false

/-- A register without data has no two entries. -/
theorem apart_empty : (empty : Register α).Apart := List.Pairwise.nil

/-- Data that is put under an identity takes the place of the first data under one that is the same,
or comes last where there is none. -/
theorem entries_insert (r : Register α) (id : Identity) (a : α) :
    (∃ before first b after, r.entries = before ++ (first, b) :: after ∧ first.same id = true ∧
      (r.insert id a).entries = before ++ (first, a) :: after) ∨
    ((∀ entry ∈ r.entries, entry.1.same id = false) ∧
      (r.insert id a).entries = r.entries ++ [(id, a)]) := by
  obtain ⟨entries⟩ := r
  unfold insert
  induction entries with
  | nil => exact Or.inr ⟨fun entry hentry => absurd hentry List.not_mem_nil, rfl⟩
  | cons entry rest ih =>
    dsimp only at ih ⊢
    rw [insertEntry]
    by_cases hold : entry.1.same id = true
    · rw [if_pos hold]
      exact Or.inl ⟨[], entry.1, entry.2, rest, rfl, hold, rfl⟩
    · rw [if_neg hold]
      obtain ⟨before, first, b, after, hrest, hfirst, hinsert⟩ | ⟨hother, hinsert⟩ := ih
      · refine Or.inl ⟨entry :: before, first, b, after, ?_, hfirst, ?_⟩
        · rw [hrest, List.cons_append]
        · rw [hinsert, List.cons_append]
      · refine Or.inr ⟨List.forall_mem_cons.mpr ⟨Bool.eq_false_iff.mpr hold, hother⟩, ?_⟩
        rw [hinsert, List.cons_append]

/-- Putting data under an identity keeps the identities apart. -/
theorem Apart.insert {r : Register α} (h : r.Apart) (id : Identity) (a : α) :
    (r.insert id a).Apart := by
  unfold Apart identities at h ⊢
  obtain ⟨before, first, b, after, hr, -, hinsert⟩ | ⟨hother, hinsert⟩ := r.entries_insert id a
  · rw [hr, List.map_append] at h
    rw [hinsert, List.map_append]
    exact h
  · rw [hinsert, List.map_append, List.pairwise_append]
    refine ⟨h, List.pairwise_singleton _ _, fun y hy z hz => ?_⟩
    obtain ⟨entry, hentry, rfl⟩ := List.mem_map.mp hy
    rw [List.mem_singleton.mp hz]
    exact hother entry hentry

/-- Taking out the data under an identity keeps the others apart. -/
theorem Apart.erase {r : Register α} (h : r.Apart) (id : Identity) : (r.erase id).Apart :=
  List.Pairwise.sublist (List.filter_sublist.map Prod.fst) h

/-- What is left after data was taken out was there under other identities. -/
theorem mem_erase {r : Register α} {id : Identity} {entry : Identity × α} :
    entry ∈ (r.erase id).entries ↔ entry ∈ r.entries ∧ entry.1.same id = false := by
  unfold erase
  rw [List.mem_filter, Bool.not_eq_true']

/-- Taking out data that is not there changes nothing. -/
theorem filter_eq_self_of_other {entries : List (Identity × α)} {id : Identity}
    (h : ∀ entry ∈ entries, entry.1.same id = false) :
    entries.filter (fun entry => !entry.1.same id) = entries := by
  rw [List.filter_eq_self]
  intro entry hentry
  rw [h entry hentry, Bool.not_false]

/-- Up to their order, the entries after data was put under an identity are the new one and those
that are left when the old data is taken out. -/
theorem Apart.exists_insert_perm {r : Register α} (h : r.Apart) (id : Identity) (a : α) :
    ∃ first : Identity, first.Agrees id ∧
      (r.insert id a).entries.Perm ((first, a) :: (r.erase id).entries) := by
  unfold Register.erase
  obtain ⟨before, first, b, after, hr, hfirst, hinsert⟩ | ⟨hother, hinsert⟩ := r.entries_insert id a
  · refine ⟨first, Or.inr hfirst, ?_⟩
    unfold Apart identities at h
    rw [hr, List.map_append, List.map_cons, List.pairwise_append, List.pairwise_cons] at h
    obtain ⟨-, ⟨hlater, -⟩, hearlier⟩ := h
    -- Only one entry is the same as the identity: the others are apart from it.
    have hbefore : ∀ entry ∈ before, entry.1.same id = false := by
      intro entry hentry
      rw [← Identity.same_congr hfirst]
      exact hearlier entry.1 (List.mem_map_of_mem hentry) first List.mem_cons_self
    have hafter : ∀ entry ∈ after, entry.1.same id = false := by
      intro entry hentry
      rw [← Identity.same_congr hfirst, Identity.same_comm]
      exact hlater entry.1 (List.mem_map_of_mem hentry)
    have hleft : r.entries.filter (fun entry => !entry.1.same id) = before ++ after := by
      rw [hr, List.filter_append, List.filter_cons_of_neg (by rw [hfirst]; exact Bool.false_ne_true),
        filter_eq_self_of_other hbefore, filter_eq_self_of_other hafter]
    rw [hinsert, hleft]
    exact List.perm_middle
  · refine ⟨id, Or.inl rfl, ?_⟩
    rw [hinsert, filter_eq_self_of_other hother]
    exact List.perm_append_singleton _ _

/-! ## Images -/

variable {β : Type}

/-- The register with a function of its data. -/
def map (f : α → β) (r : Register α) : Register β := ⟨r.entries.map fun entry => (entry.1, f entry.2)⟩

/-- An image is kept under the same identities. -/
@[simp] theorem identities_map (f : α → β) (r : Register α) : (r.map f).identities = r.identities := by
  unfold identities map
  rw [List.map_map]
  rfl

/-- Data is put into an image as its function. -/
theorem insert_map (f : α → β) (r : Register α) (id : Identity) (a : α) :
    (r.map f).insert id (f a) = (r.insert id a).map f := by
  have hentries : ∀ entries : List (Identity × α),
      insertEntry id (f a) (entries.map fun entry => (entry.1, f entry.2)) =
        (insertEntry id a entries).map fun entry => (entry.1, f entry.2) := by
    intro entries
    induction entries with
    | nil => rfl
    | cons old rest ih =>
      rw [List.map_cons, insertEntry, insertEntry, ih]
      split
      · rfl
      · rfl
  exact congrArg Register.mk (hentries r.entries)

/-- Data is taken out of an image as it is taken out of the register. -/
theorem eraseValue_map (f : α → β) (r : Register α) (v : Value) :
    (r.map f).eraseValue v = (r.eraseValue v).map fun left => left.map f := by
  have herase : ∀ id, (r.map f).erase id = (r.erase id).map f := by
    intro id
    unfold erase map
    rw [List.filter_map]
    rfl
  unfold eraseValue
  rw [show (r.map f).entries.isEmpty = r.entries.isEmpty from List.isEmpty_map]
  split
  · rfl
  · cases Identity.ofValue v with
    | error fault => rfl
    | ok id => exact congrArg Except.ok (herase id)

end Register

end ScriptLint
