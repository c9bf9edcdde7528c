import ScriptLint.Fault

/-!
# Computations that can fail

A computation ends in a fault or gives a value. `fault?` keeps the fault alone, so that where a list
is gone through the first fault is a search (`fault?_mapM`), and the order in which checks fail can
be told without the values between them. `eq_filterMap_of_mapM` is the other side: a list that was
gone through without a fault gives the values in order.
-/

namespace ScriptLint

variable {α β : Type}

/-- The fault that a computation ends in, if it does. -/
def fault? : Except Fault α → Option Fault
  | .ok _ => none
  | .error fault => some fault

@[simp] theorem fault?_ok (a : α) : fault? (.ok a) = none := rfl

@[simp] theorem fault?_error (fault : Fault) : fault? (.error fault : Except Fault α) = some fault :=
  rfl

/-- A computation without a fault gives a value. -/
theorem fault?_eq_none_iff {x : Except Fault α} : fault? x = none ↔ ∃ a, x = .ok a := by
  cases x with
  | ok a => simp
  | error fault => simp

/-- A computation ends in the fault that it has. -/
theorem fault?_eq_some_iff {x : Except Fault α} {fault : Fault} :
    fault? x = some fault ↔ x = .error fault := by
  cases x with
  | ok a => simp
  | error cause => simp

/-- What follows a value goes on with it. -/
theorem ok_bind (a : α) (f : α → Except Fault β) : (Except.ok a >>= f) = f a := rfl

/-- A computation in two steps gives a value only if both do. -/
theorem bind_eq_ok {x : Except Fault α} {f : α → Except Fault β} {b : β}
    (h : x >>= f = .ok b) : ∃ a, x = .ok a ∧ f a = .ok b := by
  cases x with
  | ok a => exact ⟨a, rfl, h⟩
  | error fault => cases h

/-- What is done with a value afterwards does not change the fault. -/
@[simp] theorem fault?_bind_pure (x : Except Fault α) (g : α → β) :
    fault? (x >>= fun a => pure (g a)) = fault? x := by
  cases x with
  | ok a => rfl
  | error fault => rfl

/-- A computation that needs two others has the fault of the first, or else that of the second. -/
theorem fault?_bind_bind_pure {γ : Type} (x : Except Fault α) (y : Except Fault β)
    (g : α → β → γ) :
    fault? (x >>= fun a => y >>= fun b => pure (g a b)) = (fault? x).or (fault? y) := by
  cases x with
  | ok a => cases y with
    | ok b => rfl
    | error fault => rfl
  | error fault => rfl

/-- Going through a list ends in the first fault on the way. -/
theorem fault?_mapM (f : α → Except Fault β) (l : List α) :
    fault? (l.mapM f) = l.findSome? fun a => fault? (f a) := by
  induction l with
  | nil => rfl
  | cons a l ih =>
    rw [List.mapM_cons, List.findSome?_cons, ← ih]
    cases hfirst : f a with
    | error fault => rfl
    | ok b =>
      cases hrest : l.mapM f with
      | error fault => rfl
      | ok bs => rfl

/-- Going through a list without a fault gives the values of its members in order. -/
theorem eq_filterMap_of_mapM {f : α → Except Fault β} {g : α → Option β}
    {l : List α} {bs : List β} (hg : ∀ a ∈ l, ∀ b, f a = .ok b → g a = some b)
    (h : l.mapM f = .ok bs) : bs = l.filterMap g := by
  induction l generalizing bs with
  | nil =>
    cases h
    rfl
  | cons a l ih =>
    rw [List.mapM_cons] at h
    cases hfirst : f a with
    | error fault =>
      rw [hfirst] at h
      cases h
    | ok b =>
      cases hrest : l.mapM f with
      | error fault =>
        rw [hfirst, hrest] at h
        cases h
      | ok rest =>
        rw [hfirst, hrest] at h
        cases h
        obtain ⟨hhead, htail⟩ := List.forall_mem_cons.mp hg
        rw [List.filterMap_cons_some (hhead b hfirst), ← ih htail hrest]

/-- Going through a list gives a value for each member when each of them has one. -/
theorem mapM_eq_ok_map {f : α → Except Fault β} {g : α → β} {l : List α}
    (h : ∀ a ∈ l, f a = .ok (g a)) : l.mapM f = .ok (l.map g) := by
  induction l with
  | nil => rfl
  | cons a l ih =>
    obtain ⟨hfirst, hrest⟩ := List.forall_mem_cons.mp h
    rw [List.mapM_cons, hfirst, ih hrest]
    rfl

/-- Searching what a list is mapped to, with parts left out, is searching the list. -/
theorem findSome?_filterMap {γ : Type} (f : α → Option β) (g : β → Option γ) (l : List α) :
    (l.filterMap f).findSome? g = l.findSome? fun a => (f a).bind g := by
  rw [← List.head?_filterMap, List.filterMap_filterMap, List.head?_filterMap]

end ScriptLint
