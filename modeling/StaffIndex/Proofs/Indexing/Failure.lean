import StaffIndex.Proofs.Indexing.Effect
import StaffIndex.Proofs.Service.Access

/-!
# Failed tasks

A task asks one request after the other, and a failing request ends it where it is.

- An add or a delete that fails has changed nothing (`error_of_add`, `error_of_delete`).
- An edit that fails has changed nothing either, unless it fails at its last request: then the employee is no longer
  filed under the old values and not yet under the new ones (`error_of_edit`).
-/

namespace StaffIndex.Indexing

open Access

variable {a b : Access} {id : EmployeeId} {changed : List Field} {values : List String} {e : IndexError}

/-- The task is an edit that takes the employee out from under `old`, which is what is stored in the changed fields, and
then cannot file it under its values. -/
def StopsHalfway (a : Access) : Task → List String → Prop
  | .edit id changed values, old =>
    a.failing .values = none ∧ a.stores.staff.values? id changed = some old ∧ (old = [] ∨ a.failing .remove = none) ∧
      values ≠ [] ∧ a.failing .append ≠ none
  | _, _ => False

/-! ## Adds and deletes -/

theorem ofValues_ne_nil (h : values ≠ []) : Key.ofValues values ≠ [] := by
  obtain ⟨v, vs, rfl⟩ := List.exists_cons_of_ne_nil h
  exact List.ne_nil_of_mem (Key.mem_ofValues.2 ⟨v, List.mem_cons_self, rfl⟩)

theorem add_of_ne_nil (id : EmployeeId) (h : values ≠ []) :
    add id values = Plan.request (.append id (Key.ofValues values)) := by
  unfold add
  split
  · next hk => exact absurd hk (ofValues_ne_nil h)
  · rfl

theorem delete_of_ne_nil (id : EmployeeId) (h : values ≠ []) :
    delete id values = Plan.request (.remove id (Key.ofValues values)) := by
  unfold delete
  split
  · next hk => exact absurd hk (ofValues_ne_nil h)
  · rfl

theorem error_of_add (h : a.advance false (add id values) = (.ended (.error e), b)) :
    (values ≠ [] ∧ a.failing .append ≠ none) ∧ b.stores = a.stores := by
  by_cases hv : values = []
  · subst hv; cases h
  · rw [add_of_ne_nil id hv] at h
    obtain ⟨⟨cause, hc, -⟩, hs, -⟩ := error_of_advance_request h
    exact ⟨⟨hv, by rw [show a.failing .append = some cause from hc]; simp⟩, hs⟩

theorem error_of_delete (h : a.advance false (delete id values) = (.ended (.error e), b)) :
    (values ≠ [] ∧ a.failing .remove ≠ none) ∧ b.stores = a.stores := by
  by_cases hv : values = []
  · subst hv; cases h
  · rw [delete_of_ne_nil id hv] at h
    obtain ⟨⟨cause, hc, -⟩, hs, -⟩ := error_of_advance_request h
    exact ⟨⟨hv, by rw [show a.failing .remove = some cause from hc]; simp⟩, hs⟩

/-- A delete that is done has taken the employee out from under all the values. -/
theorem ok_of_delete (h : a.advance false (delete id values) = (.ended (.ok ()), b)) :
    (values = [] ∨ a.failing .remove = none) ∧
      b.stores = { a.stores with index := a.stores.index.remove id (Key.ofValues values) } ∧ b.faults = a.faults := by
  by_cases hv : values = []
  · subst hv; cases h; exact ⟨.inl rfl, rfl, rfl⟩
  · rw [delete_of_ne_nil id hv] at h
    obtain ⟨hn, -, hs, hf⟩ := ok_of_advance_request h
    exact ⟨.inr hn, hs, hf⟩

/-! ## Edits -/

/-- The second half of an edit fails untouched at the delete, or at the add after the delete is done. -/
theorem error_of_delete_add {old : List String}
    (h : a.advance false (delete id old >>= fun _ => add id values) = (.ended (.error e), b)) :
    ((old ≠ [] ∧ a.failing .remove ≠ none) ∧ b.stores = a.stores) ∨
      ((old = [] ∨ a.failing .remove = none) ∧ values ≠ [] ∧ a.failing .append ≠ none) ∧
        b.stores = { a.stores with index := a.stores.index.remove id (Key.ofValues old) } := by
  rw [advance_bind] at h
  rcases hd : a.advance false (delete id old) with ⟨⟨_ | _⟩ | _ | _, c⟩
  · simp only [hd] at h
    cases h
    exact .inl (error_of_delete hd)
  · obtain ⟨hremove, hs, hf⟩ := ok_of_delete hd
    simp only [hd] at h
    obtain ⟨⟨hne, happend⟩, hb⟩ := error_of_add h
    rw [failing_congr hf] at happend
    exact .inr ⟨⟨hremove, hne, happend⟩, hb.trans hs⟩
  · simp [hd] at h
  · simp [hd] at h

/-- An edit that fails before its last request has changed nothing, and one that fails there has taken the employee
out. -/
theorem error_of_edit (h : a.advance false (edit id changed values) = (.ended (.error e), b)) :
    ((∀ old, ¬ StopsHalfway a (.edit id changed values) old) ∧ b.stores = a.stores) ∨
      ∃ old, StopsHalfway a (.edit id changed values) old ∧
        b.stores = { a.stores with index := a.stores.index.remove id (Key.ofValues old) } := by
  unfold edit at h
  rw [advance_bind] at h
  rcases hr : a.advance false (Plan.request (.values id changed) : Plan IndexError _) with ⟨⟨_ | found⟩ | _ | _, c⟩
  · simp only [hr] at h
    cases h
    obtain ⟨⟨cause, hc, -⟩, hs, -⟩ := error_of_advance_request hr
    exact .inl ⟨fun old ho => (nomatch hc.symm.trans ho.1), hs⟩
  · obtain ⟨hread, hfound, hs, hf⟩ := ok_of_advance_request hr
    have hvalues : a.stores.staff.values? id changed = found := hfound.symm
    simp only [hr] at h
    cases found with
    | none =>
      cases h
      exact .inl ⟨fun old ho => (nomatch hvalues.symm.trans ho.2.1), hs⟩
    | some old =>
      rcases error_of_delete_add h with ⟨⟨hne, hremove⟩, hb⟩ | ⟨⟨hremove, hne, happend⟩, hb⟩
      · rw [failing_congr hf] at hremove
        refine .inl ⟨fun old' ho => ?_, hb.trans hs⟩
        obtain rfl : old = old' := Option.some.inj (hvalues.symm.trans ho.2.1)
        exact ho.2.2.1.elim hne hremove
      · rw [failing_congr hf] at hremove happend
        exact .inr ⟨old, ⟨hread, hvalues, hremove, hne, happend⟩, by rw [hb, hs]; rfl⟩
  · simp [hr] at h
  · simp [hr] at h

/-- A failed task has changed nothing, unless it has stopped halfway. -/
theorem error_of_perform {task : Task} (h : a.advance false (perform task) = (.ended (.error e), b)) :
    ((∀ old, ¬ StopsHalfway a task old) ∧ b.stores = a.stores) ∨
      ∃ old, StopsHalfway a task old ∧
        b.stores = { a.stores with index := a.stores.index.remove task.employeeId (Key.ofValues old) } := by
  cases task with
  | add id values => exact .inl ⟨fun _ h => h, (error_of_add h).2⟩
  | delete id values => exact .inl ⟨fun _ h => h, (error_of_delete h).2⟩
  | edit id changed values => exact error_of_edit h

/-! ## Rows -/

theorem StopsHalfway.unique {task : Task} {old old' : List String} (h : StopsHalfway a task old)
    (h' : StopsHalfway a task old') : old = old' := by
  cases task with
  | add id values => cases h
  | delete id values => cases h
  | edit id changed values => exact Option.some.inj (h.2.1.symm.trans h'.2.1)

/-- **What a failed task leaves.** Every row is as it was, unless the task is an edit that has stopped halfway: then the
rows of the old values have lost the employee. -/
theorem idsAt_of_failed {task : Task} (h : a.advance false (perform task) = (.ended (.error e), b)) :
    b.stores.staff = a.stores.staff ∧
      ((∀ old, ¬ StopsHalfway a task old) → b.stores.index = a.stores.index) ∧
      ∀ old, StopsHalfway a task old → ∀ key, b.stores.index.idsAt key =
        if key ∈ Key.ofValues old then (a.stores.index.idsAt key).filter (· ≠ task.employeeId)
        else a.stores.index.idsAt key := by
  rcases error_of_perform h with ⟨hn, hs⟩ | ⟨old, ho, hs⟩
  · exact ⟨by rw [hs], fun _ => by rw [hs], fun old ho => absurd ho (hn old)⟩
  · refine ⟨by rw [hs], fun hn => absurd ho (hn old), fun old' ho' key => ?_⟩
    rw [hs, ← ho.unique ho', Index.idsAt_remove]

/-- One employee, filed under the value of one field, and a store that takes ids out but files none. -/
def lossyAccess : Access where
  stores :=
    { index := Index.empty.append "e1" ["core"]
      staff := Staff.empty.insert { id := "e1", name := "Anna", surname := "Orlova", team := some "Core" } }
  faults := { failing := [(.append, .database "down")] }

/-- The edit that moves the employee to another team. -/
def teamChange : Task := .edit "e1" [.team] ["Sales"]

theorem idsAt_of_failed_teamChange :
    lossyAccess.advance false (perform teamChange) =
        (.ended (.error (.store (.database "down"))), (lossyAccess.advance false (perform teamChange)).2) ∧
      StopsHalfway lossyAccess teamChange ["Core"] ∧
      (lossyAccess.advance false (perform teamChange)).2.stores.index.idsAt "core" = [] := by
  have failed : lossyAccess.advance false (perform teamChange) =
      (.ended (.error (.store (.database "down"))), (lossyAccess.advance false (perform teamChange)).2) := rfl
  have halfway : StopsHalfway lossyAccess teamChange ["Core"] := ⟨rfl, rfl, .inr rfl, by decide, by decide⟩
  have hrow := (idsAt_of_failed failed).2.2 ["Core"] halfway "core"
  exact ⟨failed, halfway, hrow.trans (by decide +kernel)⟩

/-- An edit can fail and leave the employee in no row of the changed field. -/
theorem not_failed_keeps_rows : ¬ ∀ (a b : Access) (task : Task) (e : IndexError),
    a.advance false (perform task) = (.ended (.error e), b) →
      ∀ key, b.stores.index.idsAt key = a.stores.index.idsAt key := by
  intro h
  have hrow := h lossyAccess _ teamChange (.store (.database "down")) rfl "core"
  revert hrow
  decide +kernel

end StaffIndex.Indexing
