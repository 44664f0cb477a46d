import StaffIndex.Proofs.Change.History

/-!
# Employees who come and go

The hook of a creation files the employee under the values that it is given, and the hook of a deletion looks up in the
store what to take out. Both come to the same values, so whoever is created and then deleted leaves the index as it was
(`index_restored`).

- What is filed under some keys goes when it is taken out from them again, and nothing else does
  (`Index.remove_append`, `Index.remove_eq_self`).
- The task of a deletion carries the values with it, so it does not matter whether the record is still there when the
  task runs (`run_waitingDelete`).
-/

namespace StaffIndex

/-- The calls of a deletion by a caller who waits for the task before removing the record. -/
def Change.waitingDelete (id : EmployeeId) : List Command := [.deleted id, .settle, .removeEmployee id, .settle]

/-- A record goes with the removal, and so does the one that it has replaced. -/
theorem Staff.erase_insert (staff : Staff) (e : Employee) : (staff.insert e).erase e.id = staff.erase e.id := by
  refine congrArg Staff.mk (SortedMap.ext fun k => ?_)
  change ((staff.insert e).erase e.id).find? k = (staff.erase e.id).find? k
  rw [find?_erase, find?_erase, find?_insert]
  split <;> rfl

namespace Service

variable {s : Service} {id : EmployeeId} {e : Employee}

theorem run_append (s : Service) (commands later : List Command) :
    (s.run (commands ++ later)).2 = ((s.run commands).2.run later).2 := by
  induction commands generalizing s with
  | nil => rfl
  | cons c commands ih => exact ih _

/-- The other order of the calls comes to the same. -/
theorem run_waitingDelete (hs : s.Idle) (h : id ≠ "") (he : s.staff.find? id = some e) : ∃ queue,
    (s.run (Change.waitingDelete id)).2 = { s.setStores (Change.effect s.stores (.delete id)) with queue } := by
  have hsettled : ∀ stores queue, Idle { s.setStores stores with queue } := fun stores queue =>
    (hs.setStores stores).setQueue queue
  simp only [Change.waitingDelete, run, step, employeeDeleted_of_open hs.access h he, settle_submit hs, Indexing.perform,
    Indexing.run_delete, Change.effect, show s.stores.staff.find? id = some e from he]
  exact ⟨_, settle_of_idle (hsettled _ _)⟩

/-- What a creation and a deletion come to together. -/
theorem effect_delete_create {t : Stores} (hnew : ∀ key, e.id ∉ t.index.idsAt key) :
    Change.effect (Change.effect t (.create e)) (.delete e.id) = ⟨t.index, t.staff.erase e.id⟩ := by
  have hstored : (t.staff.insert e).find? e.id = some e := by rw [Staff.find?_insert, if_pos rfl]
  simp only [Change.effect, hstored, Index.remove_append, Index.remove_eq_self fun key _ => hnew key,
    Staff.erase_insert]

/-- **Creating and deleting.** In between the employee is under the keys of its values and under no others. Afterwards
the index is what it was, row by row, whether the record is removed before the task runs or after. -/
theorem index_restored (hs : s.Idle) (h : e.id ≠ "") (hnew : ∀ key, e.id ∉ s.index.idsAt key) {deletion : List Command}
    (hd : deletion = (Change.delete e.id).commands ∨ deletion = Change.waitingDelete e.id) :
    (∀ key, e.id ∈ (s.run (Change.create e).commands).2.index.idsAt key ↔ e.HasKey key) ∧
    ∃ queue, (s.run ((Change.create e).commands ++ deletion)).2 =
      { s.setStores ⟨s.index, s.staff.erase e.id⟩ with queue } := by
  obtain ⟨filed, hcreated⟩ := make_create hs h
  have hidle : (s.make (.create e)).Idle := hcreated ▸ (hs.setStores _).setQueue filed
  have hstores : (s.make (.create e)).stores = Change.effect s.stores (.create e) := by rw [hcreated]; rfl
  have hstored : (s.make (.create e)).staff.find? e.id = some e := by
    change (s.make (.create e)).stores.staff.find? e.id = some e
    rw [hstores, Change.find?_effect_create, if_pos rfl]
  constructor
  · intro key
    change e.id ∈ (s.make (.create e)).stores.index.idsAt key ↔ e.HasKey key
    rw [hstores, Change.mem_idsAt_effect_create]
    exact ⟨fun hid => (hid.resolve_left (hnew key)).2, fun hkey => .inr ⟨rfl, hkey⟩⟩
  · obtain ⟨queue, hdeleted⟩ : ∃ queue, ((s.make (.create e)).run deletion).2 =
        { (s.make (.create e)).setStores (Change.effect (s.make (.create e)).stores (.delete e.id)) with queue } := by
      rcases hd with rfl | rfl
      · exact make_delete hidle h hstored
      · exact run_waitingDelete hidle h hstored
    refine ⟨queue, ?_⟩
    rw [run_append, ← make, hdeleted, hstores, effect_delete_create (t := s.stores) hnew, hcreated]
    rfl

/-- Two namesakes are filed under their name, and one of them under her team as well. -/
def withNamesakes : Service :=
  makeAll {} [.create { id := "e2", name := "Anna", surname := "Serova" },
    .create { id := "e3", name := "ANNA", surname := "Orlova", team := some "Core" }]

/-- A third one, whose team has her name too. -/
def thirdNamesake : Employee := { id := "e1", name := "anna", surname := "ORLOVA", team := some "Anna", phones := ["", ""] }

theorem idle_withNamesakes : withNamesakes.Idle :=
  (makeAll_induction (P := fun _ => True) (idle_new {}) trivial (fun _ _ _ _ => trivial) (by decide +kernel)).1

/-- She comes last in a row that two others are in, starts one, and leaves no trace. -/
theorem index_restored_thirdNamesake : (∀ key, thirdNamesake.id ∉ withNamesakes.index.idsAt key) ∧
    (withNamesakes.run (Change.create thirdNamesake).commands).2.index.toRows =
      [⟨"", ["e1"]⟩, ⟨"anna", ["e2", "e3", "e1"]⟩, ⟨"core", ["e3"]⟩, ⟨"orlova", ["e3", "e1"]⟩, ⟨"serova", ["e2"]⟩] ∧
    ∃ queue, (withNamesakes.run ((Change.create thirdNamesake).commands ++ Change.waitingDelete thirdNamesake.id)).2 =
      { withNamesakes.setStores ⟨withNamesakes.index, withNamesakes.staff.erase thirdNamesake.id⟩ with queue } := by
  have rows : withNamesakes.index.toRows =
      [⟨"anna", ["e2", "e3"]⟩, ⟨"core", ["e3"]⟩, ⟨"orlova", ["e3"]⟩, ⟨"serova", ["e2"]⟩] := by decide +kernel
  have fresh : ∀ key, thirdNamesake.id ∉ withNamesakes.index.idsAt key := by
    intro key hid
    obtain ⟨row, hrow, -, hid⟩ := Index.exists_mem_toRows_iff (p := fun _ => True).2 ⟨key, trivial, hid⟩
    rw [rows] at hrow
    revert hid
    decide +revert
  exact ⟨fresh, by decide +kernel, (index_restored idle_withNamesakes (by decide) fresh (.inr rfl)).2⟩

end Service

end StaffIndex
