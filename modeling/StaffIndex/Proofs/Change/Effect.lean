import StaffIndex.Proofs.Employee.Keys
import StaffIndex.Service.Command

/-!
# Changes of the staff

A change creates, edits or deletes one employee. `commands` are what a caller does, and `effect` is what becomes of the
stores: whom they have afterwards (`find?_effect_create`, `find?_effect_edit`, `find?_effect_delete`) and who is filed
under a key (`mem_idsAt_effect_create`, `mem_idsAt_effect_edit`, `mem_idsAt_effect_delete`).
-/

namespace StaffIndex

/-- A change of one employee. -/
inductive Change where
  | create (e : Employee)
  | edit (id : EmployeeId) (p : Patch)
  | delete (id : EmployeeId)

namespace Change

/-- What a caller does. The hooks want to be called after a record is stored but before it is changed or removed. -/
def commands : Change → List Command
  | create e => [.insert e, .created e, .settle]
  | edit id p => [.edited id p, .settle, .update id p]
  | delete id => [.deleted id, .removeEmployee id, .settle]

/-- What a caller promises: a new employee has an id that is not in use, and only stored ones are edited or deleted. -/
def Allowed (staff : Staff) : Change → Prop
  | create e => e.id ≠ "" ∧ staff.find? e.id = none
  | edit id _ => id ≠ "" ∧ ∃ e, staff.find? id = some e
  | delete id => id ≠ "" ∧ ∃ e, staff.find? id = some e

instance (staff : Staff) : (c : Change) → Decidable (c.Allowed staff)
  | create e => inferInstanceAs (Decidable (e.id ≠ "" ∧ staff.find? e.id = none))
  | edit id _ => decidable_of_iff (id ≠ "" ∧ (staff.find? id).isSome) (by simp [Allowed, Option.isSome_iff_exists])
  | delete id => decidable_of_iff (id ≠ "" ∧ (staff.find? id).isSome) (by simp [Allowed, Option.isSome_iff_exists])

/-- What becomes of the stores. -/
def effect (s : Stores) : Change → Stores
  | create e => ⟨s.index.append e.id (Key.ofValues e.indexableValues), s.staff.insert e⟩
  | edit id p => match s.staff.find? id with
    | none => s
    | some e =>
      { index := (s.index.remove id (Key.ofValues (e.valuesOf p.changedFields))).append id (Key.ofValues p.values)
        staff := ⟨s.staff.records.insert id (p.apply e)⟩ }
  | delete id => match s.staff.find? id with
    | none => s
    | some e => ⟨s.index.remove id (Key.ofValues e.indexableValues), s.staff.erase id⟩

section Effects

variable {s : Stores} {id : EmployeeId} {e : Employee} {p : Patch} {key : String} {k : EmployeeId}

theorem find?_effect_create : (effect s (.create e)).staff.find? k = if k = e.id then some e else s.staff.find? k :=
  Staff.find?_insert s.staff e k

theorem mem_idsAt_effect_create :
    k ∈ (effect s (.create e)).index.idsAt key ↔ k ∈ s.index.idsAt key ∨ k = e.id ∧ e.HasKey key := by
  rw [effect, Index.mem_idsAt_append, Employee.hasKey_iff_mem]

theorem find?_effect_edit (he : s.staff.find? id = some e) :
    (effect s (.edit id p)).staff.find? k = if k = id then some (p.apply e) else s.staff.find? k := by
  simp only [effect, he]
  exact SortedMap.find?_insert

theorem mem_idsAt_effect_edit (he : s.staff.find? id = some e) : k ∈ (effect s (.edit id p)).index.idsAt key ↔
    k ∈ s.index.idsAt key ∧ (k = id → key ∉ Key.ofValues (e.valuesOf p.changedFields)) ∨
      k = id ∧ key ∈ Key.ofValues p.values := by
  simp only [effect, he, Index.mem_idsAt_append, Index.mem_idsAt_remove]

theorem find?_effect_delete :
    (effect s (.delete id)).staff.find? k = if k = id then none else s.staff.find? k := by
  rw [effect]
  split
  · next hn =>
    by_cases hk : k = id
    · rw [hk, if_pos rfl, hn]
    · rw [if_neg hk]
  · exact Staff.find?_erase s.staff id k

theorem mem_idsAt_effect_delete (he : s.staff.find? id = some e) :
    k ∈ (effect s (.delete id)).index.idsAt key ↔ k ∈ s.index.idsAt key ∧ (k = id → ¬ e.HasKey key) := by
  simp only [effect, he, Index.mem_idsAt_remove, Employee.hasKey_iff_mem]

end Effects

end Change

end StaffIndex
