import StaffIndex.Employee.Patch
import StaffIndex.Error
import StaffIndex.Sorted.Map

/-!
# The staff

The table of all employees by id.
-/

namespace StaffIndex

/-- The stored employees, each under its id. -/
structure Staff where
  records : SortedMap Employee

namespace Staff

def empty : Staff := ⟨.empty⟩

def find? (staff : Staff) (id : EmployeeId) : Option Employee := staff.records.find? id

/-- Stores a record, in place of the one with the same id. -/
def insert (staff : Staff) (e : Employee) : Staff := ⟨staff.records.insert e.id e⟩

def erase (staff : Staff) (id : EmployeeId) : Staff := ⟨staff.records.erase id⟩

def update (staff : Staff) (id : EmployeeId) (p : Patch) : Except StoreError Staff :=
  match staff.find? id with
  | none => .error (.notFound id)
  | some e => .ok ⟨staff.records.insert id (p.apply e)⟩

/-- The summaries of those of the ids that are stored. -/
def summaries (staff : Staff) (ids : List EmployeeId) : List Summary :=
  ids.filterMap fun id => (staff.find? id).map Employee.summary

def values? (staff : Staff) (id : EmployeeId) (fields : List Field) : Option (List String) :=
  (staff.find? id).map (·.valuesOf fields)

theorem ext {staff staff' : Staff} (h : ∀ id, staff.find? id = staff'.find? id) : staff = staff' := by
  obtain ⟨records⟩ := staff
  obtain ⟨records'⟩ := staff'
  exact congrArg Staff.mk (SortedMap.ext h)

@[simp] theorem find?_empty (id : EmployeeId) : empty.find? id = none := rfl

@[simp] theorem find?_insert (staff : Staff) (e : Employee) (id : EmployeeId) :
    (staff.insert e).find? id = if id = e.id then some e else staff.find? id := SortedMap.find?_insert

@[simp] theorem find?_erase (staff : Staff) (id k : EmployeeId) :
    (staff.erase id).find? k = if k = id then none else staff.find? k := SortedMap.find?_erase

/-- A stored record can be patched. -/
theorem update_of_find? {staff : Staff} {id : EmployeeId} {e : Employee} (h : staff.find? id = some e) (p : Patch) :
    staff.update id p = .ok ⟨staff.records.insert id (p.apply e)⟩ := by
  rw [update, h]

theorem mem_summaries {staff : Staff} {ids : List EmployeeId} {x : Summary} :
    x ∈ staff.summaries ids ↔ ∃ id ∈ ids, ∃ e, staff.find? id = some e ∧ e.summary = x := by
  simp [summaries, List.mem_filterMap]

end Staff

end StaffIndex
