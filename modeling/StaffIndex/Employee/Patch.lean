import StaffIndex.Employee

/-!
# Patches

A patch carries new values for some fields of a record and leaves the others as they are. A patch can give an optional
field a value but cannot blank it; it replaces the phones as a whole, also by no phones at all.
-/

namespace StaffIndex

/-- The fields to change, with their new values. -/
structure Patch where
  name : Option String := none
  surname : Option String := none
  patronymic : Option String := none
  role : Option String := none
  email : Option String := none
  birthday : Option String := none
  telegramId : Option String := none
  vkId : Option String := none
  team : Option String := none
  phones : Option (List String) := none
  deriving DecidableEq

namespace Patch

/-- The new values of a field, if the patch changes it. -/
def values? (p : Patch) : Field → Option (List String)
  | .name => p.name.map ([·])
  | .surname => p.surname.map ([·])
  | .patronymic => p.patronymic.map ([·])
  | .role => p.role.map ([·])
  | .email => p.email.map ([·])
  | .birthday => p.birthday.map ([·])
  | .telegramId => p.telegramId.map ([·])
  | .vkId => p.vkId.map ([·])
  | .team => p.team.map ([·])
  | .phones => p.phones

/-- Does the patch give the field new values? -/
def changes (p : Patch) : Field → Bool
  | .name => p.name.isSome
  | .surname => p.surname.isSome
  | .patronymic => p.patronymic.isSome
  | .role => p.role.isSome
  | .email => p.email.isSome
  | .birthday => p.birthday.isSome
  | .telegramId => p.telegramId.isSome
  | .vkId => p.vkId.isSome
  | .team => p.team.isSome
  | .phones => p.phones.isSome

def changedFields (p : Patch) : List Field := Field.all.filter p.changes

/-- The new values that the patch carries, the phones last. -/
def values (p : Patch) : List String :=
  let scalars := [p.name, p.surname, p.patronymic, p.role, p.email, p.birthday, p.telegramId, p.vkId, p.team]
  scalars.flatMap Option.toList ++ p.phones.getD []

def isEmpty (p : Patch) : Bool := p.changedFields.isEmpty

def apply (p : Patch) (e : Employee) : Employee where
  id := e.id
  name := p.name.getD e.name
  surname := p.surname.getD e.surname
  patronymic := p.patronymic.or e.patronymic
  role := p.role.or e.role
  email := p.email.or e.email
  birthday := p.birthday.or e.birthday
  telegramId := p.telegramId.or e.telegramId
  vkId := p.vkId.or e.vkId
  team := p.team.or e.team
  phones := p.phones.getD e.phones
  photoLink := e.photoLink

@[simp] theorem id_apply (p : Patch) (e : Employee) : (p.apply e).id = e.id := rfl

/-- A patched record has the new values where there are some and the old ones elsewhere. -/
theorem values_apply (p : Patch) (e : Employee) (f : Field) :
    (p.apply e).values f = (p.values? f).getD (e.values f) := by
  cases f with
  | name => cases h : p.name <;> simp [apply, Employee.values, values?, h]
  | surname => cases h : p.surname <;> simp [apply, Employee.values, values?, h]
  | patronymic => cases h : p.patronymic <;> simp [apply, Employee.values, values?, h]
  | role => cases h : p.role <;> simp [apply, Employee.values, values?, h]
  | email => cases h : p.email <;> simp [apply, Employee.values, values?, h]
  | birthday => cases h : p.birthday <;> simp [apply, Employee.values, values?, h]
  | telegramId => cases h : p.telegramId <;> simp [apply, Employee.values, values?, h]
  | vkId => cases h : p.vkId <;> simp [apply, Employee.values, values?, h]
  | team => cases h : p.team <;> simp [apply, Employee.values, values?, h]
  | phones => rfl

theorem changes_eq_isSome (p : Patch) (f : Field) : p.changes f = (p.values? f).isSome := by
  cases f <;> simp [changes, values?]

theorem changedFields_eq_filter (p : Patch) : p.changedFields = Field.all.filter fun f => (p.values? f).isSome :=
  List.filter_congr fun f _ => changes_eq_isSome p f

/-- Field by field, in their standing order, these are the values of the patch. -/
theorem values_eq_flatMap (p : Patch) : p.values = Field.all.flatMap fun f => (p.values? f).getD [] := by
  have hscalar (v : Option String) : (v.map ([·])).getD [] = v.toList := by cases v <;> rfl
  simp only [values, Field.all, values?, List.flatMap_cons, List.flatMap_nil, hscalar, List.append_nil,
    List.append_assoc]

theorem mem_changedFields {p : Patch} {f : Field} : f ∈ p.changedFields ↔ (p.values? f).isSome := by
  simp [changedFields_eq_filter, Field.mem_all]

/-- In the changed fields a patched record has just the values of the patch. -/
theorem valuesOf_apply (p : Patch) (e : Employee) : (p.apply e).valuesOf p.changedFields = p.values := by
  rw [changedFields_eq_filter, values_eq_flatMap, Employee.valuesOf]
  induction Field.all with
  | nil => rfl
  | cons f fs ih => cases h : p.values? f <;> simp [values_apply, h, ih]

/-- An empty patch has no values either. -/
theorem eq_nil_of_isEmpty (p : Patch) (h : p.isEmpty) : p.changedFields = [] ∧ p.values = [] := by
  have hc : p.changedFields = [] := List.isEmpty_iff.1 h
  refine ⟨hc, (values_eq_flatMap p).trans (List.flatMap_eq_nil_iff.2 fun f _ => ?_)⟩
  have hf : f ∉ p.changedFields := by simp [hc]
  rw [mem_changedFields, Option.not_isSome_iff_eq_none] at hf
  simp [hf]

theorem mem_values {p : Patch} {v : String} : v ∈ p.values ↔ ∃ f vs, p.values? f = some vs ∧ v ∈ vs := by
  simp only [values_eq_flatMap, List.mem_flatMap, Field.mem_all, true_and]
  refine exists_congr fun f => ?_
  cases p.values? f <;> simp

/-- The values of a patched record are those of the patch and the old ones of the unchanged fields. -/
theorem mem_indexableValues_apply {p : Patch} {e : Employee} {v : String} :
    v ∈ (p.apply e).indexableValues ↔ v ∈ p.values ∨ ∃ f, f ∉ p.changedFields ∧ v ∈ e.values f := by
  simp only [Employee.mem_indexableValues, values_apply, mem_values, mem_changedFields, ← exists_or]
  refine exists_congr fun f => ?_
  cases p.values? f <;> simp

end Patch

end StaffIndex
