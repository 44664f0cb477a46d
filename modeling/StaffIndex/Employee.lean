/-!
# Employees

An employee record, the fields of it that can be searched, and the summary that searches answer with.
-/

namespace StaffIndex

abbrev EmployeeId := String

/-- The fields whose values are indexed. -/
inductive Field where
  | name
  | surname
  | patronymic
  | role
  | email
  | birthday
  | telegramId
  | vkId
  | team
  | phones
  deriving DecidableEq

namespace Field

/-- All fields, in their standing order. -/
def all : List Field :=
  [name, surname, patronymic, role, email, birthday, telegramId, vkId, team, phones]

theorem mem_all (f : Field) : f ∈ all := by cases f <;> decide

/-- The name of the field in tables and in JSON. -/
def column : Field → String
  | name => "name"
  | surname => "surname"
  | patronymic => "patronymic"
  | role => "role"
  | email => "email"
  | birthday => "birthday"
  | telegramId => "telegram_id"
  | vkId => "vk_id"
  | team => "team"
  | phones => "phones"

def ofColumn? (column : String) : Option Field := all.find? fun f => f.column = column

@[simp] theorem ofColumn?_column (f : Field) : ofColumn? f.column = some f := by cases f <;> decide

/-- The place of the field in the standing order. -/
def position (f : Field) : Nat := all.idxOf f

end Field

structure Employee where
  id : EmployeeId
  name : String
  surname : String
  patronymic : Option String := none
  role : Option String := none
  email : Option String := none
  birthday : Option String := none
  telegramId : Option String := none
  vkId : Option String := none
  team : Option String := none
  phones : List String := []
  photoLink : Option String := none
  deriving DecidableEq

/-- What a search shows of an employee. -/
structure Summary where
  id : EmployeeId
  name : String
  surname : String
  patronymic : Option String
  photoLink : Option String
  deriving DecidableEq

namespace Employee

/-- The values a record has in a field: none where it is blank, one for each phone. -/
def values (e : Employee) : Field → List String
  | .name => [e.name]
  | .surname => [e.surname]
  | .patronymic => e.patronymic.toList
  | .role => e.role.toList
  | .email => e.email.toList
  | .birthday => e.birthday.toList
  | .telegramId => e.telegramId.toList
  | .vkId => e.vkId.toList
  | .team => e.team.toList
  | .phones => e.phones

/-- The values of several fields, field by field. -/
def valuesOf (e : Employee) (fields : List Field) : List String := fields.flatMap e.values

def indexableValues (e : Employee) : List String := e.valuesOf Field.all

def summary (e : Employee) : Summary := ⟨e.id, e.name, e.surname, e.patronymic, e.photoLink⟩

theorem mem_valuesOf {e : Employee} {fields : List Field} {v : String} :
    v ∈ e.valuesOf fields ↔ ∃ f ∈ fields, v ∈ e.values f := List.mem_flatMap

theorem mem_indexableValues {e : Employee} {v : String} : v ∈ e.indexableValues ↔ ∃ f, v ∈ e.values f := by
  simp [indexableValues, mem_valuesOf, Field.mem_all]

end Employee

end StaffIndex
