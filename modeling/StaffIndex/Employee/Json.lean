import StaffIndex.Employee.Patch
import StaffIndex.Json.Record
import StaffIndex.Json.Written

/-!
# Employees as JSON

Records, patches and fields as JSON text and back. In a record the id, the name and the surname are required; a patch
may leave out everything, and what it leaves out or gives as null is left as it is.
-/

namespace StaffIndex

open Json (Reader Shape Member)

/-! ## Fields -/

namespace Field

/-- The field of that column; every other text stands for the name. -/
def ofColumn (column : String) : Field := (ofColumn? column).getD .name

/-- A field is its column, alone or with empty contents. -/
def reader : Reader Field :=
  .variant (all.map column) (fun name => .pure (ofColumn name)) fun name =>
    Reader.unit.bind fun _ => .pure (ofColumn name)

def written (f : Field) : List Char := Json.Written.text f.column

end Field

/-! ## Employees -/

namespace Employee

/-- A record without contents. -/
def blank : Employee := ⟨"", "", "", none, none, none, none, none, none, none, [], none⟩

def shape : Shape Employee where
  name := "struct Employee"
  blank := blank
  members := [
    .of "id" true .text fun v e => { e with id := v },
    .of "name" true .text fun v e => { e with name := v },
    .of "surname" true .text fun v e => { e with surname := v },
    .of "patronymic" false (.optional .text) fun v e => { e with patronymic := v },
    .of "role" false (.optional .text) fun v e => { e with role := v },
    .of "email" false (.optional .text) fun v e => { e with email := v },
    .of "birthday" false (.optional .text) fun v e => { e with birthday := v },
    .of "telegram_id" false (.optional .text) fun v e => { e with telegramId := v },
    .of "vk_id" false (.optional .text) fun v e => { e with vkId := v },
    .of "team" false (.optional .text) fun v e => { e with team := v },
    .of "phones" false (.list .text) fun v e => { e with phones := v },
    .of "photo_link" false (.optional .text) fun v e => { e with photoLink := v }]

def reader : Reader Employee := .record shape

def written (e : Employee) : List Char :=
  Json.Written.object [
    ("id", Json.Written.text e.id),
    ("name", Json.Written.text e.name),
    ("surname", Json.Written.text e.surname),
    ("patronymic", Json.Written.optional e.patronymic),
    ("role", Json.Written.optional e.role),
    ("email", Json.Written.optional e.email),
    ("birthday", Json.Written.optional e.birthday),
    ("telegram_id", Json.Written.optional e.telegramId),
    ("vk_id", Json.Written.optional e.vkId),
    ("team", Json.Written.optional e.team),
    ("phones", Json.Written.texts e.phones),
    ("photo_link", Json.Written.optional e.photoLink)]

end Employee

def Summary.written (s : Summary) : List Char :=
  Json.Written.object [
    ("id", Json.Written.text s.id),
    ("name", Json.Written.text s.name),
    ("surname", Json.Written.text s.surname),
    ("patronymic", Json.Written.optional s.patronymic),
    ("photo_link", Json.Written.optional s.photoLink)]

/-! ## Patches -/

namespace Patch

def shape : Shape Patch where
  name := "struct EmployeePatch"
  blank := {}
  members := [
    .of "name" false (.optional .text) fun v p => { p with name := v },
    .of "surname" false (.optional .text) fun v p => { p with surname := v },
    .of "patronymic" false (.optional .text) fun v p => { p with patronymic := v },
    .of "role" false (.optional .text) fun v p => { p with role := v },
    .of "email" false (.optional .text) fun v p => { p with email := v },
    .of "birthday" false (.optional .text) fun v p => { p with birthday := v },
    .of "telegram_id" false (.optional .text) fun v p => { p with telegramId := v },
    .of "vk_id" false (.optional .text) fun v p => { p with vkId := v },
    .of "team" false (.optional .text) fun v p => { p with team := v },
    .of "phones" false (.optional (.list .text)) fun v p => { p with phones := v }]

def reader : Reader Patch := .record shape

def written (p : Patch) : List Char :=
  Json.Written.object [
    ("name", Json.Written.optional p.name),
    ("surname", Json.Written.optional p.surname),
    ("patronymic", Json.Written.optional p.patronymic),
    ("role", Json.Written.optional p.role),
    ("email", Json.Written.optional p.email),
    ("birthday", Json.Written.optional p.birthday),
    ("telegram_id", Json.Written.optional p.telegramId),
    ("vk_id", Json.Written.optional p.vkId),
    ("team", Json.Written.optional p.team),
    ("phones", (p.phones.map Json.Written.texts).getD Json.Written.null)]

end Patch

end StaffIndex
