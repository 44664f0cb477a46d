import StaffIndex.Employee.Json
import StaffIndex.Service.Basic

/-!
# Seeding

A seed file is a JSON list of employees. Either all of them are stored, in the order of the file, and queued for
indexing unless they have no id, or the file is refused as a whole.
-/

namespace StaffIndex

/-- Why a file cannot be read. -/
inductive FileError where
  | missing
  | permissionDenied
  /-- The path goes on after a file. -/
  | notDirectory
  | isDirectory
  | nameTooLong
  | notText
  deriving DecidableEq

def FileError.message : FileError → String
  | missing => "No such file or directory (os error 2)"
  | permissionDenied => "Permission denied (os error 13)"
  | notDirectory => "Not a directory (os error 20)"
  | isDirectory => "Is a directory (os error 21)"
  | nameTooLong => "File name too long (os error 36)"
  | notText => "stream did not contain valid UTF-8"

/-- Why a seed file is refused. -/
inductive SeedError where
  | unreadable (path : String) (e : FileError)
  | malformed (path : String) (e : Json.Error)

namespace SeedError

/-- What was being done with the file. -/
def context : SeedError → String
  | unreadable path _ => s!"failed to read seed file {path}"
  | malformed path _ => s!"failed to parse seed file {path}"

def cause : SeedError → String
  | unreadable _ e => e.message
  | malformed _ e => e.message

def message (e : SeedError) : String := s!"{e.context}: {e.cause}"

end SeedError

namespace Service

/-- Stores an employee and queues it for indexing, if it can be indexed. -/
def seedOne (s : Service) (e : Employee) : Service :=
  ((s.setStaff (s.staff.insert e)).employeeCreated e).2

/-- Seeds the service from the contents of the file of that name, if it can be read. -/
def seed (s : Service) (path : String) (contents : Except FileError String) : Except SeedError Service :=
  match contents with
  | .error e => .error (.unreadable path e)
  | .ok text => match (Json.Reader.list Employee.reader).whole text with
    | .error e => .error (.malformed path e)
    | .ok employees => .ok (employees.foldl seedOne s)

end Service

end StaffIndex
