import StaffIndex.Employee

/-!
# Errors

What can go wrong in the stores, in indexing and in searching, and the text that reports it.
-/

namespace StaffIndex

inductive StoreError where
  | database (detail : String)
  | notFound (record : String)
  deriving DecidableEq

def StoreError.message : StoreError → String
  | database detail => s!"database error: {detail}"
  | notFound record => s!"record not found: {record}"

/-- Why an employee cannot be indexed. -/
inductive IndexError where
  | store (e : StoreError)
  | employeeNotFound (id : EmployeeId)
  | emptyId
  deriving DecidableEq

def IndexError.message : IndexError → String
  | store e => s!"store error: {e.message}"
  | employeeNotFound id => s!"employee not found: {id}"
  | emptyId => "invalid indexing request: employee id must not be empty"

/-- Why a search has no answer. -/
inductive SearchError where
  | store (e : StoreError)
  | zeroLimit
  deriving DecidableEq

def SearchError.message : SearchError → String
  | store e => s!"store error: {e.message}"
  | zeroLimit => "invalid request: limit must be a positive integer"

/-- Errors that a failing store can raise. -/
class RaisedByStore (ε : Type) where
  ofStore : StoreError → ε

instance : RaisedByStore StoreError := ⟨id⟩
instance : RaisedByStore IndexError := ⟨.store⟩
instance : RaisedByStore SearchError := ⟨.store⟩

end StaffIndex
