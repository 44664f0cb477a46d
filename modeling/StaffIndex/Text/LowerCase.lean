import StaffIndex.Text.Ranges
import StaffIndex.Text.CaseTable

/-!
# Lower case

`lowerChar` is the lower-case form of a character on its own; `lowerCase` lowers a whole text, where the capital sigma
depends on its neighbours: at the end of a word it becomes `ς`, elsewhere `σ`. A word ends where the nearest character
before, looking through the case-ignorable ones, has case and the nearest one after has not.
-/

namespace StaffIndex.Text

/-- The lower-case form of the code point `n`, if it lies in the run. -/
def CaseRun.image? (r : CaseRun) (n : Nat) : Option Nat :=
  if r.first ≤ n ∧ n ≤ r.last ∧ (n - r.first) % r.step = 0 then some (r.image + (n - r.first)) else none

def lowerCode (n : Nat) : Nat := (caseRuns.findSome? (·.image? n)).getD n

/-- The lower-case form of a character regardless of its neighbours. -/
def lowerChar (c : Char) : List Char :=
  if c = 'İ' then ['i', '\u0307'] else [Char.ofNat (lowerCode c.toNat)]

def isCased (c : Char) : Bool := inRanges casedRanges c.toNat

def isCaseIgnorable (c : Char) : Bool := inRanges caseIgnorableRanges c.toNat

/-- Has the first character that is not case-ignorable case? -/
def startsCased (text : List Char) : Bool :=
  ((text.dropWhile isCaseIgnorable).head?).any isCased

/-- `afterCased` tells whether the last character before `text` that is not case-ignorable has case. -/
def lowerFrom (afterCased : Bool) : List Char → List Char
  | [] => []
  | c :: text =>
    (if c = 'Σ' then [if afterCased && !startsCased text then 'ς' else 'σ'] else lowerChar c) ++
      lowerFrom (if isCaseIgnorable c then afterCased else isCased c) text

/-- The lower-case form of a text. -/
def lowerCase (text : String) : String := String.ofList (lowerFrom false text.toList)

end StaffIndex.Text
