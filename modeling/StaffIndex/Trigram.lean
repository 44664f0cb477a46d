import StaffIndex.Sorted.Set
import StaffIndex.Text.LowerCase
import StaffIndex.Text.WordTable

/-!
# Trigrams and similarity

The trigrams of a text are the windows of three characters of its words, each word lowered character by character and
padded with two spaces before and one after. Two texts are as similar as their trigram sets overlap: the similarity is
the number of common trigrams over the number of trigrams in either.
-/

namespace StaffIndex

/-- Three characters in a row. -/
structure Trigram where
  first : Char
  second : Char
  third : Char
  deriving DecidableEq

namespace Trigram

def chars (t : Trigram) : List Char := [t.first, t.second, t.third]

def text (t : Trigram) : String := String.ofList t.chars

/-- Trigrams are ordered as their texts, by code point. -/
instance : Ord Trigram := ⟨compareOn chars⟩

instance : Std.TransOrd Trigram := inferInstanceAs (Std.TransCmp (compareOn chars))

theorem chars_injective {t u : Trigram} (h : t.chars = u.chars) : t = u := by
  cases t; cases u; simpa [chars] using h

instance : Std.LawfulEqOrd Trigram where
  eq_of_compare h := chars_injective (Std.LawfulEqOrd.eq_of_compare (α := List Char) h)

end Trigram

namespace Text

/-- Words are made of letters and decimal digits. -/
def isWordChar (c : Char) : Bool := inRanges wordRanges c.toNat

/-- The longest runs of word characters. -/
def words (text : List Char) : List (List Char) := (text.splitOnP fun c => !isWordChar c).filter (· ≠ [])

/-- The windows of three characters. -/
def windows : List Char → List Trigram
  | a :: b :: c :: text => ⟨a, b, c⟩ :: windows (b :: c :: text)
  | _ => []

/-- The word in lower case between its two leading spaces and its trailing one. -/
def padded (word : List Char) : List Char := ' ' :: ' ' :: (word.flatMap lowerChar ++ [' '])

def trigrams (text : String) : SortedSet Trigram :=
  .ofList ((words text.toList).flatMap fun word => windows (padded word))

/-- The number of common trigrams over the number of all, and zero when a side has none. -/
def similarity (a b : String) : Float :=
  let left := trigrams a
  let right := trigrams b
  if left.isEmpty || right.isEmpty then 0.0
  else
    let common := (left.filter right.toList.contains).size
    Float.ofNat common / Float.ofNat (left.size + right.size - common)

end Text

end StaffIndex
