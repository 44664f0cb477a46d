import StaffIndex.Text.LowerCase

/-!
# Index keys

The index files an employee under the lower-case form of each value, and a query is lowered in the same way, so a value
is found however it is typed. A query of several words is a list of tokens, cut at single spaces.
-/

namespace StaffIndex.Key

/-- The key a value is filed under. -/
def ofText (text : String) : String := Text.lowerCase text

theorem toList_ofText (text : String) : (ofText text).toList = Text.lowerFrom false text.toList := String.toList_ofList

/-- The text without one trailing space. -/
def withoutTrailingSpace (text : List Char) : List Char :=
  if text.getLast? = some ' ' then text.dropLast else text

/-- The keys of a query's words. The empty query is one empty word, a trailing space starts no word, and two spaces in
a row have an empty word between them. -/
def tokens (query : String) : List String :=
  ((withoutTrailingSpace query.toList).splitOn ' ').map fun word => ofText (String.ofList word)

/-- A query without spaces is one word. -/
theorem tokens_eq_singleton {query : String} (h : ' ' ∉ query.toList) : tokens query = [ofText query] := by
  have hlast : query.toList.getLast? ≠ some ' ' := fun he => h (List.mem_of_getLast? he)
  rw [tokens, withoutTrailingSpace, if_neg hlast, List.splitOn_eq_singleton h, List.map_singleton, String.ofList_toList]

/-- The keys of several values, each once, in the order of first occurrence. -/
def ofValues (values : List String) : List String := (values.map ofText).eraseDups

@[simp] theorem ofValues_nil : ofValues [] = [] := rfl

theorem mem_ofValues {key : String} {values : List String} : key ∈ ofValues values ↔ ∃ v ∈ values, ofText v = key := by
  simp [ofValues, List.mem_eraseDups]

theorem nodup_eraseDups : (keys : List String) → keys.eraseDups.Nodup
  | [] => .nil
  | key :: keys => by
    rw [List.eraseDups_cons]
    exact List.nodup_cons.2 ⟨by simp, nodup_eraseDups _⟩
termination_by keys => keys.length
decreasing_by exact Nat.lt_succ_of_le (List.length_filter_le _ _)

theorem eraseDups_of_nodup {keys : List String} (h : keys.Nodup) : keys.eraseDups = keys := by
  induction keys with
  | nil => rfl
  | cons key keys ih =>
    obtain ⟨hkey, hkeys⟩ := List.nodup_cons.1 h
    have hrest : keys.filter (fun k => !k == key) = keys :=
      List.filter_eq_self.2 fun k hk => by simpa using fun heq : k = key => hkey (heq ▸ hk)
    rw [List.eraseDups_cons, hrest, ih hkeys]

/-- No key is listed twice. -/
theorem nodup_ofValues (values : List String) : (ofValues values).Nodup := nodup_eraseDups _

end StaffIndex.Key
