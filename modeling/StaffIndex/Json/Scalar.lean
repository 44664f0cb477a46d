import StaffIndex.Json.Number

/-!
# Readers of single values

Texts, counts, the empty value, and values that may be absent. A value of another kind is read as far as it takes to
tell what it is, and reported by its kind.
-/

namespace StaffIndex.Json

/-- Takes enough of a value, which starts with the character, to tell what it is. -/
def takeFound (c : Symbol) (s : List Symbol) : Except Cause Found :=
  match c with
  | .char 'n' => (takeWord ['u', 'l', 'l'] s).map fun _ => .null
  | .char 't' => (takeWord ['r', 'u', 'e'] s).map fun _ => .boolean true
  | .char 'f' => (takeWord ['a', 'l', 's', 'e'] s).map fun _ => .boolean false
  | .char '-' => (takeNumber false s).map (·.1.found)
  | .char '"' => (takeText [] s).map fun x => .text x.1
  | .char '[' => .ok .sequence
  | .char '\x7b' => .ok .map
  | c => if (digit? c).isSome then (takeNumber true (c :: s)).map (·.1.found) else .error .expectedValue

/-- The problem with a value that starts with the character where something else is wanted. -/
def unwanted (wanted : String) (c : Symbol) (s : List Symbol) : Cause :=
  match takeFound c s with
  | .ok found => .wrongType found wanted
  | .error e => e

/-- Takes a text, or reports what stands in its place. -/
def takeTextValue (wanted : String) (s : List Symbol) : Taken String :=
  match dropBlanks s with
  | [] => .error (.unfinished .value)
  | c :: t => if c.isChar '"' then takeText [] t else .error (unwanted wanted c t)

/-- Takes a count. -/
def takeCount (wanted : String) (s : List Symbol) : Taken Nat :=
  match dropBlanks s with
  | [] => .error (.unfinished .value)
  | c :: t =>
    let number : Except Cause (Number × List Symbol) → Taken Nat
      | .ok (.natural n, r) => .ok (n, r)
      | .ok (.negative n, _) => .error (.wrongValue (.integer n) wanted)
      | .ok (.float x, _) => .error (.wrongType (.float x) wanted)
      | .error e => .error e
    if c.isChar '-' then number (takeNumber false t)
    else if (digit? c).isSome then number (takeNumber true (c :: t))
    else .error (unwanted wanted c t)

/-- Takes the empty value. -/
def takeUnit (wanted : String) (s : List Symbol) : Taken Unit :=
  match dropBlanks s with
  | [] => .error (.unfinished .value)
  | c :: t => if c.isChar 'n' then takeWord ['u', 'l', 'l'] t else .error (unwanted wanted c t)

theorem takeTextValue_lt {wanted : String} {s r : List Symbol} {t : String}
    (h : takeTextValue wanted s = .ok (t, r)) : r.length < s.length := by
  unfold takeTextValue at h
  split at h
  · cases h
  · next e =>
    split at h
    · exact Nat.lt_of_le_of_lt (takeText_le h) (length_lt_of_dropBlanks e)
    · cases h

theorem takeCount_le {wanted : String} {s r : List Symbol} {n : Nat} (h : takeCount wanted s = .ok (n, r)) :
    r.length ≤ s.length := by
  unfold takeCount at h
  split at h
  · cases h
  · next c t e =>
    have lt := length_lt_of_dropBlanks e
    simp only at h
    split at h
    · split at h
      · next h' => cases h; have := takeNumber_lt h'; omega
      all_goals cases h
    · split at h
      · split at h
        · next h' => cases h; have := takeNumber_lt h'; simp only [List.length_cons] at this; omega
        all_goals cases h
      · cases h

theorem takeUnit_le {wanted : String} {s r : List Symbol} {u : Unit} (h : takeUnit wanted s = .ok (u, r)) :
    r.length ≤ s.length := by
  unfold takeUnit at h
  split at h
  · cases h
  · next e =>
    split at h
    · exact Nat.le_trans (takeWord_le h) (Nat.le_of_lt (length_lt_of_dropBlanks e))
    · cases h

namespace Reader

def text : Reader String := .ofTaken (takeTextValue "a string") fun h => Nat.le_of_lt (takeTextValue_lt h)

def count : Reader Nat := .ofTaken (takeCount "usize") takeCount_le

/-- The empty value, which stands for the contents of a variant that has none. -/
def unit : Reader Unit := .ofTaken (takeUnit "unit") takeUnit_le

/-- A value or the empty one. -/
def optional {α : Type} (r : Reader α) : Reader (Option α) where
  run s := match dropBlanks s with
    | c :: t =>
      if c.isChar 'n' then
        match takeWord ['u', 'l', 'l'] t with
        | .ok ((), rest) => .ok (none, rest)
        | .error e => .error { cause := e }
      else match r.run (c :: t) with
        | .ok (a, rest) => .ok (some a, rest)
        | .error e => .error e
    | [] => match r.run [] with
      | .ok (a, rest) => .ok (some a, rest)
      | .error e => .error e
  run_le {s} _ _ h := by
    have le := length_dropBlanks_le s
    split at h
    · next hs =>
      rw [hs] at le
      split at h
      · split at h
        · next h' => cases h; exact Nat.le_trans (takeWord_le h') (Nat.le_of_succ_le le)
        · cases h
      · split at h
        · next h' => cases h; exact Nat.le_trans (r.run_le h') le
        · cases h
    · next hs =>
      split at h
      · next h' => cases h; exact Nat.le_trans (r.run_le h') (Nat.zero_le _)
      · cases h

end Reader

end StaffIndex.Json
