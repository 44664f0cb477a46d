import StaffIndex.Json.Number

/-!
# Skipping a value

A value that nobody asks for is passed over, however deeply it nests: the lists and objects around the current place
are kept as a list of frames. It has to be well-formed, but its texts may hold any surrogates and stray bytes, and its
numbers may have any size.
-/

namespace StaffIndex.Json

/-- A list or object that has not been closed. -/
inductive Frame where
  | list
  | object

/-- Passes over the rest of a text up to its closing quote. -/
def skipText : List Symbol → Taken Unit
  | [] => .error (.unfinished .text)
  | .stray _ :: s => skipText s
  | .char c :: s =>
    if c = '"' then .ok ((), s)
    else if c = '\\' then
      match s with
      | [] => .error (.unfinished .text)
      | d :: t =>
        if d.isChar 'u' then
          match _h : takeHex t with
          | .ok (_, r) => skipText r
          | .error e => .error e
        else if ((d.char?.bind escaped?).isSome) then skipText t
        else .error .invalidEscape
    else if c.toNat < 0x20 then .error .controlCharacter
    else skipText s
termination_by s => s.length
decreasing_by
  · exact Nat.lt_succ_self _
  · have := takeHex_le _h; simp only [List.length_cons]; omega
  · simp only [List.length_cons]; omega
  · exact Nat.lt_succ_self _

/-- Passes over digits, of which there has to be one. -/
def skipDigits (s : List Symbol) : Taken Unit :=
  if startsWithDigit s then .ok ((), dropDigits s) else .error .invalidNumber

/-- Passes over an exponent, if there is one. -/
def skipExponent : List Symbol → Taken Unit
  | .char 'e' :: s => skipDigits (takeSign s).2
  | .char 'E' :: s => skipDigits (takeSign s).2
  | s => .ok ((), s)

/-- Passes over a fraction and an exponent, where there are any. -/
def skipFraction : List Symbol → Taken Unit
  | .char '.' :: s => match skipDigits s with
    | .ok ((), r) => skipExponent r
    | .error e => .error e
  | s => skipExponent s

/-- Passes over a number after its sign. -/
def skipNumber : List Symbol → Taken Unit
  | [] => .error .invalidNumber
  | c :: s => match digit? c with
    | none => .error .invalidNumber
    | some 0 => if startsWithDigit s then .error .invalidNumber else skipFraction s
    | some _ => skipFraction (dropDigits s)

/-- Passes over the value that starts with the character, unless it is a list or an object. -/
def skipScalar (c : Symbol) (s : List Symbol) : Taken Unit :=
  match c with
  | .char 'n' => takeWord ['u', 'l', 'l'] s
  | .char 't' => takeWord ['r', 'u', 'e'] s
  | .char 'f' => takeWord ['a', 'l', 's', 'e'] s
  | .char '-' => skipNumber s
  | .char '"' => skipText s
  | c => if (digit? c).isSome then skipNumber (c :: s) else .error .expectedValue

/-- Passes over a key and its colon. -/
def skipKey (s : List Symbol) : Taken Unit :=
  match dropBlanks s with
  | [] => .error (.unfinished .object)
  | d :: t =>
    if d.isChar '"' then
      match skipText t with
      | .ok ((), r) => takeColon r
      | .error e => .error e
    else .error .keyNotText

section Left

variable {s r : List Symbol} {u : Unit}

theorem skipText_le (h : skipText s = .ok (u, r)) : r.length ≤ s.length := by
  fun_induction skipText s with
  | case1 => cases h
  | case2 b s ih => exact Nat.le_succ_of_le (ih h)
  | case3 => cases h; exact Nat.le_succ _
  | case4 => cases h
  | case5 d t hd n r' hr _ ih => have := ih h; have := takeHex_le hr; simp only [List.length_cons]; omega
  | case6 => cases h
  | case7 d t _ _ _ ih => have := ih h; simp only [List.length_cons]; omega
  | case8 => cases h
  | case9 => cases h
  | case10 c s _ _ _ ih => exact Nat.le_succ_of_le (ih h)

theorem skipDigits_le (h : skipDigits s = .ok (u, r)) : r.length ≤ s.length := by
  unfold skipDigits at h
  split at h
  · cases h; exact dropDigits_le s
  · cases h

theorem skipExponent_le (h : skipExponent s = .ok (u, r)) : r.length ≤ s.length := by
  unfold skipExponent at h
  split at h
  · exact Nat.le_succ_of_le (Nat.le_trans (skipDigits_le h) (takeSign_le _))
  · exact Nat.le_succ_of_le (Nat.le_trans (skipDigits_le h) (takeSign_le _))
  · cases h; exact Nat.le_refl _

theorem skipFraction_le (h : skipFraction s = .ok (u, r)) : r.length ≤ s.length := by
  unfold skipFraction at h
  split at h
  · split at h
    · next h' => exact Nat.le_succ_of_le (Nat.le_trans (skipExponent_le h) (skipDigits_le h'))
    · cases h
  · exact skipExponent_le h

theorem skipNumber_lt (h : skipNumber s = .ok (u, r)) : r.length < s.length := by
  unfold skipNumber at h
  split at h
  · cases h
  · refine Nat.lt_succ_of_le ?_
    split at h
    · cases h
    · split at h
      · cases h
      · exact skipFraction_le h
    · exact Nat.le_trans (skipFraction_le h) (dropDigits_le _)

theorem skipScalar_le {c : Symbol} (h : skipScalar c s = .ok (u, r)) : r.length ≤ s.length := by
  unfold skipScalar at h
  split at h
  · exact takeWord_le h
  · exact takeWord_le h
  · exact takeWord_le h
  · exact Nat.le_of_lt (skipNumber_lt h)
  · exact skipText_le h
  · split at h
    · exact Nat.le_of_lt_succ (skipNumber_lt h)
    · cases h

theorem skipKey_lt (h : skipKey s = .ok (u, r)) : r.length < s.length := by
  unfold skipKey at h
  split at h
  · cases h
  · next e =>
    have := length_lt_of_dropBlanks e
    split at h
    · split at h
      · next h' => have := takeColon_le h; have := skipText_le h'; omega
      · cases h
    · cases h

end Left

mutual

/-- Passes over a value and everything up to the end of the frames around it. -/
def skipWithin (frames : List Frame) (s : List Symbol) : Taken Unit :=
  match _hs : dropBlanks s with
  | [] => .error (.unfinished .value)
  | c :: t =>
    if c.isChar '[' then
      match _ht : dropBlanks t with
      | [] => .error (.unfinished .list)
      | d :: u => if d.isChar ']' then skipRest frames u else skipWithin (.list :: frames) t
    else if c.isChar '\x7b' then
      match _ht : dropBlanks t with
      | [] => .error (.unfinished .object)
      | d :: u =>
        if d.isChar '\x7d' then skipRest frames u
        else match _h : skipKey t with
          | .ok ((), r) => skipWithin (.object :: frames) r
          | .error e => .error e
    else match _h : skipScalar c t with
      | .ok ((), r) => skipRest frames r
      | .error e => .error e
termination_by s.length
decreasing_by
  all_goals have := length_lt_of_dropBlanks _hs
  · exact Nat.lt_trans (length_lt_of_dropBlanks _ht) this
  · exact this
  · exact Nat.lt_trans (length_lt_of_dropBlanks _ht) this
  · exact Nat.lt_trans (skipKey_lt _h) this
  · exact Nat.lt_of_le_of_lt (skipScalar_le _h) this

/-- Passes over what follows a value in the frames around it. -/
def skipRest (frames : List Frame) (s : List Symbol) : Taken Unit :=
  match frames with
  | [] => .ok ((), s)
  | .list :: outer =>
    match _hs : dropBlanks s with
    | [] => .error (.unfinished .list)
    | c :: t =>
      if c.isChar ',' then skipWithin (.list :: outer) t
      else if c.isChar ']' then skipRest outer t
      else .error .expectedCommaOrBracket
  | .object :: outer =>
    match _hs : dropBlanks s with
    | [] => .error (.unfinished .object)
    | c :: t =>
      if c.isChar ',' then
        match _h : skipKey t with
        | .ok ((), r) => skipWithin (.object :: outer) r
        | .error e => .error e
      else if c.isChar '\x7d' then skipRest outer t
      else .error .expectedCommaOrBrace
termination_by s.length
decreasing_by
  all_goals have := length_lt_of_dropBlanks _hs
  · exact this
  · exact this
  · exact Nat.lt_trans (skipKey_lt _h) this
  · exact this

end

/-- Neither part of skipping leaves more than it was given. -/
theorem skip_le (n : Nat) : ∀ {s r : List Symbol} {u : Unit} {frames : List Frame}, s.length ≤ n →
    (skipWithin frames s = .ok (u, r) → r.length ≤ s.length) ∧ (skipRest frames s = .ok (u, r) → r.length ≤ s.length) := by
  induction n with
  | zero =>
    intro s r u frames hn
    obtain rfl := List.length_eq_zero_iff.1 (Nat.le_zero.1 hn)
    refine ⟨fun h => ?_, fun h => ?_⟩
    · rw [skipWithin] at h; simp [dropBlanks] at h
    · obtain _ | ⟨_ | _, frames⟩ := frames <;> rw [skipRest] at h <;> simp [dropBlanks] at h
      exact h ▸ Nat.le_refl _
  | succ n ih =>
    intro s r u frames hn
    have step : ∀ {t : List Symbol} {frames : List Frame}, t.length < s.length →
        (skipWithin frames t = .ok (u, r) → r.length ≤ s.length) ∧
        (skipRest frames t = .ok (u, r) → r.length ≤ s.length) := fun {t frames} ht =>
      have := @ih t r u frames (Nat.le_of_lt_succ (Nat.lt_of_lt_of_le ht hn))
      ⟨fun h => Nat.le_trans (this.1 h) (Nat.le_of_lt ht), fun h => Nat.le_trans (this.2 h) (Nat.le_of_lt ht)⟩
    refine ⟨fun h => ?_, fun h => ?_⟩
    · rw [skipWithin] at h
      split at h
      · cases h
      · next hs =>
        have lt := length_lt_of_dropBlanks hs
        split at h
        · split at h
          · cases h
          · next ht =>
            split at h
            · exact (step (Nat.lt_trans (length_lt_of_dropBlanks ht) lt)).2 h
            · exact (step lt).1 h
        · split at h
          · split at h
            · cases h
            · next ht =>
              split at h
              · exact (step (Nat.lt_trans (length_lt_of_dropBlanks ht) lt)).2 h
              · split at h
                · next hk => exact (step (Nat.lt_trans (skipKey_lt hk) lt)).1 h
                · cases h
          · split at h
            · next hk => exact (step (Nat.lt_of_le_of_lt (skipScalar_le hk) lt)).2 h
            · cases h
    · rw [skipRest.eq_def] at h
      split at h
      · cases h; exact Nat.le_refl _
      · split at h
        · cases h
        · next hs =>
          have lt := length_lt_of_dropBlanks hs
          split at h
          · exact (step lt).1 h
          · split at h
            · exact (step lt).2 h
            · cases h
      · split at h
        · cases h
        · next hs =>
          have lt := length_lt_of_dropBlanks hs
          split at h
          · split at h
            · next hk => exact (step (Nat.lt_trans (skipKey_lt hk) lt)).1 h
            · cases h
          · split at h
            · exact (step lt).2 h
            · cases h

/-- Passes over a value. -/
def Reader.skip : Reader Unit := .ofTaken (skipWithin []) fun h => (skip_le _ (Nat.le_refl _)).1 h

end StaffIndex.Json
