import StaffIndex.Json.Error
import StaffIndex.Json.Symbol

/-!
# Readers of JSON text

A reader takes a value from the front of a list of symbols and leaves the rest, which is never longer than the list
(`Reader.run_le`), so that whoever reads one value after another comes to an end. Here are the readers of single tokens:
blanks, words, texts.
-/

namespace StaffIndex.Json

/-- A reader of an `α`. -/
structure Reader (α : Type) where
  run : List Symbol → Except Error (α × List Symbol)
  run_le : ∀ {s a r}, run s = .ok (a, r) → r.length ≤ s.length

/-- What a step in reading makes of the symbols. -/
abbrev Taken (α : Type) := Except Cause (α × List Symbol)

namespace Reader

variable {α β : Type}

def pure (a : α) : Reader α where
  run s := .ok (a, s)
  run_le h := by cases h; exact Nat.le_refl _

def fail (c : Cause) : Reader α where
  run _ := .error { cause := c }
  run_le h := by cases h

def bind (r : Reader α) (f : α → Reader β) : Reader β where
  run s := match r.run s with
    | .ok (a, rest) => (f a).run rest
    | .error e => .error e
  run_le h := by
    split at h
    · next h' => exact Nat.le_trans ((f _).run_le h) (r.run_le h')
    · cases h

instance : Monad Reader where
  pure := pure
  bind := bind

/-- The reader of a step that never leaves more than it was given. -/
def ofTaken (step : List Symbol → Taken α) (h : ∀ {s a r}, step s = .ok (a, r) → r.length ≤ s.length) : Reader α where
  run s := match step s with
    | .ok x => .ok x
    | .error c => .error { cause := c }
  run_le h' := by
    split at h'
    · next e => cases h'; exact h e
    · cases h'

/-- Notes that problems lie in the given part of the value. -/
def within (step : Step) (r : Reader α) : Reader α where
  run s := match r.run s with
    | .ok x => .ok x
    | .error e => .error { e with path := step :: e.path }
  run_le h := by
    split at h
    · next e => cases h; exact r.run_le e
    · cases h

end Reader

/-! ## Blanks and words -/

def isBlank : Symbol → Bool
  | .char c => c = ' ' || c = '\n' || c = '\t' || c = '\r'
  | .stray _ => false

def dropBlanks (s : List Symbol) : List Symbol := s.dropWhile isBlank

theorem length_dropBlanks_le (s : List Symbol) : (dropBlanks s).length ≤ s.length :=
  (List.dropWhile_sublist _).length_le

theorem length_lt_of_dropBlanks {s t : List Symbol} {c : Symbol} (h : dropBlanks s = c :: t) : t.length < s.length := by
  have := length_dropBlanks_le s; rw [h] at this; exact this

/-- Takes the characters of a word. -/
def takeWord : List Char → List Symbol → Taken Unit
  | [], s => .ok ((), s)
  | _ :: _, [] => .error (.unfinished .value)
  | c :: cs, d :: s => if d.isChar c then takeWord cs s else .error .expectedIdent

theorem takeWord_le {cs : List Char} {s r : List Symbol} {u : Unit} (h : takeWord cs s = .ok (u, r)) :
    r.length ≤ s.length := by
  induction cs generalizing s with
  | nil => cases h; exact Nat.le_refl _
  | cons c cs ih =>
    cases s with
    | nil => cases h
    | cons d s =>
      unfold takeWord at h
      split at h
      · exact Nat.le_succ_of_le (ih h)
      · cases h

/-- Takes the colon after a key. -/
def takeColon (s : List Symbol) : Taken Unit :=
  match dropBlanks s with
  | [] => .error (.unfinished .object)
  | d :: t => if d.isChar ':' then .ok ((), t) else .error .expectedColon

theorem takeColon_le {s r : List Symbol} {u : Unit} (h : takeColon s = .ok (u, r)) : r.length ≤ s.length := by
  unfold takeColon at h
  split at h
  · cases h
  · next e =>
    split at h
    · cases h; exact Nat.le_of_lt (length_lt_of_dropBlanks e)
    · cases h

/-! ## Texts -/

/-- The value of a digit to the base sixteen. -/
def hexDigit? : Symbol → Option Nat
  | .char c =>
    if '0' ≤ c ∧ c ≤ '9' then some (c.toNat - 48)
    else if 'a' ≤ c ∧ c ≤ 'f' then some (c.toNat - 87)
    else if 'A' ≤ c ∧ c ≤ 'F' then some (c.toNat - 55)
    else none
  | .stray _ => none

/-- Takes four digits to the base sixteen. A text that breaks off is one with fewer than four bytes left. -/
def takeHex : List Symbol → Taken Nat
  | a :: b :: c :: d :: s =>
    match hexDigit? a, hexDigit? b, hexDigit? c, hexDigit? d with
    | some a, some b, some c, some d => .ok (((a * 16 + b) * 16 + c) * 16 + d, s)
    | _, _, _, _ => .error .invalidEscape
  | s => .error (if s.foldl (fun n x => n + x.size) 0 < 4 then .unfinished .text else .invalidEscape)

theorem takeHex_le {s r : List Symbol} {n : Nat} (h : takeHex s = .ok (n, r)) : r.length ≤ s.length := by
  unfold takeHex at h
  split at h
  · split at h
    · cases h; simp only [List.length_cons]; omega
    · cases h
  · cases h

/-- Takes the second half of a pair of surrogates, escaped like the first. -/
def takeSecondHalf : List Symbol → Taken Nat
  | [] => .error (.unfinished .text)
  | a :: s =>
    if a.isChar '\\' then
      match s with
      | [] => .error (.unfinished .text)
      | b :: t => if b.isChar 'u' then takeHex t else .error .unfinishedPair
    else .error .unfinishedPair

theorem takeSecondHalf_le {s r : List Symbol} {n : Nat} (h : takeSecondHalf s = .ok (n, r)) :
    r.length ≤ s.length := by
  unfold takeSecondHalf at h
  split at h
  · cases h
  · split at h
    · split at h
      · cases h
      · split at h
        · have := takeHex_le h; simp only [List.length_cons]; omega
        · cases h
    · cases h

/-- Takes the digits of an escaped character, and of a pair of surrogates if they are the first of one. -/
def takeEscapedCode (s : List Symbol) : Taken Char :=
  match takeHex s with
  | .error c => .error c
  | .ok (n, s) =>
    if 0xDC00 ≤ n ∧ n < 0xE000 then .error .loneSurrogate
    else if 0xD800 ≤ n ∧ n < 0xDC00 then
      match takeSecondHalf s with
      | .error c => .error c
      | .ok (m, s) =>
        if 0xDC00 ≤ m ∧ m < 0xE000 then .ok (Char.ofNat (0x10000 + (n - 0xD800) * 0x400 + (m - 0xDC00)), s)
        else .error .loneSurrogate
    else .ok (Char.ofNat n, s)

theorem takeEscapedCode_le {s r : List Symbol} {c : Char} (h : takeEscapedCode s = .ok (c, r)) :
    r.length ≤ s.length := by
  unfold takeEscapedCode at h
  split at h
  · cases h
  · next h₁ =>
    have l₁ := takeHex_le h₁
    split at h
    · cases h
    · split at h
      · split at h
        · cases h
        · next h₂ =>
          have l₂ := takeSecondHalf_le h₂
          split at h
          · injection h with h; injection h with _ h; subst h; omega
          · cases h
      · injection h with h; injection h with _ h; subst h; exact l₁

/-- The character that a letter after a backslash stands for. -/
def escaped? : Char → Option Char
  | '"' => some '"'
  | '\\' => some '\\'
  | '/' => some '/'
  | 'b' => some '\x08'
  | 'f' => some '\x0c'
  | 'n' => some '\n'
  | 'r' => some '\r'
  | 't' => some '\t'
  | _ => none

/-- Takes what follows a backslash. -/
def takeEscape : List Symbol → Taken Char
  | [] => .error (.unfinished .text)
  | .stray _ :: _ => .error .invalidEscape
  | .char c :: s =>
    if c = 'u' then takeEscapedCode s
    else match escaped? c with
      | some d => .ok (d, s)
      | none => .error .invalidEscape

theorem takeEscape_lt {s r : List Symbol} {c : Char} (h : takeEscape s = .ok (c, r)) : r.length < s.length := by
  unfold takeEscape at h
  split at h
  · cases h
  · cases h
  · split at h
    · exact Nat.lt_succ_of_le (takeEscapedCode_le h)
    · split at h
      · cases h; exact Nat.lt_succ_self _
      · cases h

/-- The text that the symbols make up, unless a byte among them is stray. -/
def textOf? (symbols : List Symbol) : Option String :=
  (symbols.mapM Symbol.char?).map String.ofList

/-- The text made up by the symbols in `read`, which are in reverse, before the rest. -/
def closeText (read rest : List Symbol) : Taken String :=
  match textOf? read.reverse with
  | some text => .ok (text, rest)
  | none => .error .invalidCodePoint

/-- Takes the rest of a text up to its closing quote. What was taken before is in `read`, in reverse. -/
def takeText (read : List Symbol) : List Symbol → Taken String
  | [] => .error (.unfinished .text)
  | .stray b :: s => takeText (.stray b :: read) s
  | .char c :: s =>
    if c = '"' then closeText read s
    else if c = '\\' then
      match _h : takeEscape s with
      | .ok (d, r) => takeText (.char d :: read) r
      | .error e => .error e
    else if c.toNat < 0x20 then .error .controlCharacter
    else takeText (.char c :: read) s
termination_by s => s.length
decreasing_by
  · exact Nat.lt_succ_self _
  · exact Nat.lt_succ_of_lt (takeEscape_lt _h)
  · exact Nat.lt_succ_self _

theorem eq_of_closeText {read s r : List Symbol} {t : String} (h : closeText read s = .ok (t, r)) : r = s := by
  unfold closeText at h; split at h <;> cases h; rfl

theorem takeText_le {read s r : List Symbol} {t : String} (h : takeText read s = .ok (t, r)) : r.length ≤ s.length := by
  fun_induction takeText read s with
  | case1 => cases h
  | case2 read b s ih => exact Nat.le_succ_of_le (ih h)
  | case3 read s => exact eq_of_closeText h ▸ Nat.le_succ _
  | case4 read s d r' he _ ih => exact Nat.le_succ_of_le (Nat.le_trans (ih h) (Nat.le_of_lt (takeEscape_lt he)))
  | case5 => cases h
  | case6 => cases h
  | case7 read c s _ _ _ ih => exact Nat.le_succ_of_le (ih h)

end StaffIndex.Json
