import StaffIndex.Json.Reader
import StaffIndex.Json.Written

/-!
# Escaped texts

A text is read as the characters it was written from, whatever they are (`takeText_text`). Each of them is taken on its
own (`takeText_textChar`): it stands for itself, or it comes after a backslash, by its letter or by its four digits
(`takeEscape_control`).
-/

namespace StaffIndex.Json

open Written

variable {read rest : List Symbol} {c : Char}

/-! ## Steps -/

theorem takeText_quote (read rest : List Symbol) : takeText read (.char '"' :: rest) = closeText read rest := by
  rw [takeText, if_pos rfl]

theorem takeText_escape {s : List Symbol} (h : takeEscape s = .ok (c, rest)) :
    takeText read (.char '\\' :: s) = takeText (.char c :: read) rest := by
  rw [takeText, if_neg (by decide), if_pos rfl]
  split
  · next he =>
    cases h.symm.trans he
    rfl
  · next he => cases h.symm.trans he

/-- A character that needs no escape. -/
theorem takeText_plain (hquote : c ≠ '"') (hbackslash : c ≠ '\\') (hcontrol : ¬ c.toNat < 0x20) :
    takeText read (.char c :: rest) = takeText (.char c :: read) rest := by
  rw [takeText, if_neg hquote, if_neg hbackslash, if_neg hcontrol]

/-! ## Digits -/

theorem hexDigit?_hexDigit {n : Nat} (h : n < 16) : hexDigit? (.char (hexDigit n)) = some n := by
  have hall : ∀ m : Fin 16, hexDigit? (.char (hexDigit m)) = some m.val := by decide
  exact hall ⟨n, h⟩

/-- A control character by its digits. -/
theorem takeEscape_control (h : c.toNat < 0x20) :
    takeEscape (['u', '0', '0', hexDigit (c.toNat / 16), hexDigit (c.toNat % 16)].map .char ++ rest) =
      .ok (c, rest) := by
  have hhigh : hexDigit? (.char (hexDigit (c.toNat / 16))) = some (c.toNat / 16) := hexDigit?_hexDigit (by omega)
  have hlow : hexDigit? (.char (hexDigit (c.toNat % 16))) = some (c.toNat % 16) := hexDigit?_hexDigit (by omega)
  have hzero : hexDigit? (.char '0') = some 0 := rfl
  have hcode : ((0 * 16 + 0) * 16 + c.toNat / 16) * 16 + c.toNat % 16 = c.toNat := by omega
  have hhex : takeHex (['0', '0', hexDigit (c.toNat / 16), hexDigit (c.toNat % 16)].map .char ++ rest) =
      .ok (c.toNat, rest) := by
    simp only [List.map_cons, List.map_nil, List.cons_append, List.nil_append, takeHex, hzero, hhigh, hlow, hcode]
  have hcode' : takeEscapedCode (['0', '0', hexDigit (c.toNat / 16), hexDigit (c.toNat % 16)].map .char ++ rest) =
      .ok (c, rest) := by
    rw [takeEscapedCode, hhex]
    simp only
    rw [if_neg (by omega), if_neg (by omega), Char.ofNat_toNat]
  exact hcode'

/-! ## Texts -/

/-- One character, however it is written. -/
theorem takeText_textChar (read rest : List Symbol) (c : Char) :
    takeText read ((textChar c).map .char ++ rest) = takeText (.char c :: read) rest := by
  unfold textChar
  split
  · next h => subst h; exact takeText_escape rfl
  split
  · next h => subst h; exact takeText_escape rfl
  split
  · next h => subst h; exact takeText_escape rfl
  split
  · next h => subst h; exact takeText_escape rfl
  split
  · next h => subst h; exact takeText_escape rfl
  split
  · next h => subst h; exact takeText_escape rfl
  split
  · next h => subst h; exact takeText_escape rfl
  split
  · next h => exact takeText_escape (takeEscape_control h)
  · next hquote hbackslash _ _ _ _ _ hcontrol => exact takeText_plain hquote hbackslash hcontrol

/-- The characters that a text was written from make it up again. -/
theorem textOf?_chars (cs : List Char) : textOf? (cs.map .char) = some (String.ofList cs) := by
  have hall : (cs.map Symbol.char).mapM Symbol.char? = some cs := by
    induction cs with
    | nil => rfl
    | cons c cs ih => simp [Symbol.char?, ih]
  rw [textOf?, hall]
  rfl

/-- The characters of a written text and its closing quote, after others. -/
theorem takeText_chars (before cs : List Char) (rest : List Symbol) :
    takeText (before.reverse.map .char) ((cs.flatMap textChar ++ ['"']).map .char ++ rest) =
      .ok (String.ofList (before ++ cs), rest) := by
  induction cs generalizing before with
  | nil =>
    have hclose : closeText (before.reverse.map .char) rest = .ok (String.ofList before, rest) := by
      rw [closeText, ← List.map_reverse, List.reverse_reverse, textOf?_chars]
    rw [List.append_nil]
    exact (takeText_quote _ _).trans hclose
  | cons c cs ih =>
    have hnext := ih (before ++ [c])
    rw [List.reverse_append] at hnext
    rw [List.flatMap_cons, List.append_assoc, List.map_append, List.append_assoc, takeText_textChar]
    rw [List.append_assoc] at hnext
    exact hnext

theorem takeText_text (s : String) (rest : List Symbol) :
    takeText [] ((s.toList.flatMap textChar ++ ['"']).map .char ++ rest) = .ok (s, rest) := by
  have h := takeText_chars [] s.toList rest
  rw [List.nil_append, String.ofList_toList] at h
  exact h

end StaffIndex.Json
