import StaffIndex.Json.Scalar
import StaffIndex.Json.Skip

/-!
# Readers of lists, records and variants

A record is an object with its members in any order, or a list of them in their standing order. A member that is not
required may be left out, at the end of the list or anywhere in the object; members of other names are passed over. A
variant is its name, or an object with that one name and its contents.
-/

namespace StaffIndex.Json

/-! ## Lists -/

/-- The start of the next element of a list of which `n` elements are taken, or `none` after its closing bracket. -/
def takeElementStart (n : Nat) (s : List Symbol) : Taken Bool :=
  match dropBlanks s with
  | [] => .error (.unfinished .list)
  | c :: t =>
    if c.isChar ']' then .ok (false, t)
    else if n = 0 then .ok (true, c :: t)
    else if c.isChar ',' then
      match dropBlanks t with
      | [] => .error (.unfinished .value)
      | d :: u => if d.isChar ']' then .error .trailingComma else .ok (true, d :: u)
    else .error .expectedCommaOrBracket

theorem takeElementStart_le {n : Nat} {s r : List Symbol} {more : Bool}
    (h : takeElementStart n s = .ok (more, r)) : r.length ≤ s.length := by
  unfold takeElementStart at h
  split at h
  · cases h
  · next e =>
    have lt := length_lt_of_dropBlanks e
    split at h
    · cases h; omega
    · split at h
      · cases h; exact lt
      · split at h
        · split at h
          · cases h
          · next e' =>
            have := length_lt_of_dropBlanks e'
            split at h
            · cases h
            · cases h; simp only [List.length_cons]; omega
        · cases h

theorem takeElementStart_lt {n : Nat} {s r : List Symbol} {more : Bool}
    (h : takeElementStart (n + 1) s = .ok (more, r)) : r.length < s.length := by
  unfold takeElementStart at h
  split at h
  · cases h
  · next e =>
    have lt := length_lt_of_dropBlanks e
    split at h
    · cases h; exact lt
    · split at h
      · next h0 => exact absurd h0 (Nat.succ_ne_zero n)
      · split at h
        · split at h
          · cases h
          · next e' =>
            have := length_lt_of_dropBlanks e'
            split at h
            · cases h
            · cases h; simp only [List.length_cons]; omega
        · cases h

variable {α : Type}

namespace Reader

/-- The elements of a list after the first `n + 1`, after those in `read`, which are in reverse. -/
def takeMore (element : Reader α) (n : Nat) (read : List α) (s : List Symbol) : Except Error (List α × List Symbol) :=
  match _hs : takeElementStart (n + 1) s with
  | .error c => .error { cause := c }
  | .ok (false, r) => .ok (read.reverse, r)
  | .ok (true, t) =>
    match _ht : (element.within (.element (n + 1))).run t with
    | .error e => .error e
    | .ok (a, r) => takeMore element (n + 1) (a :: read) r
termination_by s.length
decreasing_by exact Nat.lt_of_le_of_lt (run_le _ _ht) (takeElementStart_lt _hs)

theorem takeMore_le {element : Reader α} {n : Nat} {read as : List α} {s r : List Symbol}
    (h : takeMore element n read s = .ok (as, r)) : r.length ≤ s.length := by
  fun_induction takeMore element n read s with
  | case1 => cases h
  | case2 n read s r' hs => cases h; exact takeElementStart_le hs
  | case3 => cases h
  | case4 n read s t hs a r' ht ih =>
    exact Nat.le_trans (ih h) (Nat.le_trans (run_le _ ht) (takeElementStart_le hs))

/-- Takes the elements of a list up to and including its closing bracket. -/
def takeElements (element : Reader α) (s : List Symbol) : Except Error (List α × List Symbol) :=
  match takeElementStart 0 s with
  | .error c => .error { cause := c }
  | .ok (false, r) => .ok ([], r)
  | .ok (true, t) =>
    match (element.within (.element 0)).run t with
    | .error e => .error e
    | .ok (a, r) => takeMore element 0 [a] r

theorem takeElements_le {element : Reader α} {as : List α} {s r : List Symbol}
    (h : takeElements element s = .ok (as, r)) : r.length ≤ s.length := by
  unfold takeElements at h
  split at h
  · cases h
  · next hs => cases h; exact takeElementStart_le hs
  · next hs =>
    split at h
    · cases h
    · next ht => exact Nat.le_trans (takeMore_le h) (Nat.le_trans (run_le _ ht) (takeElementStart_le hs))

def list (element : Reader α) : Reader (List α) where
  run s := match dropBlanks s with
    | [] => .error { cause := .unfinished .value }
    | c :: t => if c.isChar '[' then takeElements element t else .error { cause := unwanted "a sequence" c t }
  run_le h := by
    split at h
    · cases h
    · next e =>
      split at h
      · exact Nat.le_trans (takeElements_le h) (Nat.le_of_lt (length_lt_of_dropBlanks e))
      · cases h

end Reader

/-! ## Records -/

/-- A member of a record: what its value does to the record. -/
structure Member (α : Type) where
  name : String
  required : Bool
  reader : Reader (α → α)

/-- A kind of record: its name in messages, its members in their standing order, and a record to fill in. -/
structure Shape (α : Type) where
  name : String
  members : List (Member α)
  blank : α

/-- A member whose value is put into the record by `set`. -/
def Member.of {β : Type} (name : String) (required : Bool) (reader : Reader β) (set : β → α → α) : Member α :=
  ⟨name, required, reader.bind fun b => .pure (set b)⟩

namespace Shape

/-- The shape with its number of members, as messages about lists name it. -/
def wantedLength (shape : Shape α) : String :=
  let n := shape.members.length
  s!"{shape.name} with {n} element" ++ if n = 1 then "" else "s"

/-! ### Records as lists -/

/-- Takes the end of a list after its last member. -/
def takeListEnd (s : List Symbol) : Taken Unit :=
  match dropBlanks s with
  | [] => .error (.unfinished .list)
  | c :: t =>
    if c.isChar ']' then .ok ((), t)
    else if c.isChar ',' && ((dropBlanks t).head?.any (·.isChar ']')) then .error .trailingComma
    else .error .trailingCharacters

theorem takeListEnd_le {s r : List Symbol} {u : Unit} (h : takeListEnd s = .ok (u, r)) : r.length ≤ s.length := by
  unfold takeListEnd at h
  split at h
  · cases h
  · next e =>
    split at h
    · cases h; exact Nat.le_of_lt (length_lt_of_dropBlanks e)
    · split at h <;> cases h

/-- Takes the members from the `n`-th on, and the closing bracket. -/
def takeListed (shape : Shape α) (n : Nat) (a : α) :
    List (Member α) → List Symbol → Except Error (α × List Symbol)
  | [], s => match takeListEnd s with
    | .ok ((), r) => .ok (a, r)
    | .error c => .error { cause := c }
  | m :: ms, s => match takeElementStart n s with
    | .error c => .error { cause := c }
    | .ok (false, r) => match (m :: ms).findIdx? (·.required) with
      | some i => .error { cause := .wrongLength (n + i) shape.wantedLength }
      | none => .ok (a, r)
    | .ok (true, t) => match (m.reader.within (.element n)).run t with
      | .error e => .error e
      | .ok (f, r) => takeListed shape (n + 1) (f a) ms r

theorem takeListed_le {shape : Shape α} {n : Nat} {a b : α} {ms : List (Member α)} {s r : List Symbol}
    (h : takeListed shape n a ms s = .ok (b, r)) : r.length ≤ s.length := by
  induction ms generalizing n a s with
  | nil =>
    unfold takeListed at h
    split at h
    · next h' => cases h; exact takeListEnd_le h'
    · cases h
  | cons m ms ih =>
    unfold takeListed at h
    split at h
    · cases h
    · next hs =>
      split at h
      · cases h
      · cases h; exact takeElementStart_le hs
    · next hs =>
      split at h
      · cases h
      · next ht => exact Nat.le_trans (ih h) (Nat.le_trans (Reader.run_le _ ht) (takeElementStart_le hs))

/-! ### Records as objects -/

/-- What is next in an object: its end, or a member of the given name. -/
inductive Next where
  | closed
  | key (name : String)

/-- Takes the text of a key. -/
def takeKeyText : List Symbol → Taken Next
  | [] => .error (.unfinished .value)
  | c :: t =>
    if c.isChar '"' then
      match takeText [] t with
      | .ok (name, r) => .ok (.key name, r)
      | .error e => .error e
    else if c.isChar '\x7d' then .error .trailingComma
    else .error .keyNotText

theorem takeKeyText_lt {s r : List Symbol} {next : Next} (h : takeKeyText s = .ok (next, r)) :
    r.length < s.length := by
  unfold takeKeyText at h
  split at h
  · cases h
  · split at h
    · split at h
      · next h' => cases h; exact Nat.lt_succ_of_le (takeText_le h')
      · cases h
    · split at h <;> cases h

/-- Takes the key of the next member, or the closing brace. -/
def takeKey (first : Bool) (s : List Symbol) : Taken Next :=
  match dropBlanks s with
  | [] => .error (.unfinished .object)
  | c :: t =>
    if c.isChar '\x7d' then .ok (.closed, t)
    else if first then takeKeyText (c :: t)
    else if c.isChar ',' then takeKeyText (dropBlanks t)
    else .error .expectedCommaOrBrace

theorem takeKey_lt {first : Bool} {s r : List Symbol} {next : Next} (h : takeKey first s = .ok (next, r)) :
    r.length < s.length := by
  unfold takeKey at h
  split at h
  · cases h
  · next c t e =>
    have lt := length_lt_of_dropBlanks e
    split at h
    · cases h; exact lt
    · split at h
      · exact Nat.lt_of_lt_of_le (takeKeyText_lt h) lt
      · split at h
        · exact Nat.lt_trans (takeKeyText_lt h) (Nat.lt_of_le_of_lt (length_dropBlanks_le t) lt)
        · cases h

/-- Takes a colon and the value of a member, which lies in the field of that name. -/
def takeMemberValue {β : Type} (name : String) (r : Reader β) (s : List Symbol) : Except Error (β × List Symbol) :=
  match takeColon s with
  | .error c => .error { cause := c }
  | .ok ((), t) => (r.within (.field name)).run t

theorem takeMemberValue_le {β : Type} {name : String} {r : Reader β} {s t : List Symbol} {b : β}
    (h : takeMemberValue name r s = .ok (b, t)) : t.length ≤ s.length := by
  unfold takeMemberValue at h
  split at h
  · cases h
  · next h' => exact Nat.le_trans (Reader.run_le _ h) (takeColon_le h')

/-- The record, once no required member is missing. -/
def complete (shape : Shape α) (seen : List String) (a : α) : Except Error α :=
  match shape.members.find? fun m => m.required && !seen.contains m.name with
  | some m => .error { cause := .missingField m.name }
  | none => .ok a

/-- Takes the value of the member of that name into the record. -/
def takeMember (shape : Shape α) (seen : List String) (a : α) (name : String) (s : List Symbol) :
    Except Error ((List String × α) × List Symbol) :=
  match shape.members.find? (·.name = name) with
  | some m =>
    if seen.contains name then .error { cause := .duplicateField name }
    else match takeMemberValue name m.reader s with
      | .ok (f, r) => .ok ((name :: seen, f a), r)
      | .error e => .error e
  | none => match takeMemberValue name .skip s with
    | .ok ((), r) => .ok ((seen, a), r)
    | .error e => .error e

theorem takeMember_le {shape : Shape α} {seen : List String} {a : α} {name : String} {s r : List Symbol}
    {x : List String × α} (h : takeMember shape seen a name s = .ok (x, r)) : r.length ≤ s.length := by
  unfold takeMember at h
  split at h
  · split at h
    · cases h
    · split at h
      · next h' => cases h; exact takeMemberValue_le h'
      · cases h
  · split at h
    · next h' => cases h; exact takeMemberValue_le h'
    · cases h

/-- Takes the members of an object up to and including its closing brace. The names of the members taken before are in
`seen`. -/
def takeMembers (shape : Shape α) (first : Bool) (seen : List String) (a : α) (s : List Symbol) :
    Except Error (α × List Symbol) :=
  match _hs : takeKey first s with
  | .error c => .error { cause := c }
  | .ok (.closed, r) => (shape.complete seen a).map (·, r)
  | .ok (.key name, t) => match _ht : shape.takeMember seen a name t with
    | .error e => .error e
    | .ok (x, r) => takeMembers shape false x.1 x.2 r
termination_by s.length
decreasing_by exact Nat.lt_of_le_of_lt (takeMember_le _ht) (takeKey_lt _hs)

theorem takeMembers_le {shape : Shape α} {first : Bool} {seen : List String} {a b : α} {s r : List Symbol}
    (h : takeMembers shape first seen a s = .ok (b, r)) : r.length ≤ s.length := by
  fun_induction takeMembers shape first seen a s with
  | case1 => cases h
  | case2 first seen a s r' hs =>
    cases hc : shape.complete seen a <;> rw [hc] at h <;> simp [Except.map] at h
    exact h.2 ▸ Nat.le_of_lt (takeKey_lt hs)
  | case3 => cases h
  | case4 first seen a s name t hs x r' ht ih =>
    exact Nat.le_trans (ih h) (Nat.le_trans (takeMember_le ht) (Nat.le_of_lt (takeKey_lt hs)))

/-- Takes a record in either form. -/
def take (shape : Shape α) (s : List Symbol) : Except Error (α × List Symbol) :=
  match dropBlanks s with
  | [] => .error { cause := .unfinished .value }
  | c :: t =>
    if c.isChar '[' then shape.takeListed 0 shape.blank shape.members t
    else if c.isChar '\x7b' then shape.takeMembers true [] shape.blank t
    else .error { cause := unwanted shape.name c t }

theorem take_le {shape : Shape α} {a : α} {s r : List Symbol} (h : shape.take s = .ok (a, r)) :
    r.length ≤ s.length := by
  unfold take at h
  split at h
  · cases h
  · next e =>
    have lt := length_lt_of_dropBlanks e
    split at h
    · exact Nat.le_trans (takeListed_le h) (Nat.le_of_lt lt)
    · split at h
      · exact Nat.le_trans (takeMembers_le h) (Nat.le_of_lt lt)
      · cases h

end Shape

namespace Reader

def record (shape : Shape α) : Reader α := ⟨shape.take, Shape.take_le⟩

/-! ## Variants -/

/-- Takes the name of a variant after the opening brace. An object without a name holds no variant. -/
def takeVariantName (s : List Symbol) : Taken String :=
  match dropBlanks s with
  | [] => .error (.unfinished .object)
  | c :: t =>
    if c.isChar '"' then takeText [] t
    else if c.isChar '\x7d' then .error .expectedValue
    else .error .keyNotText

theorem takeVariantName_le {s r : List Symbol} {name : String} (h : takeVariantName s = .ok (name, r)) :
    r.length ≤ s.length := by
  unfold takeVariantName at h
  split at h
  · cases h
  · next e =>
    split at h
    · exact Nat.le_trans (takeText_le h) (Nat.le_of_lt (length_lt_of_dropBlanks e))
    · split at h <;> cases h

/-- Takes the closing brace after the contents of a variant. -/
def takeVariantEnd (s : List Symbol) : Taken Unit :=
  match dropBlanks s with
  | [] => .error (.unfinished .object)
  | c :: t => if c.isChar '\x7d' then .ok ((), t) else .error .expectedValue

theorem takeVariantEnd_le {s r : List Symbol} {u : Unit} (h : takeVariantEnd s = .ok (u, r)) :
    r.length ≤ s.length := by
  unfold takeVariantEnd at h
  split at h
  · cases h
  · next e =>
    split at h
    · cases h; exact Nat.le_of_lt (length_lt_of_dropBlanks e)
    · cases h

/-- Fails unless the name is known. -/
def known (names : List String) (name : String) : Reader Unit :=
  if names.contains name then .pure () else .fail (.unknownVariant name names)

/-- A variant by one of the names. On its own a name stands for what `bare` makes of it; the contents that follow a name
in an object are read by `content`. -/
def variant (names : List String) (bare content : String → Reader α) : Reader α where
  run s := match dropBlanks s with
    | [] => .error { cause := .unfinished .value }
    | c :: t =>
      if c.isChar '"' then
        (bind (.ofTaken (takeText []) takeText_le) fun name => bind (known names name) fun _ => bare name).run t
      else if c.isChar '\x7b' then
        (bind (.ofTaken takeVariantName takeVariantName_le) fun name =>
          bind (known names name) fun _ =>
          bind (.ofTaken takeColon takeColon_le) fun _ =>
          bind (content name) fun a =>
          bind (.ofTaken takeVariantEnd takeVariantEnd_le) fun _ => .pure a).run t
      else .error { cause := .expectedValue }
  run_le h := by
    split at h
    · cases h
    · next e =>
      have lt := length_lt_of_dropBlanks e
      split at h
      · exact Nat.le_trans (run_le _ h) (Nat.le_of_lt lt)
      · split at h
        · exact Nat.le_trans (run_le _ h) (Nat.le_of_lt lt)
        · cases h

end Reader

/-! ## Whole texts -/

/-- Reads the value at the front of the symbols, whatever comes after it. -/
def Reader.front (r : Reader α) (symbols : List Symbol) : Except Error α := (r.run symbols).map (·.1)

/-- Reads a text that holds a single value. -/
def Reader.whole (r : Reader α) (text : String) : Except Error α :=
  match r.run (Symbol.ofString text) with
  | .error e => .error e
  | .ok (a, rest) => if dropBlanks rest = [] then .ok a else .error { cause := .trailingCharacters }

end StaffIndex.Json
