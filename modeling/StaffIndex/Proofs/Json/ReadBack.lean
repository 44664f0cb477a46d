import Mathlib.Data.List.Forall2
import StaffIndex.Json.Record
import StaffIndex.Proofs.Json.Texts

/-!
# Reading back what was written

A reader reads a text for a value if it takes the text for the value whatever comes after it, and leaves what comes
after (`Reader.Reads`). Texts, lists, records and variants are read for what they were written from as soon as their
parts are: `reads_text`, `reads_list`, `Shape.reads_object` and `reads_variant`.
-/

namespace StaffIndex.Json

variable {α β : Type} {r : Reader α} {text : List Char} {a : α}

/-- The characters that written values start with. None of them is a blank or a closing bracket. -/
def opensValue (c : Char) : Bool := c = '"' || c = '[' || c = '\x7b' || c = 'n'

/-- The reader takes the text for the value and leaves what comes after it. -/
structure Reader.Reads (r : Reader α) (text : List Char) (a : α) : Prop where
  start : ∃ c cs, text = c :: cs ∧ opensValue c = true
  run : ∀ rest, r.run (text.map .char ++ rest) = .ok (a, rest)

/-! ## Steps -/

theorem dropBlanks_of_opensValue {c : Char} {s : List Symbol} (h : opensValue c = true) :
    dropBlanks (.char c :: s) = .char c :: s := by
  simp only [opensValue, Bool.or_eq_true, decide_eq_true_eq] at h
  rcases h with ((rfl | rfl) | rfl) | rfl <;> rfl

theorem not_closing_of_opensValue {c : Char} (h : opensValue c = true) : Symbol.isChar ']' (.char c) = false := by
  simp only [opensValue, Bool.or_eq_true, decide_eq_true_eq] at h
  rcases h with ((rfl | rfl) | rfl) | rfl <;> rfl

namespace Reader

theorem bind_run {s rest : List Symbol} (h : r.run s = .ok (a, rest)) (f : α → Reader β) :
    (r.bind f).run s = (f a).run rest := by
  simp only [bind, h]

theorem within_run {s rest : List Symbol} (h : r.run s = .ok (a, rest)) (step : Step) :
    (r.within step).run s = .ok (a, rest) := by
  simp only [within, h]

theorem Reads.map (h : r.Reads text a) (f : α → β) : (r.bind fun a => .pure (f a)).Reads text (f a) where
  start := h.start
  run rest := bind_run (h.run rest) _

/-- A text that is read for a value is read for it as a whole. -/
theorem Reads.whole (h : r.Reads text a) : r.whole (String.ofList text) = .ok a := by
  have hrun : r.run (Symbol.ofString (String.ofList text)) = .ok (a, []) := by
    have hend := h.run []
    rw [List.append_nil] at hend
    rw [Symbol.ofString, String.toList_ofList]
    exact hend
  rw [Reader.whole, hrun]
  rfl

/-! ## Single values -/

theorem reads_text (s : String) : Reader.text.Reads (Written.text s) s where
  start := ⟨_, _, rfl, rfl⟩
  run rest := by
    have htake : takeTextValue "a string" ((Written.text s).map .char ++ rest) = .ok (s, rest) := takeText_text s rest
    simp only [Reader.text, ofTaken, htake]

theorem reads_null : r.optional.Reads Written.null none where
  start := ⟨_, _, rfl, rfl⟩
  run _ := rfl

/-- A value that is there, unless it could be taken for null. -/
theorem Reads.some (h : r.Reads text a) (hn : text.head? ≠ some 'n') : r.optional.Reads text (some a) where
  start := h.start
  run rest := by
    obtain ⟨c, cs, rfl, hc⟩ := h.start
    have hc' : Symbol.isChar 'n' (.char c) = false := by
      simp only [Symbol.isChar, beq_eq_false_iff_ne]
      rintro rfl
      exact hn rfl
    have hrun := h.run rest
    rw [List.map_cons, List.cons_append] at hrun ⊢
    simp only [optional, dropBlanks_of_opensValue hc, hc', hrun]
    rfl

theorem reads_optional {write : α → List Char} (h : ∀ a, r.Reads (write a) a)
    (hn : ∀ a, (write a).head? ≠ .some 'n') (o : Option α) :
    r.optional.Reads ((o.map write).getD Written.null) o := by
  cases o with
  | none => exact reads_null
  | some a => exact (h a).some (hn a)

theorem reads_optionalText (o : Option String) : Reader.text.optional.Reads (Written.optional o) o := by
  cases o with
  | none => exact reads_null
  | some s => exact (reads_text s).some (by simp [Written.text])

end Reader

/-! ## Lists -/

theorem separated_cons (p : List Char) (ps : List (List Char)) :
    Written.separated (p :: ps) = p ++ ps.flatMap (',' :: ·) := by
  induction ps generalizing p with
  | nil => exact (List.append_nil p).symm
  | cons q ps ih => rw [Written.separated, ih, List.flatMap_cons, List.cons_append]; simp

namespace Reader

/-- The first element of a list starts where the list is opened. -/
theorem Reads.takeElementStart_first (h : r.Reads text a) (rest : List Symbol) :
    takeElementStart 0 (text.map .char ++ rest) = .ok (true, text.map .char ++ rest) := by
  obtain ⟨c, cs, rfl, hc⟩ := h.start
  rw [List.map_cons, List.cons_append]
  simp only [takeElementStart, dropBlanks_of_opensValue hc, not_closing_of_opensValue hc]
  rfl

/-- A later element starts after a comma. -/
theorem Reads.takeElementStart_next (h : r.Reads text a) (n : Nat) (rest : List Symbol) :
    takeElementStart (n + 1) (.char ',' :: (text.map .char ++ rest)) = .ok (true, text.map .char ++ rest) := by
  obtain ⟨c, cs, rfl, hc⟩ := h.start
  have hcomma (s : List Symbol) : dropBlanks (.char ',' :: s) = .char ',' :: s := rfl
  rw [List.map_cons, List.cons_append]
  simp only [takeElementStart, hcomma, dropBlanks_of_opensValue hc, not_closing_of_opensValue hc]
  rfl

theorem takeElements_of_first {s t rest : List Symbol} (hs : takeElementStart 0 s = .ok (true, t))
    (ht : r.run t = .ok (a, rest)) : takeElements r s = takeMore r 0 [a] rest := by
  simp only [takeElements, hs, within_run ht]

/-- One step through a list. -/
theorem takeMore_eq (r : Reader α) (n : Nat) (read : List α) (s : List Symbol) : takeMore r n read s =
    match takeElementStart (n + 1) s with
    | .error c => .error { cause := c }
    | .ok (false, rest) => .ok (read.reverse, rest)
    | .ok (true, t) => match (r.within (.element (n + 1))).run t with
      | .error e => .error e
      | .ok (a, rest) => takeMore r (n + 1) (a :: read) rest := by
  rw [takeMore]
  split
  · next hs => rw [hs]
  · next hs => rw [hs]
  · next hs =>
    rw [hs]
    dsimp only
    split
    · next ht => rw [ht]
    · next ht => rw [ht]

theorem takeMore_of_closed {n : Nat} {read : List α} {s rest : List Symbol}
    (hs : takeElementStart (n + 1) s = .ok (false, rest)) : takeMore r n read s = .ok (read.reverse, rest) := by
  rw [takeMore_eq, hs]

theorem takeMore_of_next {n : Nat} {read : List α} {s t rest : List Symbol}
    (hs : takeElementStart (n + 1) s = .ok (true, t)) (ht : r.run t = .ok (a, rest)) :
    takeMore r n read s = takeMore r (n + 1) (a :: read) rest := by
  simp only [takeMore_eq r n, hs, within_run ht]

variable {write : α → List Char}

/-- The elements of a written list after the first `n + 1`, after those in `read`. -/
theorem takeMore_written (h : ∀ a, r.Reads (write a) a) (n : Nat) (read as : List α) (rest : List Symbol) :
    takeMore r n read (((as.map write).flatMap (',' :: ·)).map .char ++ .char ']' :: rest) =
      .ok (read.reverse ++ as, rest) := by
  induction as generalizing n read with
  | nil =>
    rw [List.append_nil]
    exact takeMore_of_closed rfl
  | cons a as ih =>
    rw [List.map_cons, List.flatMap_cons, List.cons_append, List.map_cons, List.map_append, List.cons_append,
      List.append_assoc, takeMore_of_next ((h a).takeElementStart_next n _) ((h a).run _), ih, List.reverse_cons,
      List.append_assoc]
    rfl

theorem takeElements_written (h : ∀ a, r.Reads (write a) a) (as : List α) (rest : List Symbol) :
    takeElements r ((Written.separated (as.map write)).map .char ++ .char ']' :: rest) = .ok (as, rest) := by
  cases as with
  | nil => rfl
  | cons a as =>
    rw [List.map_cons, separated_cons, List.map_append, List.append_assoc,
      takeElements_of_first ((h a).takeElementStart_first _) ((h a).run _)]
    exact takeMore_written h 0 [a] as rest

theorem reads_list (h : ∀ a, r.Reads (write a) a) (as : List α) : r.list.Reads (Written.list (as.map write)) as where
  start := ⟨_, _, rfl, rfl⟩
  run rest := by
    rw [Written.list, List.map_cons, List.map_append, List.cons_append, List.append_assoc]
    exact takeElements_written h as rest

theorem reads_texts (ss : List String) : Reader.text.list.Reads (Written.texts ss) ss := reads_list reads_text ss

end Reader

/-! ## Records -/

/-- A member as it is written: its name, the text of its value, and what the value does to the record. -/
structure Entry (α : Type) where
  name : String
  text : List Char
  change : α → α

def Entry.written (e : Entry α) : List Char := Written.text e.name ++ ':' :: e.text

theorem Entry.written_append (e : Entry α) (s : List Symbol) :
    e.written.map .char ++ s = (Written.text e.name).map .char ++ .char ':' :: (e.text.map .char ++ s) := by
  simp [Entry.written]

/-- The member reads the text of the entry as its change to the record. -/
structure Member.Reads (m : Member α) (e : Entry α) : Prop where
  name : m.name = e.name
  value : m.reader.Reads e.text e.change

theorem Member.Reads.of {r : Reader β} {b : β} (h : r.Reads text b) (name : String) (required : Bool)
    (set : β → α → α) : (Member.of name required r set).Reads ⟨name, text, set b⟩ :=
  ⟨rfl, h.map set⟩

namespace Shape

variable {shape : Shape α} {m : Member α} {e : Entry α} {left : List (Member α)} {entries : List (Entry α)}

theorem takeKeyText_text (name : String) (rest : List Symbol) :
    takeKeyText ((Written.text name).map .char ++ rest) = .ok (.key name, rest) := by
  have htake := takeText_text name rest
  rw [Written.text, List.map_cons, List.cons_append, takeKeyText, if_pos (by rfl), htake]

theorem takeKey_first (name : String) (rest : List Symbol) :
    takeKey true ((Written.text name).map .char ++ rest) = .ok (.key name, rest) :=
  takeKeyText_text name rest

theorem takeKey_next (name : String) (rest : List Symbol) :
    takeKey false (.char ',' :: ((Written.text name).map .char ++ rest)) = .ok (.key name, rest) :=
  takeKeyText_text name rest

/-- A member that is found by its name, which was not seen before. -/
structure Fresh (shape : Shape α) (seen : List String) (m : Member α) : Prop where
  find : shape.members.find? (·.name = m.name) = some m
  new : m.name ∉ seen

theorem takeMember_written {seen : List String} (h : m.Reads e) (hm : shape.Fresh seen m) (a : α)
    (rest : List Symbol) :
    shape.takeMember seen a e.name (.char ':' :: (e.text.map .char ++ rest)) =
      .ok ((e.name :: seen, e.change a), rest) := by
  have hvalue : takeMemberValue e.name m.reader (.char ':' :: (e.text.map .char ++ rest)) = .ok (e.change, rest) :=
    Reader.within_run (h.value.run rest) (.field e.name)
  have hfind := hm.find
  have hseen : seen.contains e.name = false := by
    rw [List.contains_eq_mem, ← h.name, decide_eq_false hm.new]
  rw [h.name] at hfind
  simp only [takeMember, hfind, hseen, hvalue]
  rfl

/-- One step through an object. -/
theorem takeMembers_eq (shape : Shape α) (first : Bool) (seen : List String) (a : α) (s : List Symbol) :
    shape.takeMembers first seen a s =
    match takeKey first s with
    | .error c => .error { cause := c }
    | .ok (.closed, rest) => (shape.complete seen a).map (·, rest)
    | .ok (.key name, t) => match shape.takeMember seen a name t with
      | .error e => .error e
      | .ok (x, rest) => shape.takeMembers false x.1 x.2 rest := by
  rw [takeMembers]
  split
  · next hs => rw [hs]
  · next hs => rw [hs]
  · next hs =>
    rw [hs]
    dsimp only
    split
    · next ht => rw [ht]
    · next ht => rw [ht]

theorem takeMembers_of_closed {first : Bool} {seen : List String} {s rest : List Symbol}
    (hs : takeKey first s = .ok (.closed, rest)) (hc : shape.complete seen a = .ok a) :
    shape.takeMembers first seen a s = .ok (a, rest) := by
  rw [takeMembers_eq, hs, hc]
  rfl

theorem takeMembers_of_key {first : Bool} {seen : List String} {name : String} {s t rest : List Symbol}
    {x : List String × α} (hs : takeKey first s = .ok (.key name, t))
    (ht : shape.takeMember seen a name t = .ok (x, rest)) :
    shape.takeMembers first seen a s = shape.takeMembers false x.1 x.2 rest := by
  simp only [takeMembers_eq shape first, hs, ht]

/-- No member is missing once the names of all were seen. -/
theorem complete_of_seen {seen : List String} (h : ∀ m ∈ shape.members, m.name ∈ seen) :
    shape.complete seen a = .ok a := by
  have hnone : shape.members.find? (fun m => m.required && !seen.contains m.name) = none := by
    rw [List.find?_eq_none]
    intro m hm
    rw [List.contains_eq_mem, decide_eq_true (h m hm)]
    simp
  rw [complete, hnone]

/-- Where no two members share a name, each is found by its own. -/
theorem find?_name {done : List (Member α)} (hnodup : ((done ++ m :: left).map (·.name)).Nodup) :
    (done ++ m :: left).find? (·.name = m.name) = some m := by
  have hdone : done.find? (·.name = m.name) = none := by
    rw [List.find?_eq_none]
    intro m' hm' hname
    rw [List.map_append, List.map_cons] at hnodup
    have hdisjoint := (List.nodup_append.mp hnodup).2.2
    exact hdisjoint _ (List.mem_map_of_mem hm') _ List.mem_cons_self (of_decide_eq_true hname)
  rw [List.find?_append, hdone, List.find?_cons_of_pos (by simp)]
  rfl

theorem fresh_of_append {done : List (Member α)} (hnodup : (shape.members.map (·.name)).Nodup)
    (hmembers : shape.members = done ++ m :: left) : shape.Fresh (done.map (·.name)).reverse m where
  find := by
    rw [hmembers] at hnodup ⊢
    exact find?_name hnodup
  new := by
    rw [hmembers, List.map_append, List.map_cons] at hnodup
    intro hin
    exact (List.nodup_append.mp hnodup).2.2 _ (List.mem_reverse.mp hin) _ List.mem_cons_self rfl

/-- The members of a written object after those in `done`. -/
theorem takeMembers_written (hnodup : (shape.members.map (·.name)).Nodup) (h : List.Forall₂ Member.Reads left entries)
    (done : List (Member α)) (hmembers : shape.members = done ++ left) (a : α) (rest : List Symbol) :
    shape.takeMembers false (done.map (·.name)).reverse a
      ((entries.flatMap (',' :: ·.written)).map .char ++ .char '\x7d' :: rest) =
      .ok (entries.foldl (fun a e => e.change a) a, rest) := by
  induction h generalizing done a with
  | nil =>
    refine takeMembers_of_closed rfl (complete_of_seen fun m hm => ?_)
    rw [hmembers, List.append_nil] at hm
    exact List.mem_reverse.mpr (List.mem_map_of_mem hm)
  | @cons m e left entries hm _ ih =>
    have hmember := takeMember_written hm (fresh_of_append hnodup hmembers) a
      ((entries.flatMap (',' :: ·.written)).map .char ++ .char '\x7d' :: rest)
    have hnext := ih (done ++ [m]) (by rw [hmembers, List.append_assoc]; rfl) (e.change a)
    rw [List.map_append, List.reverse_append, List.map_cons, hm.name] at hnext
    rw [List.flatMap_cons, List.cons_append, List.map_cons, List.map_append, List.cons_append, List.append_assoc,
      Entry.written_append, takeMembers_of_key (takeKey_next _ _) hmember]
    exact hnext

/-- All members of a written object. -/
theorem takeMembers_separated (hnodup : (shape.members.map (·.name)).Nodup)
    (h : List.Forall₂ Member.Reads left entries) (hmembers : shape.members = left) (a : α) (rest : List Symbol) :
    shape.takeMembers true [] a ((Written.separated (entries.map Entry.written)).map .char ++ .char '\x7d' :: rest) =
      .ok (entries.foldl (fun a e => e.change a) a, rest) := by
  cases h with
  | nil => exact takeMembers_of_closed rfl (complete_of_seen fun m hm => by rw [hmembers] at hm; cases hm)
  | @cons m e left entries hm htail =>
    have hfresh : shape.Fresh [] m := fresh_of_append hnodup (show shape.members = [] ++ m :: left from hmembers)
    have hmember := takeMember_written hm hfresh a
      ((entries.flatMap (',' :: ·.written)).map .char ++ .char '\x7d' :: rest)
    have hnext := takeMembers_written hnodup htail [m] hmembers (e.change a) rest
    rw [List.map_cons, hm.name] at hnext
    rw [List.map_cons, separated_cons, List.flatMap_map, List.map_append, List.append_assoc, Entry.written_append,
      takeMembers_of_key (takeKey_first _ _) hmember]
    exact hnext

/-- A record is read for what its entries make of the blank one. -/
theorem reads_object (hnodup : (shape.members.map (·.name)).Nodup)
    (h : List.Forall₂ Member.Reads shape.members entries) :
    (Reader.record shape).Reads (Written.object (entries.map fun e => (e.name, e.text)))
      (entries.foldl (fun a e => e.change a) shape.blank) where
  start := ⟨_, _, rfl, rfl⟩
  run rest := by
    have hparts : (entries.map fun e => (e.name, e.text)).map (fun m => Written.text m.1 ++ ':' :: m.2) =
        entries.map Entry.written := List.map_map
    rw [Written.object, hparts, List.map_cons, List.map_append, List.cons_append, List.append_assoc]
    exact takeMembers_separated hnodup h rfl shape.blank rest

end Shape

/-! ## Variants -/

namespace Reader

variable {names : List String} {name : String} {bare content : String → Reader α} {s : List Symbol}

theorem known_run (h : name ∈ names) : (known names name).run s = .ok ((), s) := by
  rw [known, List.contains_eq_mem, decide_eq_true h]
  rfl

theorem variant_run_text (s : List Symbol) :
    (variant names bare content).run (.char '"' :: s) =
      ((ofTaken (takeText []) takeText_le).bind fun name => (known names name).bind fun _ => bare name).run s := rfl

theorem variant_run_object (s : List Symbol) :
    (variant names bare content).run (.char '\x7b' :: s) =
      ((ofTaken takeVariantName takeVariantName_le).bind fun name =>
        (known names name).bind fun _ =>
        (ofTaken takeColon takeColon_le).bind fun _ =>
        (content name).bind fun a =>
        (ofTaken takeVariantEnd takeVariantEnd_le).bind fun _ => .pure a).run s := rfl

/-- A variant by its name alone. -/
theorem reads_bareVariant (h : name ∈ names) (hbare : bare name = .pure a) :
    (variant names bare content).Reads (Written.text name) a where
  start := ⟨_, _, rfl, rfl⟩
  run rest := by
    have hname : (ofTaken (takeText []) takeText_le).run
        ((name.toList.flatMap Written.textChar ++ ['"']).map .char ++ rest) = .ok (name, rest) := by
      simp only [ofTaken, takeText_text]
    rw [Written.text, List.map_cons, List.cons_append, variant_run_text, bind_run hname, bind_run (known_run h), hbare]
    rfl

/-- A variant with its contents. -/
theorem reads_variant (h : name ∈ names) (hcontent : (content name).Reads text a) :
    (variant names bare content).Reads (Written.object [(name, text)]) a where
  start := ⟨_, _, rfl, rfl⟩
  run rest := by
    have hsplit : (Written.object [(name, text)]).map .char ++ rest = .char '\x7b' ::
        ((Written.text name).map .char ++ .char ':' :: (text.map .char ++ .char '\x7d' :: rest)) := by
      simp [Written.object, Written.separated]
    have hname (s : List Symbol) : (ofTaken takeVariantName takeVariantName_le).run
        ((Written.text name).map .char ++ s) = .ok (name, s) := by
      have htake : takeVariantName ((Written.text name).map .char ++ s) = .ok (name, s) := takeText_text name s
      simp only [ofTaken, htake]
    have hcolon (s : List Symbol) : (ofTaken takeColon takeColon_le).run (.char ':' :: s) = .ok ((), s) := rfl
    have hend : (ofTaken takeVariantEnd takeVariantEnd_le).run (.char '\x7d' :: rest) = .ok ((), rest) := rfl
    rw [hsplit, variant_run_object, bind_run (hname _), bind_run (known_run h), bind_run (hcolon _),
      bind_run (hcontent.run _), bind_run hend]
    rfl

end Reader

end StaffIndex.Json
