import StaffIndex.Proofs.Json.ReadBack

/-!
# Texts that hold a list

A text holds a list if it is made up of an opening bracket, the elements one after the other with commas between them,
and a closing bracket, with nothing but blanks around them (`Reader.HoldsList`). These are the texts that are read as
lists, and what is read are the elements (`whole_list_eq_ok_iff`). So one element that cannot be read is enough for the
text to be refused, wherever it stands (`whole_list_of_failed`).
-/

namespace StaffIndex.Json

variable {α : Type} {r : Reader α} {n : Nat} {a : α} {as read : List α} {s t u v rest : List Symbol}

/-- Where the next element of a list starts of which `n` elements are taken: the first comes without a comma. -/
def StartsElement : Nat → List Symbol → List Symbol → Prop
  | 0, s, t => dropBlanks s = t
  | _ + 1, s, t => ∃ u, dropBlanks s = .char ',' :: u ∧ dropBlanks u = t

/-- The elements of a list up to some place, and what comes after that place. -/
inductive Reader.Elements (r : Reader α) (s : List Symbol) : List α → List Symbol → Prop
  | none : Elements r s [] s
  | next {as : List α} {t u v : List Symbol} {a : α} (h : Elements r s as t) (hstart : StartsElement as.length t u)
    (ha : r.run u = .ok (a, v)) : Elements r s (as ++ [a]) v

/-- The text is a list of the elements, as the reader reads them. -/
def Reader.HoldsList (r : Reader α) (text : String) (as : List α) : Prop :=
  ∃ s t u, dropBlanks (Symbol.ofString text) = .char '[' :: s ∧ r.Elements s as t ∧
    dropBlanks t = .char ']' :: u ∧ dropBlanks u = []

/-- The reader finds no value where a text ends or a list does. -/
structure Reader.NeedsValue (r : Reader α) : Prop where
  nil : ∀ x, r.run [] ≠ .ok x
  closing : ∀ s x, r.run (.char ']' :: s) ≠ .ok x

/-! ## Starts of elements -/

theorem Symbol.eq_char_of_isChar {c : Char} {d : Symbol} (h : d.isChar c = true) : d = .char c := by
  cases d with
  | char e => exact congrArg char (eq_of_beq h).symm
  | stray b => cases h

/-- What a value is read from is not empty and does not close a list. -/
theorem Reader.NeedsValue.starts (hr : r.NeedsValue) {x : α × List Symbol} (h : r.run u = .ok x) :
    ∃ d w, u = d :: w ∧ d.isChar ']' = false := by
  cases u with
  | nil => exact absurd h (hr.nil x)
  | cons d w =>
    refine ⟨d, w, rfl, eq_false_of_ne_true fun hd => ?_⟩
    rw [Symbol.eq_char_of_isChar hd] at h
    exact hr.closing w x h

theorem Reader.needsValue_record (shape : Shape α) : (record shape).NeedsValue where
  nil := nofun
  closing := nofun

theorem takeElementStart_of_starts {d : Symbol} (hstart : StartsElement n t (d :: u)) (hd : d.isChar ']' = false) :
    takeElementStart n t = .ok (true, d :: u) := by
  cases n with
  | zero =>
    rw [takeElementStart, show dropBlanks t = d :: u from hstart]
    simp only [hd]
    rfl
  | succ n =>
    obtain ⟨w, hcomma, hw⟩ := hstart
    have hclosing : Symbol.isChar ']' (.char ',') = false := rfl
    rw [takeElementStart, hcomma]
    simp only [hclosing, hw, hd]
    rfl

theorem starts_of_takeElementStart (h : takeElementStart n t = .ok (true, u)) : StartsElement n t u := by
  unfold takeElementStart at h
  split at h
  · cases h
  · next c w ht =>
    split at h
    · cases h
    · split at h
      · next hn =>
        cases h
        rw [hn]
        exact ht
      · next hn =>
        obtain ⟨m, rfl⟩ := Nat.exists_eq_succ_of_ne_zero hn
        split at h
        · next hcomma =>
          rw [Symbol.eq_char_of_isChar hcomma] at ht
          split at h
          · cases h
          · next hw =>
            split at h
            · cases h
            · cases h
              exact ⟨w, ht, hw⟩
        · cases h

theorem closing_of_takeElementStart (h : takeElementStart n t = .ok (false, u)) : dropBlanks t = .char ']' :: u := by
  unfold takeElementStart at h
  split at h
  · cases h
  · next c w ht =>
    split at h
    · next hclosing =>
      cases h
      rw [ht, Symbol.eq_char_of_isChar hclosing]
    · split at h
      · cases h
      · split at h
        · split at h
          · cases h
          · split at h <;> cases h
        · cases h

theorem takeElementStart_of_closing (h : dropBlanks t = .char ']' :: u) (n : Nat) :
    takeElementStart n t = .ok (false, u) := by
  rw [takeElementStart, h]
  rfl

/-! ## Elements one after the other -/

namespace Reader

theorem run_of_within {step : Step} {x : α × List Symbol} (h : (r.within step).run s = .ok x) : r.run s = .ok x := by
  simp only [within] at h
  split at h
  · next hrun =>
    cases h
    exact hrun
  · cases h

theorem Elements.eq_of_nil (h : r.Elements s as t) (hnil : as = []) : t = s := by
  cases h with
  | none => rfl
  | next => exact absurd hnil (List.concat_ne_nil _ _)

/-- After some elements, taking the whole list comes down to taking the others. -/
theorem Elements.takeElements_eq (hr : r.NeedsValue) (h : r.Elements s as t) (hne : as ≠ []) :
    takeElements r s = takeMore r (as.length - 1) as.reverse t := by
  induction h with
  | none => exact absurd rfl hne
  | @next as t u v a h hstart ha ih =>
    obtain ⟨d, w, rfl, hd⟩ := hr.starts ha
    have htake := takeElementStart_of_starts hstart hd
    rw [List.reverse_append, List.length_append]
    cases as with
    | nil =>
      cases h.eq_of_nil rfl
      exact takeElements_of_first htake ha
    | cons b as =>
      rw [ih (List.cons_ne_nil b as)]
      exact takeMore_of_next htake ha

theorem takeMore_elements (h : takeMore r n read t = .ok (as, rest)) (hread : r.Elements s read.reverse t)
    (hn : n + 1 = read.length) : ∃ u, r.Elements s as u ∧ dropBlanks u = .char ']' :: rest := by
  fun_induction takeMore r n read t with
  | case1 => cases h
  | case2 n read t r' hs =>
    cases h
    exact ⟨t, hread, closing_of_takeElementStart hs⟩
  | case3 => cases h
  | case4 n read t u hs a v hu ih =>
    refine ih h ?_ (congrArg (· + 1) hn)
    rw [List.reverse_cons]
    refine hread.next ?_ (run_of_within hu)
    rw [List.length_reverse, ← hn]
    exact starts_of_takeElementStart hs

/-- A list is taken just if its elements are there one after the other and a closing bracket after them. -/
theorem takeElements_eq_ok_iff (hr : r.NeedsValue) :
    takeElements r s = .ok (as, rest) ↔ ∃ t, r.Elements s as t ∧ dropBlanks t = .char ']' :: rest := by
  constructor
  · intro h
    unfold takeElements at h
    split at h
    · cases h
    · next hs =>
      cases h
      exact ⟨s, .none, closing_of_takeElementStart hs⟩
    · next t hs =>
      split at h
      · cases h
      · next a u ht =>
        exact takeMore_elements h (Elements.none.next (starts_of_takeElementStart hs) (run_of_within ht)) rfl
  · rintro ⟨t, h, hclosing⟩
    cases as with
    | nil =>
      cases h.eq_of_nil rfl
      simp only [takeElements, takeElementStart_of_closing hclosing]
    | cons a as =>
      rw [h.takeElements_eq hr (List.cons_ne_nil a as), takeMore_of_closed (takeElementStart_of_closing hclosing _),
        List.reverse_reverse]

theorem list_run_eq_ok_iff {x : List α × List Symbol} :
    r.list.run s = .ok x ↔ ∃ t, dropBlanks s = .char '[' :: t ∧ takeElements r t = .ok x := by
  simp only [list]
  constructor
  · intro h
    split at h
    · cases h
    · next c t hs =>
      split at h
      · next hc => exact ⟨t, by rw [hs, Symbol.eq_char_of_isChar hc], h⟩
      · cases h
  · rintro ⟨t, hs, ht⟩
    rw [hs]
    exact ht

theorem whole_eq_ok_iff {text : String} :
    r.whole text = .ok a ↔ ∃ rest, r.run (Symbol.ofString text) = .ok (a, rest) ∧ dropBlanks rest = [] := by
  unfold whole
  constructor
  · intro h
    split at h
    · cases h
    · next rest hrun =>
      split at h
      · next hrest =>
        cases h
        exact ⟨rest, hrun, hrest⟩
      · cases h
  · rintro ⟨rest, hrun, hrest⟩
    simp only [hrun, hrest]
    rfl

/-- **A text is read as a list of elements just if it holds the list.** -/
theorem whole_list_eq_ok_iff (hr : r.NeedsValue) {text : String} :
    r.list.whole text = .ok as ↔ r.HoldsList text as := by
  simp only [whole_eq_ok_iff, list_run_eq_ok_iff, takeElements_eq_ok_iff hr]
  constructor
  · rintro ⟨u, ⟨s, hopen, t, helements, hclosing⟩, hend⟩
    exact ⟨s, t, u, hopen, helements, hclosing, hend⟩
  · rintro ⟨s, t, u, hopen, helements, hclosing, hend⟩
    exact ⟨u, ⟨s, hopen, t, helements, hclosing⟩, hend⟩

/-! ## Elements that cannot be read -/

theorem within_run_of_failed {e : Error} (h : r.run s = .error e) (step : Step) :
    (r.within step).run s = .error { e with path := step :: e.path } := by
  simp only [within, h]

theorem takeElements_of_failed {e : Error} (hs : takeElementStart 0 s = .ok (true, t)) (ht : r.run t = .error e) :
    takeElements r s = .error { e with path := .element 0 :: e.path } := by
  simp only [takeElements, hs, within_run_of_failed ht]

theorem takeMore_of_failed {e : Error} (hs : takeElementStart (n + 1) t = .ok (true, u)) (hu : r.run u = .error e) :
    takeMore r n read t = .error { e with path := .element (n + 1) :: e.path } := by
  simp only [takeMore_eq, hs, within_run_of_failed hu]

/-- An element that cannot be read is what is wrong with the whole text, however many were read before it. -/
theorem whole_list_of_failed (hr : r.NeedsValue) {text : String} {d : Symbol} {e : Error}
    (hopen : dropBlanks (Symbol.ofString text) = .char '[' :: s) (h : r.Elements s as t)
    (hstart : StartsElement as.length t (d :: u)) (hd : d.isChar ']' = false) (hfail : r.run (d :: u) = .error e) :
    r.list.whole text = .error { e with path := .element as.length :: e.path } := by
  have htake := takeElementStart_of_starts hstart hd
  have helements : takeElements r s = .error { e with path := .element as.length :: e.path } := by
    cases as with
    | nil =>
      cases h.eq_of_nil rfl
      exact takeElements_of_failed htake hfail
    | cons a as =>
      rw [h.takeElements_eq hr (List.cons_ne_nil a as)]
      exact takeMore_of_failed htake hfail
  have hrun : r.list.run (Symbol.ofString text) = .error { e with path := .element as.length :: e.path } := by
    simp only [list, hopen]
    exact helements
  rw [whole, hrun]

end Reader

end StaffIndex.Json
