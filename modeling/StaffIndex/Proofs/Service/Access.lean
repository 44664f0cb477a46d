import StaffIndex.Service.Access

/-!
# How plans advance

- An access that is open, with no faults and nothing guarded, runs a plan to its end (`advance_of_open`).
- What an access does with one plan after another is what it does with both in sequence (`advance_bind`).
- A single request that is answered has touched the stores as `Stores.answer` says (`ok_of_advance_request`), one that
  fails has not touched them and fails with the error set for its call (`error_of_advance_request`).
-/

namespace StaffIndex.Access

variable {ε α β : Type} [RaisedByStore ε] {a b : Access}

/-- No request fails or crashes. -/
structure Faultless (a : Access) : Prop where
  crashing : a.faults.crashing = []
  failing : a.faults.failing = []

/-- No request fails, crashes or is held back. -/
structure Open (a : Access) : Prop extends a.Faultless where
  guarded : a.gate.guarded = []

/-- The error that requests of this kind fail with, if they do. -/
def failing (a : Access) (call : Call) : Option StoreError := a.faults.failing.lookup call

theorem failing_congr (h : b.faults = a.faults) : b.failing = a.failing := by
  unfold failing; rw [h]

/-! ## Open accesses -/

theorem answer_of_faultless (h : a.Faultless) (r : Request) :
    a.answer r = (.reply (a.stores.answer r).1, { a with stores := (a.stores.answer r).2 }) := by
  simp [answer, h.crashing, h.failing]

theorem pass?_of_open (h : a.Open) (r : Request) : a.pass? r = some a := by
  simp [pass?, h.guarded]

theorem Open.setStores (h : a.Open) (s : Stores) : Open { a with stores := s } := ⟨⟨h.crashing, h.failing⟩, h.guarded⟩

/-- An open access runs a plan to its end, and nothing but the stores changes. -/
theorem advance_of_open (h : a.Open) (admitted : Bool) (p : Plan ε α) :
    a.advance admitted p = (.ended (a.stores.run p).1, { a with stores := (a.stores.run p).2 }) := by
  induction p generalizing a admitted with
  | done x => rfl
  | fail e => rfl
  | ask r next ih =>
    have hpass : (if admitted then some a else a.pass? r) = some a := by
      rw [pass?_of_open h]; split <;> rfl
    simp only [advance, hpass, answer_of_faultless h.toFaultless]
    rw [ih _ (h.setStores _)]
    rfl

/-! ## Sequences -/

theorem advance_ask (a : Access) (r : Request) (next : r.Reply → Plan ε α) :
    a.advance false (.ask r next) = match a.pass? r with
      | none => (.waiting (.ask r next), a)
      | some b => match b.answer r with
        | (.reply x, b) => b.advance false (next x)
        | (.error e, b) => (.ended (.error (RaisedByStore.ofStore e)), b)
        | (.crash, b) => (.crashed, b) := by
  conv => lhs; unfold advance
  cases a.pass? r <;> rfl

theorem advance_bind (a : Access) (p : Plan ε α) (f : α → Plan ε β) :
    a.advance false (p >>= f) = match a.advance false p with
      | (.ended (.ok x), b) => b.advance false (f x)
      | (.ended (.error e), b) => (.ended (.error e), b)
      | (.crashed, b) => (.crashed, b)
      | (.waiting rest, b) => (.waiting (rest >>= f), b) := by
  induction p generalizing a with
  | done x => rfl
  | fail e => rfl
  | ask r next ih =>
    change a.advance false (.ask r fun x => next x >>= f) = _
    rw [advance_ask, advance_ask]
    cases a.pass? r with
    | none => rfl
    | some c =>
      dsimp only
      rcases c.answer r with ⟨x | e | _, d⟩
      · exact ih x d
      · rfl
      · rfl

/-! ## Single requests -/

/-- Passing the gate changes nothing but the permits. -/
theorem eq_of_pass? {r : Request} (h : a.pass? r = some b) : b.stores = a.stores ∧ b.faults = a.faults := by
  unfold pass? at h
  split at h
  · cases h; exact ⟨rfl, rfl⟩
  · split at h
    · cases h
    · cases h; exact ⟨rfl, rfl⟩

/-- Passing the gate takes a permit at most. -/
theorem exists_permits_of_pass? {r : Request} (h : a.pass? r = some b) : ∃ n, b = { a with gate.permits := n } := by
  unfold pass? at h
  split at h
  · cases h
    exact ⟨a.gate.permits, rfl⟩
  · split at h
    · cases h
    · cases h
      exact ⟨_, rfl⟩

/-- Only a guarded request waits. -/
theorem guarded_of_pass? {r : Request} (h : a.pass? r = none) : r.call ∈ a.gate.guarded := by
  unfold pass? at h
  split at h
  · cases h
  · next hguarded => exact Decidable.not_not.1 hguarded

theorem reply_of_answer {r : Request} {x : r.Reply} (h : a.answer r = (.reply x, b)) :
    a.failing r.call = none ∧ x = (a.stores.answer r).1 ∧ b = { a with stores := (a.stores.answer r).2 } := by
  unfold answer at h
  split at h
  · cases h
  · split at h
    · cases h
    · next hf => cases h; exact ⟨hf, rfl, rfl⟩

theorem error_of_answer {r : Request} {e : StoreError} (h : a.answer r = (.error e, b)) :
    a.failing r.call = some e ∧ b = a := by
  unfold answer at h
  split at h
  · cases h
  · split at h
    · next hf => cases h; exact ⟨hf, rfl⟩
    · cases h

theorem crash_of_answer {r : Request} (h : a.answer r = (.crash, b)) : b = a := by
  unfold answer at h
  split at h
  · cases h; rfl
  · split at h <;> cases h

theorem crashing_of_answer {r : Request} (h : a.answer r = (.crash, b)) : r.call ∈ a.faults.crashing := by
  unfold answer at h
  split at h
  · assumption
  · split at h <;> cases h

/-- An answered request. -/
theorem ok_of_advance_request {r : Request} {x : r.Reply}
    (h : a.advance false (Plan.request r : Plan ε r.Reply) = (.ended (.ok x), b)) :
    a.failing r.call = none ∧ x = (a.stores.answer r).1 ∧ b.stores = (a.stores.answer r).2 ∧ b.faults = a.faults := by
  rw [Plan.request, advance_ask] at h
  cases hp : a.pass? r with
  | none => simp [hp] at h
  | some c =>
    obtain ⟨hs, hf⟩ := eq_of_pass? hp
    simp only [hp] at h
    rcases hc : c.answer r with ⟨y | e | _, d⟩
    · obtain ⟨hn, rfl, rfl⟩ := reply_of_answer hc
      simp only [hc] at h
      cases h
      exact ⟨by rw [failing, ← hf]; exact hn, by rw [hs], by simp only [hs], hf⟩
    · simp [hc] at h
    · simp [hc] at h

/-- A failed request. -/
theorem error_of_advance_request {r : Request} {e : ε}
    (h : a.advance false (Plan.request r : Plan ε r.Reply) = (.ended (.error e), b)) :
    (∃ cause, a.failing r.call = some cause ∧ e = RaisedByStore.ofStore cause) ∧ b.stores = a.stores ∧
      b.faults = a.faults := by
  rw [Plan.request, advance_ask] at h
  cases hp : a.pass? r with
  | none => simp [hp] at h
  | some c =>
    obtain ⟨hs, hf⟩ := eq_of_pass? hp
    simp only [hp] at h
    rcases hc : c.answer r with ⟨y | cause | _, d⟩
    · simp [hc, advance] at h
    · obtain ⟨he, rfl⟩ := error_of_answer hc
      simp only [hc] at h
      cases h
      exact ⟨⟨cause, by rw [failing, ← hf]; exact he, rfl⟩, hs, hf⟩
    · simp [hc] at h

end StaffIndex.Access
