import StaffIndex.Proofs.Service.Access
import StaffIndex.Search.Engine

/-!
# Searches on stores that fail

What a plan comes to depends only on what the stores say to its requests. They may fail at any of them and change
between two (`Replies`), and `Plan.consult` tells what the plan comes to and which requests it makes.

A search only looks things up (`Plan.LooksUp`). It fails just if one of its requests does, and with the error of that
one (`Plan.consult_of_looksUp`). It leaves nothing behind in the stores, which bring it to that end unless a request
crashes or has to wait (`Access.advance_of_looksUp`).
-/

namespace StaffIndex

variable {ε α β : Type}

/-- What the stores say to a request that is the `n`-th of a plan. -/
abbrev Replies := Nat → (r : Request) → Except StoreError r.Reply

/-- One of the requests fails with the error. The first of them is the `n`-th of the plan. -/
def Replies.Fails (told : Replies) (n : Nat) (requests : List Request) (e : StoreError) : Prop :=
  ∃ i r, requests[i]? = some r ∧ told (n + i) r = .error e

/-- The calls that searches make. -/
def Call.searches : Call → Bool
  | .lookup | .similar | .prefixed | .summaries => true
  | .append | .remove | .values => false

namespace Plan

/-- What a plan comes to, and the requests it makes, if its first request is the `n`-th. -/
def consult [RaisedByStore ε] (told : Replies) (n : Nat) : Plan ε α → Except ε α × List Request
  | .done a => (.ok a, [])
  | .fail e => (.error e, [])
  | .ask r next => match told n r with
    | .error e => (.error (RaisedByStore.ofStore e), [r])
    | .ok x => (((next x).consult told (n + 1)).1, r :: ((next x).consult told (n + 1)).2)

/-- The plan makes the requests of a search, whatever it is replied, and fails only if one of them does. -/
def LooksUp : Plan ε α → Prop
  | .done _ => True
  | .fail _ => False
  | .ask r next => r.call.searches ∧ ∀ x, (next x).LooksUp

end Plan

variable {told : Replies} {n : Nat} {r : Request} {requests : List Request} {p : Plan ε α}

/-! ## Failures -/

theorem Replies.not_fails_nil {e : StoreError} : ¬ told.Fails n [] e := by
  rintro ⟨i, r, hr, -⟩
  simp at hr

/-- The first request fails, or a later one does. -/
theorem Replies.fails_cons_iff {e : StoreError} :
    told.Fails n (r :: requests) e ↔ told n r = .error e ∨ told.Fails (n + 1) requests e := by
  constructor
  · rintro ⟨i, r', hr', he⟩
    cases i with
    | zero =>
      obtain rfl : r = r' := Option.some.inj hr'
      exact .inl he
    | succ i => exact .inr ⟨i, r', hr', by rw [Nat.add_assoc, Nat.add_comm 1 i]; exact he⟩
  · rintro (he | ⟨i, r', hr', he⟩)
    · exact ⟨0, r, rfl, he⟩
    · exact ⟨i + 1, r', hr', by rw [← Nat.add_assoc, Nat.add_right_comm]; exact he⟩

namespace Plan

theorem consult_ask_of_error [RaisedByStore ε] {next : r.Reply → Plan ε α} {e : StoreError} (h : told n r = .error e) :
    (Plan.ask r next).consult told n = (.error (RaisedByStore.ofStore e), [r]) := by
  rw [consult, h]

theorem consult_ask_of_ok [RaisedByStore ε] {next : r.Reply → Plan ε α} {x : r.Reply} (h : told n r = .ok x) :
    (Plan.ask r next).consult told n =
      (((next x).consult told (n + 1)).1, r :: ((next x).consult told (n + 1)).2) := by
  rw [consult, h]

/-- **A plan that only looks things up** ends with a result if none of its requests fails, and otherwise with the error
of the one that does. -/
theorem consult_of_looksUp [RaisedByStore ε] (hp : p.LooksUp) (told : Replies) (n : Nat) :
    (∃ a, (p.consult told n).1 = .ok a ∧ ∀ e, ¬ told.Fails n (p.consult told n).2 e) ∨
      ∃ e, (p.consult told n).1 = .error (RaisedByStore.ofStore e) ∧
        ∀ e', told.Fails n (p.consult told n).2 e' ↔ e' = e := by
  induction p generalizing n with
  | done a => exact .inl ⟨a, rfl, fun e => Replies.not_fails_nil⟩
  | fail e => exact hp.elim
  | ask r next ih =>
    cases hr : told n r with
    | error e =>
      rw [consult_ask_of_error hr]
      refine .inr ⟨e, rfl, fun e' => ?_⟩
      rw [Replies.fails_cons_iff, hr, or_iff_left Replies.not_fails_nil]
      exact ⟨fun h => (Except.error.inj h).symm, fun h => congrArg Except.error h.symm⟩
    | ok x =>
      -- The first request has a reply, so it is one of the others that fails if any does.
      have hfails (e : StoreError) : told.Fails n (r :: ((next x).consult told (n + 1)).2) e ↔
          told.Fails (n + 1) ((next x).consult told (n + 1)).2 e := by
        rw [Replies.fails_cons_iff, hr, or_iff_right nofun]
      rw [consult_ask_of_ok hr]
      simp only [hfails]
      exact ih x (hp.2 x) (n + 1)

theorem searches_of_mem_consult [RaisedByStore ε] (hp : p.LooksUp) (told : Replies) (n : Nat)
    (hr : r ∈ (p.consult told n).2) : r.call.searches := by
  induction p generalizing n with
  | done a => cases hr
  | fail e => cases hr
  | ask q next ih =>
    cases htold : told n q with
    | error e =>
      rw [consult_ask_of_error htold] at hr
      exact List.mem_singleton.1 hr ▸ hp.1
    | ok x =>
      rw [consult_ask_of_ok htold] at hr
      rcases List.mem_cons.1 hr with rfl | hr
      · exact hp.1
      · exact ih x (hp.2 x) (n + 1) hr

theorem looksUp_bind {f : α → Plan ε β} (hp : p.LooksUp) (hf : ∀ a, (f a).LooksUp) : (p >>= f).LooksUp := by
  induction p with
  | done a => exact hf a
  | fail e => exact hp.elim
  | ask r next ih => exact ⟨hp.1, fun x => ih x (hp.2 x)⟩

theorem looksUp_request (h : r.call.searches) : (request r : Plan ε r.Reply).LooksUp := ⟨h, fun _ => trivial⟩

end Plan

/-! ## Searches -/

namespace Search

theorem exact_looksUp (query : String) : (exact query).LooksUp := by
  refine Plan.looksUp_bind (Plan.looksUp_request rfl) fun found => ?_
  cases found with
  | none => exact trivial
  | some ids => exact Plan.looksUp_request rfl

theorem ranked_looksUp (settings : Settings) (query : String) {limit : Nat} (h : limit ≠ 0) :
    (ranked settings query limit).LooksUp := by
  rw [ranked, if_neg h]
  exact Plan.looksUp_bind (Plan.looksUp_request rfl) fun rows => Plan.looksUp_request rfl

theorem lookupAll_looksUp (keys : List String) : (lookupAll keys).LooksUp := by
  induction keys with
  | nil => exact trivial
  | cons key keys ih =>
    refine Plan.looksUp_bind (Plan.looksUp_request rfl) fun found => ?_
    cases found with
    | none => exact trivial
    | some ids => exact Plan.looksUp_bind ih fun _ => trivial

theorem suggest_looksUp (settings : Settings) (query : String) : (suggest settings query).LooksUp := by
  refine Plan.looksUp_bind (lookupAll_looksUp _) fun found => ?_
  cases found with
  | none => exact trivial
  | some exact => exact Plan.looksUp_bind (Plan.looksUp_request rfl) fun rows => Plan.looksUp_request rfl

end Search

/-! ## Accesses -/

/-- The requests of searches change nothing. -/
theorem Stores.answer_of_searches (s : Stores) (h : r.call.searches) : (s.answer r).2 = s := by
  cases r with
  | lookup _ | similar _ _ | prefixed _ | summaries _ => rfl
  | append _ _ | remove _ _ | values _ _ => cases h

namespace Access

variable {a : Access}

/-- What the stores behind the access say to every request. -/
def replies (a : Access) : Replies := fun _ r => match a.failing r.call with
  | some e => .error e
  | none => .ok (a.stores.answer r).1

/-- **A search leaves nothing behind** but the permits it used. It comes to what the stores say, unless one of its
requests crashes or has to wait. -/
theorem advance_of_looksUp [RaisedByStore ε] (hp : p.LooksUp) (a : Access) (n : Nat) : ∃ permits,
    a.advance false p = (.ended (p.consult a.replies n).1, { a with gate.permits := permits }) ∨
      (a.advance false p = (.crashed, { a with gate.permits := permits }) ∧
        ∃ call ∈ a.faults.crashing, call.searches) ∨
      ∃ rest, a.advance false p = (.waiting rest, { a with gate.permits := permits }) ∧
        ∃ call ∈ a.gate.guarded, call.searches := by
  induction p generalizing a n with
  | done x => exact ⟨a.gate.permits, .inl rfl⟩
  | fail e => exact hp.elim
  | ask r next ih =>
    obtain ⟨hr, hnext⟩ := hp
    rw [advance_ask]
    cases hpass : a.pass? r with
    | none => exact ⟨a.gate.permits, .inr (.inr ⟨_, rfl, r.call, guarded_of_pass? hpass, hr⟩)⟩
    | some b =>
      obtain ⟨permits, rfl⟩ := exists_permits_of_pass? hpass
      dsimp only
      rcases hanswer : Access.answer { a with gate.permits := permits } r with ⟨x | e | _, c⟩
      · obtain ⟨hfailing, rfl, rfl⟩ := reply_of_answer hanswer
        have htold : a.replies n r = .ok (a.stores.answer r).1 := by
          rw [replies, show a.failing r.call = none from hfailing]
        rw [Plan.consult_ask_of_ok htold]
        -- The stores are as before, so the other requests are told the same as without this one.
        simp only [a.stores.answer_of_searches hr]
        exact ih _ (hnext _) { a with gate.permits := permits } (n + 1)
      · obtain ⟨hfailing, rfl⟩ := error_of_answer hanswer
        have htold : a.replies n r = .error e := by rw [replies, show a.failing r.call = some e from hfailing]
        rw [Plan.consult_ask_of_error htold]
        exact ⟨permits, .inl rfl⟩
      · obtain rfl := crash_of_answer hanswer
        have hcrashing := crashing_of_answer hanswer
        exact ⟨permits, .inr (.inl ⟨rfl, r.call, hcrashing, hr⟩)⟩

end Access

end StaffIndex
