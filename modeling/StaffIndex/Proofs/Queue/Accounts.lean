import Mathlib.Data.Multiset.Range
import StaffIndex.Proofs.Queue.Workload

/-!
# Queue accounting

What the queue counts is what has happened (`Accounts`), after every step of every run (`Accounts.runs`).

- A submitted task is under way or has ended, and only once. So those in flight, completed and failed are all that were
  submitted (`Accounts.length_submissions`), those in flight are the ones that have not ended (`Accounts.inFlight_eq`),
  and a task that ends was in flight before (`Accounts.inFlight_of_leave`).
- The requests of a task are those of one way through its plan, so it is carried out once at most.
-/

namespace StaffIndex.Workload

/-- The answered requests of the task with that ticket are the first of its plan, and leave this rest of it. -/
def Leaves (events : List Event) (ticket : Nat) (rest : Plan IndexError Unit) : Prop :=
  ∃ task, (submissions events)[ticket]? = some task ∧
    (Indexing.perform task).Follows (exchanges ticket events) rest

/-- After its answered requests the task with that ticket could end like that. -/
def Allows (events : List Event) (ticket : Nat) (fate : Fate) : Prop :=
  ∃ rest, Leaves events ticket rest ∧ rest.EndsNow fate

/-- The queue's counts are those of the history, and every submitted task is in it once. -/
structure Accounts (events : List Event) (w : Workload) : Prop where
  submitted : w.queue.submitted = (submissions events).length
  /-- Each ticket is that of one task under way or of one that has ended. -/
  tickets :
    w.jobs.map (·.1) + ↑((endings events).map (·.1)) = Multiset.range (submissions events).length
  inFlight : w.queue.inFlight = w.jobs.card
  completed : w.queue.completed = (endings events).countP (·.2.succeeded)
  failed : w.queue.failed = (endings events).countP (!·.2.succeeded)
  unsubmitted : ∀ ticket, (submissions events).length ≤ ticket → exchanges ticket events = []
  underway : ∀ ticket rest, (ticket, rest) ∈ w.jobs → Leaves events ticket rest
  ended : ∀ ticket fate, (ticket, fate) ∈ endings events → Allows events ticket fate

variable {w v : Workload} {events later : List Event} {event : Event} {ticket : Nat} {rest : Plan IndexError Unit}
  {jobs : Multiset (Nat × Plan IndexError Unit)} {q : Queue} {fate : Fate}

/-- What happens to other tasks changes nothing. -/
theorem Leaves.append (h : Leaves events ticket rest) (hx : exchanges ticket later = []) :
    Leaves (events ++ later) ticket rest := by
  obtain ⟨task, htask, hf⟩ := h
  have hlt : ticket < (submissions events).length := (List.getElem?_eq_some_iff.1 htask).1
  refine ⟨task, ?_, ?_⟩
  · rw [submissions_append, List.getElem?_append_left hlt, htask]
  · rw [exchanges_append, hx, List.append_nil]
    exact hf

theorem Allows.append (h : Allows events ticket fate) (hx : exchanges ticket later = []) :
    Allows (events ++ later) ticket fate := by
  obtain ⟨rest, hrest, hends⟩ := h
  exact ⟨rest, hrest.append hx, hends⟩

namespace Accounts

/-- At first nothing has happened. -/
theorem start : Accounts [] {} :=
  ⟨rfl, rfl, rfl, rfl, rfl, fun _ _ => rfl, fun _ _ h => absurd h (Multiset.notMem_zero _),
    fun _ _ h => absurd h List.not_mem_nil⟩

/-! ## Tickets -/

theorem nodup (h : Accounts events w) : (w.jobs.map (·.1) + ↑((endings events).map (·.1))).Nodup := by
  rw [h.tickets]
  exact Multiset.nodup_range _

/-- A task under way shares its ticket with no other. -/
theorem ticket_ne (h : Accounts events ⟨q, (ticket, rest) ::ₘ jobs⟩) :
    (∀ t p, (t, p) ∈ jobs → t ≠ ticket) ∧ ∀ t f, (t, f) ∈ endings events → t ≠ ticket := by
  have hnodup : (ticket ::ₘ (jobs.map (·.1) + ↑((endings events).map (·.1)))).Nodup := by
    rw [← Multiset.cons_add, ← Multiset.map_cons (·.1) (ticket, rest)]
    exact h.nodup
  have hn := (Multiset.nodup_cons.1 hnodup).1
  rw [Multiset.mem_add, not_or] at hn
  constructor
  · rintro t p hj rfl
    exact hn.1 (Multiset.mem_map_of_mem (·.1) hj)
  · rintro t f he rfl
    exact hn.2 (Multiset.mem_coe.2 (List.mem_map_of_mem (f := (·.1)) he))

theorem lt_of_mem_jobs (h : Accounts events ⟨q, jobs⟩) (hj : (ticket, rest) ∈ jobs) :
    ticket < (submissions events).length := by
  rw [← Multiset.mem_range, ← h.tickets]
  exact Multiset.mem_add.2 (.inl (Multiset.mem_map_of_mem (·.1) hj))

theorem lt_of_mem_endings (h : Accounts events w) (ht : ticket ∈ (endings events).map (·.1)) :
    ticket < (submissions events).length := by
  rw [← Multiset.mem_range, ← h.tickets]
  exact Multiset.mem_add.2 (.inr ht)

/-! ## Steps -/

theorem submit (h : Accounts events ⟨q, jobs⟩) (task : Task) : Accounts (events ++ [.submitted task])
    ⟨q.submit, (q.submitted, Indexing.perform task) ::ₘ jobs⟩ := by
  have hs : submissions (events ++ [.submitted task]) = submissions events ++ [task] := submissions_append ..
  have he : endings (events ++ [.submitted task]) = endings events := (endings_append ..).trans (List.append_nil _)
  have hx (t : Nat) : exchanges t (events ++ [.submitted task]) = exchanges t events :=
    (exchanges_append ..).trans (List.append_nil _)
  have hq : q.submitted = (submissions events).length := h.submitted
  constructor
  · rw [hs, List.length_append, Queue.submit, hq]
    rfl
  · rw [hs, he, Multiset.map_cons, Multiset.cons_add, h.tickets, hq, List.length_append]
    exact (Multiset.range_succ _).symm
  · rw [Multiset.card_cons, ← h.inFlight]
    rfl
  · rw [he]
    exact h.completed
  · rw [he]
    exact h.failed
  · intro t ht
    rw [hs, List.length_append] at ht
    rw [hx]
    exact h.unsubmitted t (by omega)
  · intro t p hmem
    rcases Multiset.mem_cons.1 hmem with heq | hmem
    · -- The ticket is new, so nothing has been asked under it.
      cases heq
      refine ⟨task, by rw [hs, hq, List.getElem?_concat_length], ?_⟩
      rw [hx, hq, h.unsubmitted _ (Nat.le_refl _)]
      exact .nil
    · exact (h.underway t p hmem).append rfl
  · rw [he]
    exact fun t f hmem => (h.ended t f hmem).append rfl

theorem answer {r : Request} {next : r.Reply → Plan IndexError Unit}
    (h : Accounts events ⟨q, (ticket, .ask r next) ::ₘ jobs⟩) (x : r.Reply) :
    Accounts (events ++ [.answered ticket ⟨r, x⟩]) ⟨q, (ticket, next x) ::ₘ jobs⟩ := by
  have hs : submissions (events ++ [.answered ticket ⟨r, x⟩]) = submissions events :=
    (submissions_append ..).trans (List.append_nil _)
  have he : endings (events ++ [.answered ticket ⟨r, x⟩]) = endings events :=
    (endings_append ..).trans (List.append_nil _)
  have hother (t : Nat) (ht : t ≠ ticket) : exchanges t [.answered ticket ⟨r, x⟩] = [] := by
    simp [exchanges, Event.exchange?, ht.symm]
  have hlt : ticket < (submissions events).length := h.lt_of_mem_jobs (Multiset.mem_cons_self _ _)
  constructor
  · rw [hs]
    exact h.submitted
  · rw [hs, he, ← h.tickets, Multiset.map_cons, Multiset.map_cons]
  · rw [h.inFlight, Multiset.card_cons, Multiset.card_cons]
  · rw [he]
    exact h.completed
  · rw [he]
    exact h.failed
  · intro t ht
    rw [hs] at ht
    rw [exchanges_append, h.unsubmitted t ht, hother t (by omega)]
    rfl
  · intro t p hmem
    rcases Multiset.mem_cons.1 hmem with heq | hmem
    · cases heq
      obtain ⟨task, htask, hf⟩ := h.underway ticket (.ask r next) (Multiset.mem_cons_self _ _)
      refine ⟨task, by rw [hs, htask], ?_⟩
      have hx : exchanges ticket [.answered ticket ⟨r, x⟩] = [⟨r, x⟩] := by simp [exchanges, Event.exchange?]
      rw [exchanges_append, hx]
      exact .concat hf x
    · exact (h.underway t p (Multiset.mem_cons_of_mem hmem)).append (hother t (h.ticket_ne.1 t p hmem))
  · rw [he]
    exact fun t f hmem => (h.ended t f hmem).append (hother t (h.ticket_ne.2 t f hmem))

theorem leave (h : Accounts events ⟨q, (ticket, rest) ::ₘ jobs⟩) (hends : rest.EndsNow fate) :
    Accounts (events ++ [.ended ticket fate]) ⟨q.leave ticket fate, jobs⟩ := by
  have hs : submissions (events ++ [.ended ticket fate]) = submissions events :=
    (submissions_append ..).trans (List.append_nil _)
  have he : endings (events ++ [.ended ticket fate]) = endings events ++ [(ticket, fate)] := endings_append ..
  have hx (t : Nat) : exchanges t (events ++ [.ended ticket fate]) = exchanges t events :=
    (exchanges_append ..).trans (List.append_nil _)
  have hin : q.inFlight = jobs.card + 1 := h.inFlight.trans (Multiset.card_cons _ _)
  constructor
  · rw [hs, Queue.leave_eq, Queue.settle_submitted]
    exact h.submitted
  · rw [hs, he, ← h.tickets, Multiset.map_cons, Multiset.cons_add, List.map_append, ← Multiset.coe_add,
      ← Multiset.add_assoc, Multiset.add_comm]
    rfl
  · rw [Queue.leave_eq, Queue.settle_inFlight, hin]
    rfl
  · rw [he, List.countP_append, Queue.leave_eq, Queue.settle_completed, ← h.completed]
    cases hf : fate.succeeded <;> simp [hf]
  · rw [he, List.countP_append, Queue.leave_eq, Queue.settle_failed, ← h.failed]
    cases hf : fate.succeeded <;> simp [hf]
  · intro t ht
    rw [hs] at ht
    rw [hx, h.unsubmitted t ht]
  · intro t p hmem
    exact (h.underway t p (Multiset.mem_cons_of_mem hmem)).append rfl
  · intro t f hmem
    rw [he] at hmem
    rcases List.mem_append.1 hmem with hmem | hmem
    · exact (h.ended t f hmem).append rfl
    · cases List.mem_singleton.1 hmem
      exact ⟨rest, (h.underway ticket rest (Multiset.mem_cons_self _ _)).append rfl, hends⟩

theorem drain (h : Accounts events ⟨q, jobs⟩) : Accounts (events ++ [.drained]) ⟨q.drain, jobs⟩ := by
  have hs : submissions (events ++ [.drained]) = submissions events :=
    (submissions_append ..).trans (List.append_nil _)
  have he : endings (events ++ [.drained]) = endings events := (endings_append ..).trans (List.append_nil _)
  have hx (t : Nat) : exchanges t (events ++ [.drained]) = exchanges t events :=
    (exchanges_append ..).trans (List.append_nil _)
  constructor
  · rw [hs]
    exact h.submitted
  · rw [hs, he]
    exact h.tickets
  · exact h.inFlight
  · rw [he]
    exact h.completed
  · rw [he]
    exact h.failed
  · rw [hs]
    exact fun t ht => (hx t).trans (h.unsubmitted t ht)
  · exact fun t p hmem => (h.underway t p hmem).append rfl
  · rw [he]
    exact fun t f hmem => (h.ended t f hmem).append rfl

/-- **One step.** Whatever happens, the queue counts it. -/
theorem step (h : Accounts events w) (hs : Step w event v) : Accounts (events ++ [event]) v := by
  cases hs with
  | submit q jobs task => exact h.submit task
  | answer q jobs ticket next x => exact h.answer x
  | leave hends q jobs ticket => exact h.leave hends
  | drain q jobs => exact h.drain

/-- **Any run.** -/
theorem runs (h : Accounts events w) (hs : Runs w later v) : Accounts (events ++ later) v := by
  induction hs generalizing events with
  | nil => rwa [List.append_nil]
  | cons hstep _ ih =>
    rw [← List.singleton_append, ← List.append_assoc]
    exact ih (h.step hstep)

/-! ## Counts -/

theorem length_submissions (h : Accounts events w) :
    (submissions events).length = w.queue.inFlight + w.queue.completed + w.queue.failed := by
  have hcard := congrArg Multiset.card h.tickets
  rw [Multiset.card_add, Multiset.card_map, Multiset.coe_card, List.length_map, Multiset.card_range] at hcard
  have hends : (endings events).length =
      (endings events).countP (·.2.succeeded) + (endings events).countP (!·.2.succeeded) := by
    rw [List.length_eq_countP_add_countP (·.2.succeeded)]
    simp
  have hin := h.inFlight
  have hcompleted := h.completed
  have hfailed := h.failed
  omega

/-- Those in flight are the submitted ones that have not ended. -/
theorem inFlight_eq (h : Accounts events w) : w.queue.inFlight =
    (List.range (submissions events).length).countP (· ∉ (endings events).map (·.1)) := by
  have hdisjoint := (Multiset.nodup_add.1 h.nodup).2.2
  have hunderway : (w.jobs.map (·.1)).countP (· ∉ (endings events).map (·.1)) = (w.jobs.map (·.1)).card :=
    Multiset.countP_eq_card.2 fun t ht => Multiset.disjoint_left.1 hdisjoint ht
  have hended : Multiset.countP (· ∉ (endings events).map (·.1)) ↑((endings events).map (·.1)) = 0 :=
    Multiset.countP_eq_zero.2 fun t ht hn => hn ht
  calc w.queue.inFlight
    _ = (w.jobs.map (·.1)).card := by rw [h.inFlight, Multiset.card_map]
    _ = (Multiset.range (submissions events).length).countP (· ∉ (endings events).map (·.1)) := by
      rw [← h.tickets, Multiset.countP_add, hunderway, hended, Nat.add_zero]
    _ = _ := by rw [← Multiset.coe_range, Multiset.coe_countP]

/-- No task ends twice. -/
theorem nodup_endings (h : Accounts events w) : ((endings events).map (·.1)).Nodup :=
  Multiset.coe_nodup.1 (Multiset.nodup_add.1 h.nodup).2.1

/-- A task that ends is in flight until then. -/
theorem inFlight_of_leave (h : Accounts events w) (hs : Step w (.ended ticket fate) v) :
    w.queue.inFlight = v.queue.inFlight + 1 := by
  cases hs with
  | leave hends q jobs ticket =>
    rw [(h.leave hends).inFlight, h.inFlight, Multiset.card_cons]

end Accounts

end StaffIndex.Workload
