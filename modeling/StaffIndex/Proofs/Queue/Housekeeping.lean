import Mathlib.Data.List.TakeWhile
import StaffIndex.Proofs.Service.Workload

/-!
# Housekeeping

What the queue tracks can be read off the history (`Tracks`): the last of the submitted tasks, in the order of
submission, among them all that have not ended since the last drain.

- A submission lets go of ended tasks at the front only, so that no task goes before an older one that has not ended
  (`Tracks.ended_of_dropped`); nothing but a drain lets go of any other (`Tracks.runs`).
- A submission looks at one task after the other, and tasks may end while it does (`Collects`). It comes to the same as
  a submission at one go once it has looked at the last of them (`Collects.submitted`), as what has ended does not go on
  again.
-/

namespace StaffIndex

/-- The task, known to have ended if it has that ticket. -/
def Tracked.markEnd (ticket : Nat) (t : Tracked) : Tracked :=
  if t.ticket = ticket then { t with ended := true } else t

namespace Tracked

variable (ticket : Nat) (t : Tracked)

@[simp] theorem markEnd_ticket : (t.markEnd ticket).ticket = t.ticket := by
  rw [markEnd]
  split <;> rfl

theorem markEnd_ended_iff : (t.markEnd ticket).ended = true ↔ t.ended = true ∨ t.ticket = ticket := by
  rw [markEnd]
  split
  · next h => exact iff_of_true rfl (.inr h)
  · next h => exact (or_iff_left h).symm

end Tracked

namespace Queue

def tickets (q : Queue) : List Nat := q.tracked.map (·.ticket)

/-- Lets go of the ended tasks at the front. -/
def collect (q : Queue) : Queue := { q with tracked := q.tracked.dropWhile (·.ended) }

/-- Takes in a task and lets go of none. -/
def enqueue (q : Queue) : Queue :=
  { q with submitted := q.submitted + 1, tracked := q.tracked ++ [⟨q.submitted, false⟩], inFlight := q.inFlight + 1 }

theorem submit_eq_enqueue (q : Queue) : q.submit = q.collect.enqueue := rfl

theorem tickets_submit (q : Queue) : q.submit.tickets = q.collect.tickets ++ [q.submitted] := List.map_append

theorem settle_tracked (q : Queue) (ticket : Nat) (succeeded : Bool) :
    (q.settle ticket succeeded).tracked = q.tracked.map (Tracked.markEnd ticket) := by
  cases succeeded <;> rfl

theorem tickets_settle (q : Queue) (ticket : Nat) (succeeded : Bool) :
    (q.settle ticket succeeded).tickets = q.tickets := by
  rw [tickets, settle_tracked, List.map_map]
  exact List.map_congr_left fun t _ => t.markEnd_ticket ticket

theorem tickets_leave (q : Queue) (ticket : Nat) (fate : Fate) : (q.leave ticket fate).tickets = q.tickets := by
  rw [leave_eq, tickets_settle]

/-- A task that has not ended is not let go of. -/
theorem mem_collect_of_not_ended {q : Queue} {t : Tracked} (h : t ∈ q.tracked) (hn : t.ended = false) :
    t ∈ q.collect.tracked := by
  have hmem : t ∈ q.tracked.takeWhile (·.ended) ++ q.tracked.dropWhile (·.ended) := by
    rwa [List.takeWhile_append_dropWhile]
  refine (List.mem_append.1 hmem).resolve_left fun htaken => ?_
  have he : t.ended = true := List.mem_takeWhile_imp htaken
  rw [hn] at he
  cases he

/-- Nor is anything behind it. -/
theorem not_ended_of_collect {q : Queue} {t : Tracked} {tracked : List Tracked} (h : q.collect.tracked = t :: tracked) :
    t.ended = false := by
  have hdrop : q.tracked.dropWhile (·.ended) = t :: tracked := h
  have hhead := List.head?_dropWhile_not (·.ended) q.tracked
  rwa [hdrop] at hhead

/-- All that has ended at the front is let go of, and nothing else if what is behind it has not. -/
theorem collect_append {q : Queue} {gone : List Tracked} (hgone : ∀ t ∈ gone, t.ended = true)
    (h : ∀ t ∈ q.tracked.head?, t.ended = false) : collect { q with tracked := gone ++ q.tracked } = q := by
  have hdrop : (gone ++ q.tracked).dropWhile (·.ended) = q.tracked := by
    rw [List.dropWhile_append_of_pos hgone]
    cases htracked : q.tracked with
    | nil => rfl
    | cons t tracked =>
      rw [htracked] at h
      exact List.dropWhile_cons_of_neg (by rw [h t rfl]; exact Bool.false_ne_true)
  rw [collect, hdrop]

end Queue

namespace Workload

variable {u v w : Workload} {events later : List Event} {event : Event} {ticket : Nat} {q : Queue}
  {jobs : Multiset (Nat × Plan IndexError Unit)}

/-- The tickets of the ended tasks. -/
def endedTickets (events : List Event) : List Nat := (endings events).map (·.1)

theorem endedTickets_append (events later : List Event) :
    endedTickets (events ++ later) = endedTickets events ++ endedTickets later := by
  rw [endedTickets, endings_append, List.map_append]
  rfl

/-- Among the tickets are those of all tasks that were submitted since the last drain and have not ended. -/
def Remembers (events : List Event) (tickets : List Nat) : Prop :=
  ∀ before after, events = before ++ after → Event.drained ∉ after → ∀ ticket, (submissions before).length ≤ ticket →
    ticket < (submissions events).length → ticket ∉ endedTickets events → ticket ∈ tickets

/-- The queue tracks the last of the submitted tasks, knows which of them have ended, and has forgotten none that has
not ended unless it was drained. -/
structure Tracks (events : List Event) (w : Workload) : Prop where
  suffix : w.queue.tickets <:+ List.range (submissions events).length
  ended_iff : ∀ t ∈ w.queue.tracked, t.ended = true ↔ t.ticket ∈ endedTickets events
  unforgotten : Remembers events w.queue.tickets

namespace Tracks

/-- At first there is nothing to track. -/
theorem start : Tracks [] {} :=
  ⟨List.suffix_rfl, fun _ ht => absurd ht List.not_mem_nil, fun _ _ _ _ _ _ hlt => absurd hlt (Nat.not_lt_zero _)⟩

/-! ## Steps -/

/-- To forget none of the old tasks that have not ended, and none of the new ones, is enough. -/
theorem remembers_concat {tickets : List Nat} (h : Tracks events w)
    (hkept : ∀ ticket ∈ w.queue.tickets, ticket ∉ endedTickets (events ++ [event]) → ticket ∈ tickets)
    (hnew : ∀ ticket, (submissions events).length ≤ ticket → ticket < (submissions (events ++ [event])).length →
      ticket ∈ tickets) : Remembers (events ++ [event]) tickets := by
  intro before after hsplit hafter ticket hle hlt hended
  by_cases hold : ticket < (submissions events).length
  · refine hkept ticket ?_ hended
    have hended' : ticket ∉ endedTickets events := fun he =>
      hended (endedTickets_append .. ▸ List.mem_append_left _ he)
    rcases List.eq_nil_or_concat after with rfl | ⟨after, last, rfl⟩
    · -- Then the ticket would be older than all that was submitted until now.
      rw [List.append_nil] at hsplit
      rw [← hsplit] at hle
      omega
    · rw [List.concat_eq_append, ← List.append_assoc] at hsplit
      rw [List.concat_eq_append] at hafter
      obtain ⟨hsplit, -⟩ := List.append_inj' hsplit rfl
      exact h.unforgotten before after hsplit (fun hm => hafter (List.mem_append_left _ hm)) ticket hle hold hended'
  · exact hnew ticket (Nat.le_of_not_lt hold) hlt

theorem submit (ha : Accounts events ⟨q, jobs⟩) (h : Tracks events ⟨q, jobs⟩) (task : Task) :
    Tracks (events ++ [.submitted task]) ⟨q.submit, (q.submitted, Indexing.perform task) ::ₘ jobs⟩ := by
  have hs : (submissions (events ++ [.submitted task])).length = (submissions events).length + 1 := by
    rw [submissions_append, List.length_append]
    rfl
  have he : endedTickets (events ++ [.submitted task]) = endedTickets events :=
    (endedTickets_append ..).trans (List.append_nil _)
  have hq : q.submitted = (submissions events).length := ha.submitted
  have hsub : q.collect.tickets <:+ q.tickets := (List.dropWhile_suffix _).map _
  constructor
  · rw [hs, List.range_succ, Queue.tickets_submit, hq]
    obtain ⟨older, hrange⟩ := hsub.trans h.suffix
    exact ⟨older, by rw [← List.append_assoc, hrange]⟩
  · intro t ht
    rw [he]
    rcases List.mem_append.1 ht with hmem | hmem
    · exact h.ended_iff t ((List.dropWhile_suffix _).subset hmem)
    · cases List.mem_singleton.1 hmem
      -- The ticket is new, so no task that has ended has it.
      refine iff_of_false Bool.false_ne_true fun hend => ?_
      have hlt : q.submitted < (submissions events).length := ha.lt_of_mem_endings hend
      omega
  · refine h.remembers_concat (fun ticket hmem hended => ?_) fun ticket hle hlt => ?_
    · obtain ⟨t, ht, rfl⟩ := List.mem_map.1 hmem
      rw [he, ← h.ended_iff t ht, Bool.not_eq_true] at hended
      rw [Queue.tickets_submit]
      exact List.mem_append_left _ (List.mem_map_of_mem (Queue.mem_collect_of_not_ended ht hended))
    · rw [Queue.tickets_submit, hq]
      exact List.mem_append_right _ (List.mem_singleton.2 (by omega))

/-- An event that only has to do with tasks under way leaves all tracked tasks in place. -/
theorem keep (h : Tracks events w) (hs : submissions [event] = []) (ht : v.queue.tickets = w.queue.tickets)
    (hended : ∀ t ∈ v.queue.tracked, t.ended = true ↔ t.ticket ∈ endedTickets (events ++ [event])) :
    Tracks (events ++ [event]) v := by
  have hs' : submissions (events ++ [event]) = submissions events := by rw [submissions_append, hs, List.append_nil]
  refine ⟨?_, hended, h.remembers_concat (fun ticket hmem _ => ht ▸ hmem) fun ticket hle hlt => ?_⟩
  · rw [hs', ht]
    exact h.suffix
  · rw [hs'] at hlt
    omega

/-- A request and its reply are nothing to the queue. -/
theorem answer {jobs' : Multiset (Nat × Plan IndexError Unit)} (h : Tracks events ⟨q, jobs⟩) (exchange : Exchange) :
    Tracks (events ++ [.answered ticket exchange]) ⟨q, jobs'⟩ := by
  have he : endedTickets (events ++ [.answered ticket exchange]) = endedTickets events :=
    (endedTickets_append ..).trans (List.append_nil _)
  exact h.keep rfl rfl (he ▸ h.ended_iff)

theorem leave {jobs' : Multiset (Nat × Plan IndexError Unit)} (h : Tracks events ⟨q, jobs⟩) (ticket : Nat)
    (fate : Fate) : Tracks (events ++ [.ended ticket fate]) ⟨q.leave ticket fate, jobs'⟩ := by
  have he : endedTickets (events ++ [.ended ticket fate]) = endedTickets events ++ [ticket] := endedTickets_append ..
  refine h.keep rfl (q.tickets_leave ..) fun t hmem => ?_
  rw [Queue.leave_eq, Queue.settle_tracked] at hmem
  obtain ⟨t, hold, rfl⟩ := List.mem_map.1 hmem
  rw [Tracked.markEnd_ended_iff, Tracked.markEnd_ticket, he, List.mem_append, List.mem_singleton, h.ended_iff t hold]

/-- After a drain there is nothing that was submitted since. -/
theorem drain (q : Queue) : Tracks (events ++ [.drained]) ⟨q.drain, jobs⟩ := by
  refine ⟨List.nil_suffix, fun _ hmem => absurd hmem List.not_mem_nil, ?_⟩
  intro before after hsplit hafter ticket hle hlt
  rcases List.eq_nil_or_concat after with rfl | ⟨after, last, rfl⟩
  · rw [hsplit, List.append_nil] at hlt
    omega
  · rw [List.concat_eq_append, ← List.append_assoc] at hsplit
    obtain ⟨-, hlast⟩ := List.append_inj' hsplit rfl
    cases hlast
    rw [List.concat_eq_append] at hafter
    exact absurd (List.mem_append_right _ (List.mem_singleton_self _)) hafter

/-- **One step.** Whatever happens, the queue forgets none of the tasks that it is to track. -/
theorem step (ha : Accounts events w) (h : Tracks events w) (hs : Step w event v) : Tracks (events ++ [event]) v := by
  cases hs with
  | submit q jobs task => exact h.submit ha task
  | answer q jobs ticket next x => exact h.answer _
  | leave hends q jobs ticket => exact h.leave ticket _
  | drain q jobs => exact drain q

/-- **Any run.** -/
theorem runs (ha : Accounts events w) (h : Tracks events w) (hs : Runs w later v) : Tracks (events ++ later) v := by
  induction hs generalizing events with
  | nil => rwa [List.append_nil]
  | cons hstep _ ih =>
    rw [← List.singleton_append, ← List.append_assoc]
    exact ih (ha.step hstep) (h.step ha hstep)

/-! ## Submissions -/

/-- After a submission the front is the new task, or a task that had not ended before. -/
theorem front_of_submit (h : Tracks events w) : w.queue.submit.tickets = [w.queue.submitted] ∨
    ∃ front rest, w.queue.submit.tickets = front :: rest ++ [w.queue.submitted] ∧ front ∉ endedTickets events := by
  rw [Queue.tickets_submit]
  cases hc : w.queue.collect.tracked with
  | nil => exact .inl (by rw [Queue.tickets, hc]; rfl)
  | cons t tracked =>
    refine .inr ⟨t.ticket, tracked.map (·.ticket), by rw [Queue.tickets, hc]; rfl, ?_⟩
    have hmem : t ∈ w.queue.tracked := (List.dropWhile_suffix _).subset (hc ▸ List.mem_cons_self)
    rw [← h.ended_iff t hmem, Queue.not_ended_of_collect hc]
    exact Bool.false_ne_true

/-- The tickets are tracked in order. -/
theorem sorted (h : Tracks events w) : w.queue.tickets.Pairwise (· < ·) :=
  List.pairwise_lt_range.sublist h.suffix.sublist

/-- A submission lets go of a task only if this one and all older ones had ended. -/
theorem ended_of_dropped (h : Tracks events w) {older : Nat} (hmem : ticket ∈ w.queue.tickets)
    (hdropped : ticket ∉ w.queue.submit.tickets) (holder : older ∈ w.queue.tickets) (hle : older ≤ ticket) :
    older ∈ endedTickets events := by
  obtain ⟨t, ht, rfl⟩ := List.mem_map.1 holder
  rw [← h.ended_iff t ht]
  by_contra hn
  rw [Bool.not_eq_true] at hn
  have hsplit : w.queue.tickets = (w.queue.tracked.takeWhile (·.ended)).map (·.ticket) ++ w.queue.collect.tickets := by
    rw [Queue.tickets, Queue.tickets, ← List.map_append, Queue.collect, List.takeWhile_append_dropWhile]
  have hsorted := h.sorted
  rw [hsplit] at hmem hsorted
  rw [Queue.tickets_submit] at hdropped
  rcases List.mem_append.1 hmem with hmem | hmem
  · have hkept : t.ticket ∈ w.queue.collect.tickets := List.mem_map_of_mem (Queue.mem_collect_of_not_ended ht hn)
    have hlt : ticket < t.ticket := (List.pairwise_append.1 hsorted).2.2 _ hmem _ hkept
    omega
  · exact hdropped (List.mem_append_left _ hmem)

end Tracks

/-! ## One look after the other -/

/-- The events that may happen while a submission looks at the tracked tasks. -/
def Event.Meanwhile : Event → Prop
  | answered _ _ => True
  | ended _ _ => True
  | submitted _ => False
  | drained => False

/-- A submission that finds a workload looks at its tracked tasks and lets go of those that have ended by then, up to
one that has not. It leaves the other workload; the events happen meanwhile. -/
inductive Collects : Workload → List Event → Workload → Prop
  | stop (w : Workload) (h : ∀ t ∈ w.queue.tracked.head?, t.ended = false) : Collects w [] w
  | pop {u v : Workload} {events : List Event} {t : Tracked} {tracked : List Tracked}
    (hu : u.queue.tracked = t :: tracked) (h : t.ended = true)
    (hs : Collects { u with queue := { u.queue with tracked } } events v) : Collects u events v
  | meanwhile {u v w : Workload} {event : Event} {events : List Event} (h : Step u event v) (hm : event.Meanwhile)
    (hs : Collects v events w) : Collects u (event :: events) w

/-- As if some tasks at the front, which have ended, were tracked still. -/
def behind (gone : List Tracked) (w : Workload) : Workload :=
  ⟨{ w.queue with tracked := gone ++ w.queue.tracked }, w.jobs⟩

theorem Step.tickets_of_meanwhile (h : Step u event v) (hm : event.Meanwhile) : v.queue.tickets = u.queue.tickets := by
  cases h with
  | submit q jobs task => exact absurd hm id
  | answer q jobs ticket next x => rfl
  | leave hends q jobs ticket => exact q.tickets_leave ..
  | drain q jobs => exact absurd hm id

theorem Step.behind {gone : List Tracked} (h : Step u event v) (hm : event.Meanwhile)
    (hgone : ∀ t ∈ gone, t.ended = true) :
    ∃ gone', (∀ t ∈ gone', t.ended = true) ∧ Step (u.behind gone) event (v.behind gone') := by
  cases h with
  | submit q jobs task => exact absurd hm id
  | answer q jobs ticket next x => exact ⟨gone, hgone, .answer ..⟩
  | @leave rest fate hends q jobs ticket =>
    refine ⟨gone.map (Tracked.markEnd ticket), fun t ht => ?_, ?_⟩
    · obtain ⟨t, hold, rfl⟩ := List.mem_map.1 ht
      exact (t.markEnd_ended_iff ticket).2 (.inl (hgone t hold))
    · have hq : (Workload.behind (gone.map (Tracked.markEnd ticket)) ⟨q.leave ticket fate, jobs⟩).queue =
          Queue.leave { q with tracked := gone ++ q.tracked } ticket fate := by
        rw [Workload.behind, Queue.leave_eq, Queue.leave_eq, Queue.settle_tracked, ← List.map_append]
        cases fate.succeeded <;> rfl
      have := Step.leave hends { q with tracked := gone ++ q.tracked } jobs ticket
      rw [← hq] at this
      exact this
  | drain q jobs => exact absurd hm id

/-- Seen that way, what happens during such a submission is a run in which no tracked task is let go of. -/
theorem Collects.runs_behind {gone : List Tracked} (h : Collects u events v) (hgone : ∀ t ∈ gone, t.ended = true) :
    ∃ gone', (∀ t ∈ gone', t.ended = true) ∧ (v.behind gone').queue.tickets = (u.behind gone).queue.tickets ∧
      Runs (u.behind gone) events (v.behind gone') := by
  induction h generalizing gone with
  | stop w h => exact ⟨gone, hgone, rfl, .nil _⟩
  | @pop u v events t tracked hu h hs ih =>
    have hbehind : u.behind gone = behind (gone ++ [t]) { u with queue := { u.queue with tracked } } := by
      rw [behind, hu, behind, List.append_assoc]
      rfl
    rw [hbehind]
    refine ih fun t' ht' => ?_
    rcases List.mem_append.1 ht' with ht' | ht'
    · exact hgone t' ht'
    · rwa [List.mem_singleton.1 ht']
  | meanwhile h hm hs ih =>
    obtain ⟨gone₁, hgone₁, hstep⟩ := h.behind hm hgone
    obtain ⟨gone₂, hgone₂, htickets, hruns⟩ := ih hgone₁
    exact ⟨gone₂, hgone₂, htickets.trans (hstep.tickets_of_meanwhile hm), .cons hstep hruns⟩

theorem Collects.head_not_ended (h : Collects u events v) : ∀ t ∈ v.queue.tracked.head?, t.ended = false := by
  induction h with
  | stop w h => exact h
  | pop hu h hs ih => exact ih
  | meanwhile h hm hs ih => exact ih

/-- **One look after the other.** A submission that looks at the tracked tasks while others get replies and end comes to
the same as one that looks at them all after that. -/
theorem Collects.submitted (h : Collects u events v) : ∃ w, Runs u events w ∧ w.queue.tickets = u.queue.tickets ∧
    ∀ task, Step w (.submitted task) ⟨v.queue.enqueue, (v.queue.submitted, Indexing.perform task) ::ₘ v.jobs⟩ := by
  have hnil : ∀ t ∈ ([] : List Tracked), t.ended = true := fun _ ht => absurd ht List.not_mem_nil
  obtain ⟨gone, hgone, htickets, hruns⟩ := h.runs_behind hnil
  refine ⟨v.behind gone, hruns, htickets, fun task => ?_⟩
  have hsubmit : (v.behind gone).queue.submit = v.queue.enqueue :=
    (Queue.submit_eq_enqueue _).trans (congrArg Queue.enqueue (Queue.collect_append hgone h.head_not_ended))
  rw [← hsubmit]
  exact .submit (v.behind gone).queue v.jobs task

/-! ## Any run -/

/-- **Housekeeping.** After every step of every run the queue tracks the last of the submitted tasks, in order, and all
that were submitted since the last drain and have not ended. After a submission the new task is the only one, or the
front had not ended; and a task that is let go of had ended, and with it every older one. A submission may look at one
task after the other while tasks end: it is still one at some moment of the run. What is done to a new service, whatever
its stores and its gate, is such a run. -/
theorem unended_tracked :
    (∀ events w, Runs {} events w →
      w.queue.tickets <:+ List.range (submissions events).length ∧
      Remembers events w.queue.tickets ∧
      (∀ task v, Step w (.submitted task) v →
        (v.queue.tickets = [w.queue.submitted] ∨
          ∃ front rest, v.queue.tickets = front :: rest ++ [w.queue.submitted] ∧ front ∉ endedTickets events) ∧
        ∀ ticket ∈ w.queue.tickets, ticket ∉ v.queue.tickets →
          ∀ older ∈ w.queue.tickets, older ≤ ticket → older ∈ endedTickets events) ∧
      ∀ later v, Collects w later v → ∃ u, Runs {} (events ++ later) u ∧ u.queue.tickets = w.queue.tickets ∧
        ∀ task, Step u (.submitted task)
          ⟨v.queue.enqueue, (v.queue.submitted, Indexing.perform task) ::ₘ v.jobs⟩) ∧
    ∀ access settings stopped commands, ∃ events,
      Runs {} events (Service.run { access, settings, stopped } commands).2.workload := by
  constructor
  · intro events w hruns
    have h : Tracks events w := Tracks.start.runs Accounts.start hruns
    refine ⟨h.suffix, h.unforgotten, fun task v hs => ?_, fun later v hc => ?_⟩
    · cases hs with
      | submit q jobs task =>
        exact ⟨h.front_of_submit, fun ticket hmem hdropped older => h.ended_of_dropped hmem hdropped⟩
    · obtain ⟨u, hlater, htickets, hstep⟩ := hc.submitted
      exact ⟨u, hruns.trans hlater, htickets, hstep⟩
  · exact fun access settings stopped => Service.evolves_run { access, settings, stopped }

/-- The second task ends before the first one and is tracked as long as that one is. -/
def overtaken : List Event :=
  [.submitted (.add "e1" []), .submitted (.add "e2" []), .ended 1 (.returned (.ok ())), .submitted (.add "e3" [])]

/-- While the next submission looks at the first task it ends. -/
theorem unended_tracked_overtaken : ∃ w v x, Runs {} overtaken w ∧ w.queue.tickets = [0, 1, 2] ∧
    Collects w [.ended 0 (.returned (.ok ()))] v ∧ v.queue.tickets = [2] ∧
      Runs {} (overtaken ++ [.ended 0 (.returned (.ok ()))] ++ [.submitted (.add "e4" [])]) x ∧
        x.queue.tickets = [2, 3] := by
  let q : Queue := (((Queue.submit {}).submit).settle 1 true).submit
  let first : Nat × Plan IndexError Unit := (0, Indexing.perform (.add "e1" []))
  let third : Nat × Plan IndexError Unit := (2, Indexing.perform (.add "e3" []))
  have hruns : Runs {} overtaken ⟨q, first ::ₘ third ::ₘ 0⟩ := by
    rw [Multiset.cons_swap]
    exact .cons (.submit ..) (.cons (.submit ..) (.cons (.leave .done ..) (.single (.submit ..))))
  have hcollects : Collects ⟨q, first ::ₘ third ::ₘ 0⟩ [.ended 0 (.returned (.ok ()))]
      ⟨(q.settle 0 true).collect, third ::ₘ 0⟩ := by
    refine .meanwhile (.leave .done ..) trivial (.pop rfl rfl (.pop rfl rfl (.stop _ fun t ht => ?_)))
    cases ht
    rfl
  obtain ⟨u, hlater, -, hstep⟩ := (unended_tracked.1 _ _ hruns).2.2.2 _ _ hcollects
  exact ⟨_, _, _, hruns, rfl, hcollects, rfl, hlater.trans (.single (hstep _)), rfl⟩

end Workload

end StaffIndex
