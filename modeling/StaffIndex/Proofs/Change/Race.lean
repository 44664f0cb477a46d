import StaffIndex.Proofs.Change.Overtaken
import StaffIndex.Proofs.Service.Schedule

/-!
# An edit and the write of its record

The hook of an edit returns as soon as its task is queued, and nothing orders what the task does and the write of the
record that the caller makes then: the write may come before all requests of the task, after all of them, or in between
(`WritesMeanwhile`).

- A task that nobody disturbs comes to what its plan comes to (`ComesTo.step`). Once it has been told the old values,
  records do not matter to it any more (`run_of_onlyFor`).
- So all that counts is what comes first, the write or the question for the old values. In every schedule the stores are
  in the end those of a caller who waits for the task, or those of one who overtakes it (`stores_of_writesMeanwhile`).
- Both happen, so the index does not depend on the schedule just if it makes no difference to overtake the task
  (`index_of_writesMeanwhile`).
-/

namespace StaffIndex

open Relation

namespace Indexing

/-! ## A task alone -/

/-- Steps of tasks, while nobody writes records. -/
abbrev Undisturbed : Underway → Underway → Prop := ReflTransGen (Step fun _ => True)

/-- At most one task is under way, and left alone it will leave those stores. -/
structure ComesTo (t : Stores) (u : Underway) : Prop where
  pending : u.pending = 0
  running : u.running = 0 ∧ u.stores = t ∨ ∃ r, u.running = {r} ∧ (u.stores.run r.rest).2 = t

variable {id : EmployeeId} {t : Stores} {u v : Underway}

theorem Advances.staff_eq {s t : Stores} {plan rest : Plan IndexError Unit} (h : Advances s plan t rest) :
    t.staff = s.staff := by
  cases h with
  | ask r next => cases r <;> rfl
  | append i key keys next => rfl
  | remove i key keys next => rfl

theorem ComesTo.step (h : ComesTo t u) (hs : Step (fun _ => True) u v) : ComesTo t v := by
  obtain ⟨hpending, hrunning⟩ := h
  cases hs with
  | submit s q task ps rs => exact absurd hpending Multiset.cons_ne_zero
  | advance ha q i ticket ps rs =>
    obtain ⟨hnone, -⟩ | ⟨r, hr, hrun⟩ := hrunning
    · exact absurd hnone Multiset.cons_ne_zero
    · obtain ⟨rfl, rfl⟩ := (Multiset.singleton_eq_cons_iff _).1 hr.symm
      exact ⟨hpending, .inr ⟨_, rfl, by rw [← hrun, ← ha.run_eq]⟩⟩
  | done s q i ticket ps rs =>
    obtain ⟨hnone, -⟩ | ⟨r, hr, hrun⟩ := hrunning
    · exact absurd hnone Multiset.cons_ne_zero
    · obtain ⟨rfl, rfl⟩ := (Multiset.singleton_eq_cons_iff _).1 hr.symm
      exact ⟨hpending, .inl ⟨rfl, hrun⟩⟩
  | fail s q i ticket e ps rs =>
    obtain ⟨hnone, -⟩ | ⟨r, hr, hrun⟩ := hrunning
    · exact absurd hnone Multiset.cons_ne_zero
    · obtain ⟨rfl, rfl⟩ := (Multiset.singleton_eq_cons_iff _).1 hr.symm
      exact ⟨hpending, .inl ⟨rfl, hrun⟩⟩
  | write s q ps rs staff hstaff =>
    obtain rfl : staff = s.staff := Staff.ext fun i => hstaff i trivial
    exact ⟨hpending, hrunning⟩

theorem ComesTo.steps (h : ComesTo t u) (hs : Undisturbed u v) : ComesTo t v := by
  induction hs with
  | refl => exact h
  | tail _ hs ih => exact ih.step hs

/-- It can come to its end. -/
theorem ComesTo.exists_ended (h : ComesTo t u) : ∃ v, Undisturbed u v ∧ v.Ended := by
  obtain ⟨stores, queue, pending, running⟩ := u
  obtain ⟨rfl, ⟨rfl, -⟩ | ⟨r, rfl, -⟩⟩ := h
  · exact ⟨_, .refl, rfl, rfl⟩
  · exact ⟨_, steps_run stores queue r.id r.ticket r.rest 0 0, rfl, rfl⟩

theorem ComesTo.of_ended (h : ComesTo t u) (he : u.Ended) : u.stores = t := by
  obtain ⟨-, hstores⟩ | ⟨r, hr, -⟩ := h.running
  · exact hstores
  · rw [he.running] at hr
    exact absurd hr.symm (Multiset.singleton_ne_zero r)

/-- To a plan that asks for no record none matters. -/
theorem run_of_onlyFor {p : Plan IndexError Unit} (hp : p.OnlyFor (fun _ => False) id) (index : Index)
    (staff staff' : Staff) : (Stores.run ⟨index, staff⟩ p).2 = ⟨(Stores.run ⟨index, staff'⟩ p).2.index, staff⟩ := by
  induction p generalizing index with
  | done a => rfl
  | fail e => rfl
  | ask r next ih =>
    cases r with
    | append i keys => exact ih () (hp.2 ()) (index.append i keys)
    | remove i keys => exact ih () (hp.2 ()) (index.remove i keys)
    | values i fields => exact hp.1.2.elim
    | lookup _ | similar _ _ | prefixed _ | summaries _ => exact hp.1.elim

/-- Records that are written do not matter to a task that was told the old values. -/
theorem ComesTo.write {index : Index} {staff staff' : Staff} (h : ComesTo ⟨index, staff⟩ u)
    (honly : ∀ r ∈ u.running, r.rest.OnlyFor (fun _ => False) id) :
    ComesTo ⟨index, staff'⟩ ⟨⟨u.stores.index, staff'⟩, u.queue, u.pending, u.running⟩ := by
  refine ⟨h.pending, ?_⟩
  obtain ⟨hnone, hstores⟩ | ⟨r, hr, hrun⟩ := h.running
  · exact .inl ⟨hnone, by rw [hstores]⟩
  · refine .inr ⟨r, hr, ?_⟩
    have hplan : r.rest.OnlyFor (fun _ => False) id := honly r (by rw [hr]; exact Multiset.mem_singleton_self r)
    rw [run_of_onlyFor hplan u.stores.index staff' u.stores.staff]
    exact congrArg (fun t : Stores => (⟨t.index, staff'⟩ : Stores)) hrun

/-- An edit asks for the old values first, and for no record after that. -/
theorem edit_eq_ask (id : EmployeeId) (changed : List Field) (values : List String) :
    ∃ next, edit id changed values = .ask (.values id changed) next ∧
      ∀ found, (next found).OnlyFor (fun _ => False) id := by
  refine ⟨_, rfl, fun found => ?_⟩
  cases found with
  | none => exact trivial
  | some old =>
    change Plan.OnlyFor _ id (delete id old >>= fun _ => add id values)
    exact bind_onlyFor (delete_onlyFor id old) fun _ => add_onlyFor id values

end Indexing

namespace Service

open Indexing

variable {s : Service} {id : EmployeeId} {e : Employee} {p : Patch} {u v w : Underway}

/-! ## The hook and the write -/

/-- What is under way on an idle service when the hook of an edit has returned: the task that it has queued, if any. -/
def afterHook (s : Service) (id : EmployeeId) (p : Patch) : Underway :=
  let t := (s.employeeEdited id p).2
  ⟨t.stores, t.queue, 0, (t.ready.map fun job => ⟨id, job.ticket, job.plan⟩ : List Running)⟩

/-- The record is written in `u`, at any moment after the hook has returned, and in `w` the task has ended. -/
structure WritesMeanwhile (s : Service) (id : EmployeeId) (p : Patch) (u w : Underway) : Prop where
  before : Undisturbed (s.afterHook id p) u
  after : ∃ staff, u.stores.staff.update id p = .ok staff ∧
    Undisturbed ⟨⟨u.stores.index, staff⟩, u.queue, u.pending, u.running⟩ w
  ended : w.Ended

/-- The task has not been told the old values yet, or there is no task. -/
def Unasked (s : Service) (id : EmployeeId) (p : Patch) (u : Underway) : Prop :=
  u.running = (s.afterHook id p).running

/-- The hook queues an edit, or nothing if the id or the patch is empty. -/
theorem afterHook_cases (hs : s.Idle) (id : EmployeeId) (p : Patch) :
    (id = "" ∨ p.isEmpty) ∧ s.afterHook id p = ⟨s.stores, s.queue, 0, 0⟩ ∨
    (id ≠ "" ∧ ¬ p.isEmpty) ∧ s.afterHook id p =
      ⟨s.stores, s.queue.submit, 0, {⟨id, s.queue.submitted, edit id p.changedFields p.values⟩}⟩ := by
  obtain ⟨access, settings, queue, ready, waiting, stopped⟩ := s
  cases hs.ready
  cases hs.running
  unfold afterHook employeeEdited
  by_cases hid : id = ""
  · rw [edited_of_eq hid]
    exact .inl ⟨.inl hid, rfl⟩
  · rw [edited_of_ne hid]
    cases hp : p.isEmpty with
    | true => exact .inl ⟨.inr rfl, rfl⟩
    | false => exact .inr ⟨⟨hid, Bool.false_ne_true⟩, rfl⟩

/-- If there is a task, it is the edit. -/
theorem afterHook_of_queued (hs : s.Idle) (hqueued : (s.afterHook id p).running ≠ 0) :
    (id ≠ "" ∧ ¬ p.isEmpty) ∧ s.afterHook id p =
      ⟨s.stores, s.queue.submit, 0, {⟨id, s.queue.submitted, edit id p.changedFields p.values⟩}⟩ := by
  obtain ⟨-, hnone⟩ | hedit := afterHook_cases hs id p
  · rw [hnone] at hqueued
    exact absurd rfl hqueued
  · exact hedit

/-- Nothing has been done yet. -/
theorem stores_afterHook (hs : s.Idle) (id : EmployeeId) (p : Patch) : (s.afterHook id p).stores = s.stores := by
  obtain ⟨-, hnone⟩ | ⟨-, hedit⟩ := afterHook_cases hs id p
  · rw [hnone]
  · rw [hedit]

/-! ## Before the write -/

/-- The index that the task leaves if it gets the old values of the record. -/
def waitedIndex (s : Service) (e : Employee) (p : Patch) (id : EmployeeId) : Index :=
  (s.index.remove id (Key.ofValues (e.valuesOf p.changedFields))).append id (Key.ofValues p.values)

/-- How far the task can have come: it has not been told the old values and nothing has changed, or it has been told
them, will leave the index of one who was, and no record matters to it any more. -/
inductive Before (s : Service) (id : EmployeeId) (e : Employee) (p : Patch) (u : Underway) : Prop
  | unasked : u.pending = 0 → u.stores = s.stores → s.Unasked id p u → Before s id e p u
  | told : (s.afterHook id p).running ≠ 0 → ComesTo ⟨s.waitedIndex e p id, s.staff⟩ u → u.stores.staff = s.staff →
    (∀ r ∈ u.running, r.rest.OnlyFor (fun _ => False) id) → Before s id e p u

theorem run_edit_of_stored (he : s.staff.find? id = some e) (p : Patch) :
    (s.stores.run (edit id p.changedFields p.values)).2 = ⟨s.waitedIndex e p id, s.staff⟩ := by
  have hv : s.stores.staff.values? id p.changedFields = some (e.valuesOf p.changedFields) := by
    rw [Staff.values?, show s.stores.staff.find? id = some e from he]
    rfl
  rw [run_edit, hv]
  rfl

/-- A task that waits for a reply to its first request, or has made it, differs from one that has the reply. -/
theorem not_unasked_of_onlyFor (hs : s.Idle) (hqueued : (s.afterHook id p).running ≠ 0)
    (h : ∀ r ∈ u.running, r.rest.OnlyFor (fun _ => False) id) : ¬ s.Unasked id p u := by
  intro hunasked
  rw [Unasked, (afterHook_of_queued hs hqueued).2] at hunasked
  have honly := h ⟨id, s.queue.submitted, edit id p.changedFields p.values⟩
    (by rw [hunasked]; exact Multiset.mem_singleton_self _)
  exact honly.1.2

/-- A task that can go on unasked is the edit. -/
theorem eq_edit_of_unasked (hs : s.Idle) {stores : Stores} {q : Queue} {ps : Multiset Task} {r : Running}
    {rs : Multiset Running} (h : s.Unasked id p ⟨stores, q, ps, r ::ₘ rs⟩) :
    r = ⟨id, s.queue.submitted, edit id p.changedFields p.values⟩ ∧ rs = 0 ∧ (s.afterHook id p).running ≠ 0 := by
  have hqueued : (s.afterHook id p).running ≠ 0 := h ▸ Multiset.cons_ne_zero
  rw [Unasked, (afterHook_of_queued hs hqueued).2] at h
  obtain ⟨rfl, rfl⟩ := (Multiset.singleton_eq_cons_iff _).1 h.symm
  exact ⟨rfl, rfl, hqueued⟩

/-- **The first request.** It tells the task the values of the record as it was. -/
theorem Before.ask (he : s.staff.find? id = some e) {t : Stores}
    {rest : Plan IndexError Unit} (hqueued : (s.afterHook id p).running ≠ 0)
    (ha : Advances s.stores (edit id p.changedFields p.values) t rest) (q : Queue) (ticket : Nat) :
    s.Before id e p ⟨t, q, 0, {⟨id, ticket, rest⟩}⟩ := by
  have hrun := ha.run_eq
  obtain ⟨next, hnext, honly⟩ := edit_eq_ask id p.changedFields p.values
  have hwaited := run_edit_of_stored he p
  rw [hrun] at hwaited
  rw [hnext] at ha
  cases ha with
  | ask r next =>
    have hrest : ∀ r ∈ ({⟨id, ticket, next (s.stores.answer (.values id p.changedFields)).1⟩} : Multiset Running),
        r.rest.OnlyFor (fun _ => False) id := fun r hr => Multiset.mem_singleton.1 hr ▸ honly _
    exact .told hqueued ⟨rfl, .inr ⟨_, rfl, hwaited⟩⟩ rfl hrest

theorem Before.step (hs : s.Idle) (he : s.staff.find? id = some e) (h : s.Before id e p u)
    (hstep : Step (fun _ => True) u v) : s.Before id e p v := by
  cases h with
  | unasked hpending hstores hunasked =>
    obtain ⟨next, hnext, -⟩ := edit_eq_ask id p.changedFields p.values
    cases hstep with
    | submit _ _ _ _ _ => exact absurd hpending Multiset.cons_ne_zero
    | write s₀ q ps rs staff hstaff =>
      obtain rfl : staff = s₀.staff := Staff.ext fun i => hstaff i trivial
      exact .unasked hpending hstores hunasked
    | advance ha q i ticket ps rs =>
      obtain rfl : ps = 0 := hpending
      obtain ⟨hedit, rfl, hqueued⟩ := eq_edit_of_unasked hs hunasked
      cases hedit
      cases hstores
      exact Before.ask he hqueued ha q _
    | done _ _ _ _ _ _ =>
      have hedit := (eq_edit_of_unasked hs hunasked).1
      rw [hnext] at hedit
      cases hedit
    | fail _ _ _ _ _ _ _ =>
      have hedit := (eq_edit_of_unasked hs hunasked).1
      rw [hnext] at hedit
      cases hedit
  | told hqueued hcomes hstaff honly =>
    have hcomes' := hcomes.step hstep
    cases hstep with
    | submit _ _ _ _ _ => exact absurd hcomes.pending Multiset.cons_ne_zero
    | write s₀ q ps rs staff hwrite =>
      obtain rfl : staff = s₀.staff := Staff.ext fun i => hwrite i trivial
      exact .told hqueued hcomes' hstaff honly
    | advance ha q i ticket ps rs =>
      refine .told hqueued hcomes' (ha.staff_eq.trans hstaff) fun r hr => ?_
      rcases Multiset.mem_cons.1 hr with rfl | hmem
      · exact ha.onlyFor (honly _ (Multiset.mem_cons_self _ _))
      · exact honly r (Multiset.mem_cons_of_mem hmem)
    | done _ _ _ _ _ _ => exact .told hqueued hcomes' hstaff fun r hr => honly r (Multiset.mem_cons_of_mem hr)
    | fail _ _ _ _ _ _ _ => exact .told hqueued hcomes' hstaff fun r hr => honly r (Multiset.mem_cons_of_mem hr)

theorem before_of_undisturbed (hs : s.Idle) (he : s.staff.find? id = some e)
    (h : Undisturbed (s.afterHook id p) u) : s.Before id e p u := by
  induction h with
  | refl => exact .unasked rfl (stores_afterHook hs id p) rfl
  | tail _ hstep ih => exact ih.step hs he hstep

/-! ## After it -/

/-- One that is still to be told them will be told the new ones. -/
theorem comesTo_overtaking (hs : s.Idle) (he : s.staff.find? id = some e) (hpending : u.pending = 0)
    (hunasked : s.Unasked id p u) : ComesTo (s.run (Change.overtaking id p)).2.stores
      ⟨⟨s.index, ⟨s.staff.records.insert id (p.apply e)⟩⟩, u.queue, u.pending, u.running⟩ := by
  refine ⟨hpending, ?_⟩
  have hwritten : (s.setStaff ⟨s.staff.records.insert id (p.apply e)⟩).Idle := hs.setStores _
  obtain ⟨hnothing, hnone⟩ | ⟨⟨hid, -⟩, hedit⟩ := afterHook_cases hs id p
  · rw [Unasked, hnone] at hunasked
    refine .inl ⟨hunasked, ?_⟩
    have hhook : ((s.setStaff ⟨s.staff.records.insert id (p.apply e)⟩).employeeEdited id p).2 =
        s.setStaff ⟨s.staff.records.insert id (p.apply e)⟩ := by
      unfold employeeEdited
      by_cases hid : id = ""
      · rw [edited_of_eq hid]
      · rw [edited_of_ne hid, if_pos (hnothing.resolve_left hid)]
        rfl
    rw [run_overtaking he, hhook, settle_of_idle hwritten]
    rfl
  · rw [Unasked, hedit] at hunasked
    refine .inr ⟨_, hunasked, ?_⟩
    have hfound : (s.setStaff ⟨s.staff.records.insert id (p.apply e)⟩).staff.find? id = some (p.apply e) :=
      SortedMap.find?_insert.trans (if_pos rfl)
    have hrun := run_edit_of_stored hfound p
    rw [waitedIndex, Patch.valuesOf_apply] at hrun
    rw [stores_overtaking hs hid he]
    exact hrun

/-- **Every schedule** ends as one of two: the caller overtakes the task that is still to be told the old values, or has
as good as waited for the one that was told them. -/
theorem stores_of_writesMeanwhile (hs : s.Idle) (he : s.staff.find? id = some e) (h : s.WritesMeanwhile id p u w) :
    s.Unasked id p u ∧ w.stores = (s.run (Change.overtaking id p)).2.stores ∨
      ¬ s.Unasked id p u ∧ w.stores = (s.make (.edit id p)).stores := by
  obtain ⟨hbefore, ⟨staff, hupdate, hafter⟩, hended⟩ := h
  have hstaff' {staff₀ : Staff} (h : staff₀ = s.staff) (hupdate : staff₀.update id p = .ok staff) :
      staff = ⟨s.staff.records.insert id (p.apply e)⟩ := by
    rw [h, Staff.update_of_find? he] at hupdate
    exact (Except.ok.inj hupdate).symm
  cases before_of_undisturbed hs he hbefore with
  | unasked hpending hstores hunasked =>
    obtain rfl := hstaff' (congrArg Stores.staff hstores) hupdate
    rw [show u.stores.index = s.index from congrArg Stores.index hstores] at hafter
    exact .inl ⟨hunasked, ((comesTo_overtaking hs he hpending hunasked).steps hafter).of_ended hended⟩
  | told hqueued hcomes hstaff honly =>
    obtain rfl := hstaff' hstaff hupdate
    have hid : id ≠ "" := (afterHook_of_queued hs hqueued).1.1
    refine .inr ⟨not_unasked_of_onlyFor hs hqueued honly, ?_⟩
    rw [stores_waiting hs hid he]
    exact ((hcomes.write honly).steps hafter).of_ended hended

/-! ## Both ways -/

/-- The record may be written before the task has made any request. -/
theorem exists_writesMeanwhile_unasked (hs : s.Idle) (he : s.staff.find? id = some e) (p : Patch) :
    ∃ u w, s.WritesMeanwhile id p u w ∧ s.Unasked id p u := by
  have hstores := stores_afterHook hs id p
  have hstaff : (s.afterHook id p).stores.staff = s.staff := congrArg Stores.staff hstores
  have hindex : (s.afterHook id p).stores.index = s.index := congrArg Stores.index hstores
  obtain ⟨w, hsteps, hended⟩ := (comesTo_overtaking (u := s.afterHook id p) hs he rfl rfl).exists_ended
  have hupdate : (s.afterHook id p).stores.staff.update id p = .ok ⟨s.staff.records.insert id (p.apply e)⟩ := by
    rw [hstaff]
    exact Staff.update_of_find? he p
  exact ⟨s.afterHook id p, w, ⟨.refl, ⟨_, hupdate, by rw [hindex]; exact hsteps⟩, hended⟩, rfl⟩

/-- Only a task can be told them. -/
theorem queued_of_told (hs : s.Idle) (he : s.staff.find? id = some e) (h : s.WritesMeanwhile id p u w)
    (htold : ¬ s.Unasked id p u) : id ≠ "" ∧ ¬ p.isEmpty := by
  cases before_of_undisturbed hs he h.before with
  | unasked _ _ hunasked => exact absurd hunasked htold
  | told hqueued _ _ _ => exact (afterHook_of_queued hs hqueued).1

/-- If there is a task, it may have ended before. -/
theorem exists_writesMeanwhile_told (hs : s.Idle) (he : s.staff.find? id = some e) (hid : id ≠ "") (hp : ¬ p.isEmpty) :
    ∃ u w, s.WritesMeanwhile id p u w ∧ ¬ s.Unasked id p u := by
  obtain ⟨hid' | hp', -⟩ | ⟨-, hedit⟩ := afterHook_cases hs id p
  · exact absurd hid' hid
  · exact absurd hp' hp
  · let task := edit id p.changedFields p.values
    let ended : Underway :=
      ⟨⟨s.waitedIndex e p id, s.staff⟩, s.queue.submit.settle s.queue.submitted (s.stores.run task).1.isOk, 0, 0⟩
    have hsteps : Undisturbed (s.afterHook id p) ended := by
      have hrun : (s.stores.run task).2 = ended.stores := run_edit_of_stored he p
      rw [hedit, show ended = ⟨(s.stores.run task).2, ended.queue, 0, 0⟩ by rw [hrun]]
      exact steps_run s.stores s.queue.submit id s.queue.submitted task 0 0
    refine ⟨ended, _, ⟨hsteps, ⟨_, Staff.update_of_find? he p, .refl⟩, rfl, rfl⟩, ?_⟩
    rw [Unasked, hedit]
    exact (Multiset.singleton_ne_zero _).symm

/-- **Writing the record while the task is under way.** Where the index mirrors the staff, every schedule leaves the
records of one who waits for the task.

- If the task was told the old values before the write, the index is that of one who waits, too.
- If not, the employee stays under the keys that it gives up, and the index is the same just if of the keys that the
  employee had the changed fields give none up and take none up.
- The second happens for every edit, and the first if there is a task. So all schedules leave the index of one who waits
  just where the second one does. -/
theorem index_of_writesMeanwhile (hs : s.Idle) (hm : Mirrors s.stores) (he : s.staff.find? id = some e) (p : Patch) :
    (∀ u w, s.WritesMeanwhile id p u w → w.stores.staff = (s.make (.edit id p)).staff ∧
      (¬ s.Unasked id p u → w.stores.index = (s.make (.edit id p)).index) ∧
      (s.Unasked id p u →
        (w.stores.index = (s.make (.edit id p)).index ↔ id = "" ∨ ∀ key, e.HasKey key →
          (key ∈ Key.ofValues (e.valuesOf p.changedFields) ↔ key ∈ Key.ofValues p.values)) ∧
        (id ≠ "" → ∀ key k, k ∈ w.stores.index.idsAt key ↔ k ∈ (s.make (.edit id p)).index.idsAt key ∨
          k = id ∧ key ∈ Key.ofValues (e.valuesOf p.changedFields) ∧ key ∉ Key.ofValues p.values))) ∧
    (∃ u w, s.WritesMeanwhile id p u w ∧ s.Unasked id p u) ∧
    ((∃ u w, s.WritesMeanwhile id p u w ∧ ¬ s.Unasked id p u) ↔ id ≠ "" ∧ ¬ p.isEmpty) ∧
    ((∀ u w, s.WritesMeanwhile id p u w → w.stores.index = (s.make (.edit id p)).index) ↔
      id = "" ∨ ∀ key, e.HasKey key →
        (key ∈ Key.ofValues (e.valuesOf p.changedFields) ↔ key ∈ Key.ofValues p.values)) := by
  obtain ⟨hiff, hstaff, hrows⟩ := index_overtaking_iff hs hm he p
  refine ⟨fun u w h => ?_, exists_writesMeanwhile_unasked hs he p, ⟨?_, ?_⟩, ?_, ?_⟩
  · obtain ⟨hunasked, hstores⟩ | ⟨htold, hstores⟩ := stores_of_writesMeanwhile hs he h
    · rw [hstores]
      exact ⟨hstaff, fun htold => absurd hunasked htold, fun _ => ⟨hiff, hrows⟩⟩
    · rw [hstores]
      exact ⟨rfl, fun _ => rfl, fun hunasked => absurd hunasked htold⟩
  · exact fun ⟨u, w, h, htold⟩ => queued_of_told hs he h htold
  · exact fun ⟨hid, hp⟩ => exists_writesMeanwhile_told hs he hid hp
  · intro hsame
    obtain ⟨u, w, h, hunasked⟩ := exists_writesMeanwhile_unasked hs he p
    obtain ⟨-, hstores⟩ | ⟨htold, -⟩ := stores_of_writesMeanwhile hs he h
    · exact hiff.1 ((congrArg Stores.index hstores).symm.trans (hsame u w h))
    · exact absurd hunasked htold
  · intro hkeys u w h
    obtain ⟨-, hstores⟩ | ⟨-, hstores⟩ := stores_of_writesMeanwhile hs he h
    · rw [hstores]
      exact hiff.2 hkeys
    · rw [hstores]
      rfl

/-- A new spelling of Anna's team comes to the same in every schedule, a move to another team does not. -/
theorem index_of_writesMeanwhile_respelledTeam : withAnna.staff.find? "e1" = some anna ∧
    (∀ u w, withAnna.WritesMeanwhile "e1" { team := some "CORE" } u w →
      w.stores.index = (withAnna.make (.edit "e1" { team := some "CORE" })).index) ∧
    ¬ ∀ u w, withAnna.WritesMeanwhile "e1" { team := some "Sales" } u w →
      w.stores.index = (withAnna.make (.edit "e1" { team := some "Sales" })).index := by
  obtain ⟨idle, mirrors⟩ := withAnna_idle_mirrors
  have stored : withAnna.staff.find? "e1" = some anna := by decide +kernel
  refine ⟨stored, ?_, ?_⟩
  · refine (index_of_writesMeanwhile idle mirrors stored { team := some "CORE" }).2.2.2.2 (.inr fun key _ => ?_)
    rw [show Key.ofValues (anna.valuesOf (Patch.changedFields { team := some "CORE" })) =
      Key.ofValues (Patch.values { team := some "CORE" }) by decide +kernel]
  · intro same
    obtain noId | keys := (index_of_writesMeanwhile idle mirrors stored { team := some "Sales" }).2.2.2.1 same
    · exact absurd noId (by decide)
    · have core : anna.HasKey "core" := Employee.hasKey_iff_mem.2 (by decide +kernel)
      exact absurd ((keys "core" core).1 (by decide +kernel)) (by decide +kernel)

end Service

end StaffIndex
