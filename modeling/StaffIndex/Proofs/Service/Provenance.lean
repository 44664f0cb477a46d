import StaffIndex.Proofs.Search.Answers
import StaffIndex.Proofs.Service.Idle
import StaffIndex.Proofs.Service.Moves
import StaffIndex.Proofs.Service.Turns
import StaffIndex.Proofs.Text.Lowered

/-!
# Where the keys of an index come from

Let it be laid down which ids may be under which keys. As long as the jobs of a service file nothing else, its index
stays as allowed through every move (`HoldsOnly.move`) and every turn of a job (`HoldsOnly.turn`), and so through every
course (`holdsOnly_course`).

Lowering a text twice is lowering it once. So in every course from an empty index all keys are lowered texts, and whoever
searches for a key gets the row of that key (`lowered_keys`).
-/

namespace StaffIndex.Service

/-- The index is as allowed, and what is left of the jobs will keep it so. -/
structure HoldsOnly (allowed : EmployeeId → String → Prop) (s : Service) : Prop where
  index : s.index.HoldsOnly allowed
  ready : ∀ job ∈ s.ready, job.plan.FilesOnly allowed
  waiting : ∀ job ∈ s.waiting, job.plan.FilesOnly allowed

variable {allowed : EmployeeId → String → Prop} {s t : Service}

/-! ## Jobs -/

theorem HoldsOnly.submit (h : s.HoldsOnly allowed) {task : Task} (htask : (Indexing.perform task).FilesOnly allowed) :
    (s.submit task).HoldsOnly allowed := by
  rw [Service.submit]
  split
  · exact ⟨h.index, h.ready, h.waiting⟩
  · refine ⟨h.index, fun job hjob => ?_, h.waiting⟩
    rcases List.mem_append.1 hjob with hold | hnew
    · exact h.ready job hold
    · cases List.mem_singleton.1 hnew
      exact htask

theorem HoldsOnly.runJob (h : s.HoldsOnly allowed) {job : Job} (hjob : job.plan.FilesOnly allowed) :
    (s.runJob job).HoldsOnly allowed := by
  have hadvanced := Access.advance_of_filesOnly h.index hjob job.admitted
  rcases hadvance : s.access.advance job.admitted job.plan with ⟨r | _ | rest, b⟩
  all_goals
    rw [hadvance] at hadvanced
    obtain ⟨hrest, hindex⟩ := hadvanced
  · rw [runJob_of_ended hadvance]
    exact ⟨hindex, h.ready, h.waiting⟩
  · simp only [Service.runJob, hadvance]
    exact ⟨hindex, h.ready, h.waiting⟩
  · simp only [Service.runJob, hadvance]
    refine ⟨hindex, h.ready, fun job hjob => ?_⟩
    rcases List.mem_append.1 hjob with hold | hnew
    · exact h.waiting job hold
    · cases List.mem_singleton.1 hnew
      exact hrest

theorem HoldsOnly.foldl_runJob (h : s.HoldsOnly allowed) {jobs : List Job}
    (hjobs : ∀ job ∈ jobs, job.plan.FilesOnly allowed) : (jobs.foldl Service.runJob s).HoldsOnly allowed := by
  induction jobs generalizing s with
  | nil => exact h
  | cons job jobs ih =>
    rw [List.forall_mem_cons] at hjobs
    exact ih (h.runJob hjobs.1) hjobs.2

theorem HoldsOnly.settle (h : s.HoldsOnly allowed) : s.settle.HoldsOnly allowed := by
  have hnone : HoldsOnly allowed { s with ready := [] } := ⟨h.index, by simp, h.waiting⟩
  exact hnone.foldl_runJob h.ready

theorem HoldsOnly.call {ε α : Type} [RaisedByStore ε] (h : s.HoldsOnly allowed) {plan : Plan ε α}
    (hplan : plan.FilesOnly allowed) : (s.call plan).2.HoldsOnly allowed := by
  have hindex := (Access.advance_of_filesOnly h.index hplan false).2
  rw [Service.call]
  rcases hadvance : s.access.advance false plan with ⟨r | _ | rest, b⟩
  all_goals rw [hadvance] at hindex
  · exact ⟨hindex, h.ready, h.waiting⟩
  · exact ⟨hindex, h.ready, h.waiting⟩
  · exact HoldsOnly.settle ⟨hindex, h.ready, h.waiting⟩

/-- Permits do not change what is left of the jobs. -/
theorem HoldsOnly.permit (h : s.HoldsOnly allowed) (n : Nat) : (s.permit n).HoldsOnly allowed := by
  refine ⟨h.index, fun job hjob => ?_, fun job hjob => h.waiting job (List.mem_of_mem_drop hjob)⟩
  rcases List.mem_append.1 hjob with hold | hnew
  · exact h.ready job hold
  · obtain ⟨waiting, hwaiting, rfl⟩ := List.mem_map.1 hnew
    exact h.waiting waiting (List.mem_of_mem_take hwaiting)

/-! ## Courses -/

theorem HoldsOnly.move (h : s.HoldsOnly allowed) (hmove : Move allowed s t) : t.HoldsOnly allowed := by
  cases hmove with
  | call _ plan hplan => exact h.call hplan
  | submit _ task htask => exact h.submit htask
  | settle => exact h.settle
  | write _ staff => exact ⟨h.index, h.ready, h.waiting⟩
  | drain => exact ⟨h.index, h.ready, h.waiting⟩
  | setFaults _ faults => exact ⟨h.index, h.ready, h.waiting⟩
  | permit _ n => exact h.permit n

theorem HoldsOnly.moves (h : s.HoldsOnly allowed) (hmoves : Moves allowed s t) : t.HoldsOnly allowed := by
  induction hmoves with
  | refl => exact h
  | tail _ hmove ih => exact ih.move hmove

/-- A job that makes one request files only what is allowed, and what is left of it will not file more. -/
theorem HoldsOnly.goOn (h : s.HoldsOnly allowed) {job : Job} (hjob : job.plan.FilesOnly allowed) :
    (s.goOn job).2.HoldsOnly allowed ∧ ∀ rest ∈ (s.goOn job).1, rest.plan.FilesOnly allowed := by
  obtain ⟨ticket, plan, admitted⟩ := job
  cases plan with
  | done a => exact ⟨⟨h.index, h.ready, h.waiting⟩, by simp [Service.goOn]⟩
  | fail e => exact ⟨⟨h.index, h.ready, h.waiting⟩, by simp [Service.goOn]⟩
  | ask r next =>
    simp only [Service.goOn]
    rcases hpass : (if admitted then some s.access else s.access.pass? r) with _ | a
    · refine ⟨⟨h.index, h.ready, fun job hmem => ?_⟩, by simp⟩
      rcases List.mem_append.1 hmem with hold | hnew
      · exact h.waiting job hold
      · cases List.mem_singleton.1 hnew
        exact hjob
    · have ha : a.stores.index.HoldsOnly allowed := by
        have hstores : a.stores = s.access.stores := by
          split at hpass
          · cases hpass; rfl
          · exact (Access.eq_of_pass? hpass).1
        rw [hstores]
        exact h.index
      rcases hanswer : a.answer r with ⟨x | e | _, b⟩
      · obtain ⟨-, -, rfl⟩ := Access.reply_of_answer hanswer
        simp only [hanswer]
        refine ⟨⟨Stores.holdsOnly_answer ha hjob.1, h.ready, h.waiting⟩, fun rest hrest => ?_⟩
        cases hrest
        exact hjob.2 x
      · obtain ⟨-, rfl⟩ := Access.error_of_answer hanswer
        simp only [hanswer]
        exact ⟨⟨ha, h.ready, h.waiting⟩, by simp⟩
      · obtain rfl := Access.crash_of_answer hanswer
        simp only [hanswer]
        exact ⟨⟨ha, h.ready, h.waiting⟩, by simp⟩

theorem filesOnly_unbatched {ε α : Type} {p : Plan ε α} (h : p.FilesOnly allowed) : p.unbatched.FilesOnly allowed := by
  fun_cases Plan.unbatched p with
  | case1 id key keys next =>
    obtain ⟨hkeys, hnext⟩ := h
    obtain ⟨hkey, hrest⟩ := List.forall_mem_cons.1 hkeys
    exact ⟨by simpa [Request.FilesOnly] using hkey, fun _ => ⟨hrest, hnext⟩⟩
  | case2 id key keys next => exact ⟨trivial, fun _ => ⟨trivial, h.2⟩⟩
  | case3 p => exact h

section Courses

variable (hallowed : ∀ id ≠ "", ∀ text, allowed id (Key.ofText text))

include hallowed

/-- **One turn.** A command files only what is allowed if it is one that does; the jobs do anyway. -/
theorem HoldsOnly.turn (h : s.HoldsOnly allowed) (t : Turn) (hc : ∀ c, t = .command c → c.FilesOnly allowed) :
    (s.turn t).HoldsOnly allowed := by
  cases t with
  | command c => exact h.moves (moves_step hallowed s (hc c rfl))
  | job i =>
    rw [Service.turn]
    cases hjob : s.ready[i]? with
    | none => exact h
    | some job =>
      obtain ⟨hholds, hrest⟩ := h.goOn (h.ready job (List.mem_of_getElem? hjob))
      refine ⟨hholds.index, fun j hj => ?_, hholds.waiting⟩
      rcases List.mem_append.1 hj with hfront | hback
      · rcases List.mem_append.1 hfront with hbefore | hon
        · exact h.ready j (List.mem_of_mem_take hbefore)
        · exact hrest j (Option.mem_toList.1 hon)
      · exact h.ready j (List.mem_of_mem_drop hback)
  | unbatch i =>
    refine ⟨h.index, fun j hj => ?_, h.waiting⟩
    obtain ⟨k, hk⟩ := List.mem_iff_getElem?.1 hj
    simp only [Service.turn, List.getElem?_modify] at hk
    obtain ⟨job, hjob, rfl⟩ := Option.map_eq_some_iff.1 hk
    have hplan : job.plan.FilesOnly allowed := h.ready job (List.mem_of_getElem? hjob)
    split
    · exact filesOnly_unbatched hplan
    · exact hplan

/-- **What an index can hold.** If lowered texts may be filed under all proper ids, then nothing gets into the index but
what was there, what is allowed, and what callers file with their own requests and tasks, whoever has which turn. -/
theorem holdsOnly_course (h : s.HoldsOnly allowed) {turns : List Turn}
    (hc : ∀ c, .command c ∈ turns → c.FilesOnly allowed) : (s.course turns).HoldsOnly allowed := by
  induction turns generalizing s with
  | nil => exact h
  | cons t turns ih =>
    refine ih (h.turn hallowed t fun c ht => hc c (ht ▸ List.mem_cons_self)) fun c hmem => ?_
    exact hc c (List.mem_cons_of_mem _ hmem)

end Courses

/-! ## Lowered keys -/

/-- Only what is appended straight to the store is not lowered on the way. -/
theorem filesOnly_lowered {c : Command}
    (h : ∀ id keys, c = .request (.append id keys) → ∀ key ∈ keys, Key.ofText key = key) :
    c.FilesOnly fun _ key => Key.ofText key = key := by
  cases c with
  | request r =>
    cases r with
    | append id keys => exact h id keys rfl
    | remove _ _ | lookup _ | similar _ _ | prefixed _ | summaries _ | values _ _ => exact trivial
  | addEntry id values => exact Indexing.add_filesOnly Key.ofText_ofText
  | editEntry id changed values => exact Indexing.edit_filesOnly Key.ofText_ofText
  | perform task => exact Indexing.perform_filesOnly Key.ofText_ofText
  | submit task => exact Indexing.perform_filesOnly Key.ofText_ofText
  | _ => exact trivial

/-- **Keys are lowered texts.** Lowering is idempotent, on texts and on the keys of several values. Whatever a service
is asked to do, starting with an empty index and without tasks, whatever its faults, its gate and its staff, and in
whatever turns its jobs go on: if only lowered texts are ever appended straight to the store, then all keys of its index
are lowered, and the exact search for a key answers with the employees under it. -/
theorem lowered_keys :
    (∀ text, Key.ofText (Key.ofText text) = Key.ofText text) ∧
    (∀ values, Key.ofValues (Key.ofValues values) = Key.ofValues values) ∧
    ∀ (s : Service) (turns : List Turn), s.index = .empty → s.ready = [] → s.waiting = [] →
      (∀ id keys, .command (.request (.append id keys)) ∈ turns → ∀ key ∈ keys, Key.ofText key = key) →
      ∀ row ∈ (s.course turns).index.toRows, Key.ofText row.key = row.key ∧
        ∀ staff, Stores.run ⟨(s.course turns).index, staff⟩ (Search.exact row.key) =
          (.ok (staff.summaries row.ids.eraseDups), ⟨(s.course turns).index, staff⟩) := by
  refine ⟨Key.ofText_ofText, Key.ofValues_ofValues, fun s turns hindex hready hwaiting hdirect row hrow => ?_⟩
  have hstart : s.HoldsOnly fun _ key => Key.ofText key = key :=
    ⟨hindex ▸ Index.holdsOnly_empty, by simp [hready], by simp [hwaiting]⟩
  have hholds : (s.course turns).HoldsOnly fun _ key => Key.ofText key = key := by
    refine holdsOnly_course ?_ hstart fun c hc => filesOnly_lowered fun id keys heq => hdirect id keys (heq ▸ hc)
    exact fun _ _ => Key.ofText_ofText
  have hkey : Key.ofText row.key = row.key := by
    obtain ⟨id, hid⟩ := List.exists_mem_of_ne_nil row.ids
      ((s.course turns).index.occupied row.key row.ids (Index.mem_toRows.1 hrow))
    exact hholds.index row.key id (Index.idsAt_of_mem_toRows hrow ▸ hid)
  refine ⟨hkey, fun staff => ?_⟩
  rw [Search.run_exact, hkey, Index.idsAt_of_mem_toRows hrow]

/-- The index writer is held up at the gate with a name that has a dotted capital and a final sigma, and somebody else
files an employee between its first key and its second. -/
def heldUp : List Turn :=
  [.command (.created { id := "e1", name := "İΣ", surname := "Orlov" }), .job 0, .command (.permit 3), .unbatch 0, .job 0,
    .command (.request (.append "e2" ["orlov"])), .job 0]

theorem lowered_keys_heldUp : ∃ index : Index, index = (course { access.gate.guarded := [.append] } heldUp).index ∧
    index.toRows = [⟨"i\u0307ς", ["e1"]⟩, ⟨"orlov", ["e2", "e1"]⟩] ∧ Key.ofText "i\u0307ς" = "i\u0307ς" ∧
    ∀ staff, Stores.run ⟨index, staff⟩ (Search.exact "orlov") = (.ok (staff.summaries ["e2", "e1"]), ⟨index, staff⟩) := by
  have hrows : (course { access.gate.guarded := [.append] } heldUp).index.toRows =
      [⟨"i\u0307ς", ["e1"]⟩, ⟨"orlov", ["e2", "e1"]⟩] := by decide +kernel
  have hdirect : ∀ id keys, .command (.request (.append id keys)) ∈ heldUp → ∀ key ∈ keys, Key.ofText key = key := by
    intro id keys hmem
    obtain ⟨rfl, rfl⟩ : id = "e2" ∧ keys = ["orlov"] := by simpa [heldUp] using hmem
    decide +kernel
  have hlowered := lowered_keys.2.2 { access.gate.guarded := [.append] } heldUp rfl rfl rfl hdirect
  have hkey := (hlowered ⟨"i\u0307ς", ["e1"]⟩ (by simp [hrows])).1
  have hfound := (hlowered ⟨"orlov", ["e2", "e1"]⟩ (by simp [hrows])).2
  rw [show ["e2", "e1"].eraseDups = ["e2", "e1"] by decide] at hfound
  exact ⟨_, rfl, hrows, hkey, hfound⟩

end StaffIndex.Service
