import Mathlib.Data.List.Flatten
import StaffIndex.Proofs.Indexing.Failure
import StaffIndex.Proofs.Indexing.Rows
import StaffIndex.Proofs.Queue.Workload

/-!
# The batches of a task

A task changes the rows of many keys with one request, a batch. There is one batch for the values it takes out and one
for those it files, and none where there are no values (`Task.batches`).

- As long as what a plan is told is true of the staff, its requests may be known beforehand (`Plan.Makes`). Those of a
  task are its batches, after a question for the old values if it is an edit (`makes_perform`).
- The keys of a batch are those of its values, each once, in the order of first occurrence (`Key.batch_ofValues`). So
  no batch meets a row twice, and no task files its employee twice in one row (`batches_of_performed`).
-/

namespace StaffIndex

/-! ## Keys -/

namespace Key

/-- The keys are those of the values, in the order in which they first occur there. -/
structure Batch (values keys : List String) : Prop where
  ne_nil : keys ≠ []
  nodup : keys.Nodup
  mem_iff : ∀ key, key ∈ keys ↔ ∃ v ∈ values, ofText v = key
  ordered : keys.Pairwise fun k l => (values.map ofText).idxOf k < (values.map ofText).idxOf l

variable {p : String → Bool} {k l : String} {keys values : List String}

/-- What is left out before two keys does not change which of them is the first. -/
theorem idxOf_lt_of_filter (hk : p k) (hl : p l) (h : (keys.filter p).idxOf k < (keys.filter p).idxOf l) :
    keys.idxOf k < keys.idxOf l := by
  induction keys with
  | nil => exact h
  | cons key keys ih =>
    by_cases hp : p key
    · rw [List.filter_cons_of_pos hp] at h
      by_cases hkey : key = k
      · subst hkey
        by_cases hsame : key = l
        · simp [hsame] at h
        · simp [List.idxOf_cons_ne _ hsame]
      · by_cases hsame : key = l
        · simp [hsame] at h
        · rw [List.idxOf_cons_ne _ hkey, List.idxOf_cons_ne _ hsame] at h ⊢
          exact Nat.succ_lt_succ (ih (Nat.lt_of_succ_lt_succ h))
    · rw [List.filter_cons_of_neg hp] at h
      have hkey : key ≠ k := fun heq => hp (heq ▸ hk)
      have hsame : key ≠ l := fun heq => hp (heq ▸ hl)
      rw [List.idxOf_cons_ne _ hkey, List.idxOf_cons_ne _ hsame]
      exact Nat.succ_lt_succ (ih h)

theorem pairwise_idxOf_eraseDups : (keys : List String) →
    keys.eraseDups.Pairwise fun k l => keys.idxOf k < keys.idxOf l
  | [] => .nil
  | key :: keys => by
    have hne : ∀ k ∈ (keys.filter fun k => !k == key).eraseDups, key ≠ k := by
      rintro k hk rfl
      simp [List.mem_eraseDups] at hk
    rw [List.eraseDups_cons, List.pairwise_cons]
    constructor
    · intro k hk
      rw [List.idxOf_cons_self, List.idxOf_cons_ne _ (hne k hk)]
      exact Nat.succ_pos _
    · refine (pairwise_idxOf_eraseDups _).imp_of_mem fun {k l} hk hl hlt => ?_
      have hkeys := idxOf_lt_of_filter (by simpa using (hne k hk).symm) (by simpa using (hne l hl).symm) hlt
      rw [List.idxOf_cons_ne _ (hne k hk), List.idxOf_cons_ne _ (hne l hl)]
      exact Nat.succ_lt_succ hkeys
termination_by keys => keys.length
decreasing_by exact Nat.lt_succ_of_le (List.length_filter_le _ _)

theorem batch_ofValues (h : values ≠ []) : Batch values (ofValues values) :=
  ⟨Indexing.ofValues_ne_nil h, nodup_ofValues values, fun _ => mem_ofValues, pairwise_idxOf_eraseDups _⟩

end Key

/-! ## Requests -/

namespace Request

def changesRows : Request → Bool
  | append .. => true
  | remove .. => true
  | _ => false

/-- The keys that the request files an id under. -/
def filedKeys : Request → List String
  | append _ keys => keys
  | _ => []

/-- One request about the keys of the values, and none about no values. -/
def batch (send : List String → Request) (values : List String) : List Request :=
  if values = [] then [] else [send (Key.ofValues values)]

theorem mem_batch {send : List String → Request} {values : List String} {r : Request} :
    r ∈ batch send values ↔ values ≠ [] ∧ r = send (Key.ofValues values) := by
  unfold batch
  split <;> simp [*]

end Request

/-- What was told of old values is what the staff has. -/
def Exchange.TrueOf (staff : Staff) : Exchange → Prop
  | ⟨.values id fields, found⟩ => found = staff.values? id fields
  | _ => True

namespace Plan

/-- Whatever the plan is told, if it is true of the staff, its requests are these. -/
inductive Makes (staff : Staff) : Plan IndexError Unit → List Request → Prop
  | done : Makes staff (.done ()) []
  | fail (e : IndexError) : Makes staff (.fail e) []
  | ask {r : Request} {next : r.Reply → Plan IndexError Unit} {requests : List Request}
    (h : ∀ x, Exchange.TrueOf staff ⟨r, x⟩ → Makes staff (next x) requests) : Makes staff (.ask r next) (r :: requests)

variable {staff : Staff} {p rest : Plan IndexError Unit} {requests : List Request} {told : List Exchange} {r : Request}
  {next : r.Reply → Plan IndexError Unit}

/-- After some of its requests a plan has the others left to make. -/
theorem Makes.of_follows (h : p.Makes staff requests) (hp : p.Follows told rest) (ht : ∀ x ∈ told, x.TrueOf staff) :
    ∃ left, requests = told.map (·.request) ++ left ∧ rest.Makes staff left := by
  induction hp with
  | nil => exact ⟨requests, rfl, h⟩
  | @concat told r next _ x ih =>
    obtain ⟨left, rfl, hleft⟩ := ih fun y hy => ht y (List.mem_append_left _ hy)
    cases hleft with
    | ask hnext =>
      refine ⟨_, ?_, hnext x (ht _ (List.mem_append_right _ List.mem_cons_self))⟩
      rw [List.map_append, List.append_assoc]
      rfl

/-- The first request, and then what follows on its reply. -/
theorem Follows.ask {x : r.Reply} (h : (next x).Follows told rest) :
    (Plan.ask r next).Follows (⟨r, x⟩ :: told) rest := by
  induction h with
  | nil => exact .concat .nil x
  | concat _ y ih => exact .concat ih y

/-- A plan that comes to its end on the stores can do so, told what is true of their staff. -/
theorem exists_follows_of_run {s : Stores} (h : (s.run p).1 = .ok ()) :
    ∃ told, (∀ x ∈ told, x.TrueOf s.staff) ∧ p.Follows told (.done ()) := by
  induction p generalizing s with
  | done u => exact ⟨[], by simp, .nil⟩
  | fail e => cases h
  | ask r next ih =>
    have hstaff : (s.answer r).2.staff = s.staff := by cases r <;> rfl
    have htrue : Exchange.TrueOf s.staff ⟨r, (s.answer r).1⟩ := by
      cases r with
      | values id fields => exact (rfl : _ = s.staff.values? id fields)
      | append _ _ | remove _ _ | lookup _ | similar _ _ | prefixed _ | summaries _ => exact trivial
    obtain ⟨told, ht, hf⟩ := ih _ (s := (s.answer r).2) h
    exact ⟨_ :: told, List.forall_mem_cons.2 ⟨htrue, hstaff ▸ ht⟩, hf.ask⟩

end Plan

/-! ## Tasks -/

namespace Task

/-- The values that the employee is no longer to be filed under, if the task can be told. -/
def oldValues? (staff : Staff) : Task → Option (List String)
  | add _ _ => some []
  | delete _ values => some values
  | edit id changed _ => staff.values? id changed

/-- The values that the employee is to be filed under. -/
def newValues : Task → List String
  | add _ values => values
  | delete _ _ => []
  | edit _ _ values => values

/-- What the task asks before it changes anything. -/
def questions : Task → List Request
  | edit id changed _ => [.values id changed]
  | _ => []

def batches (staff : Staff) (task : Task) : List Request :=
  match task.oldValues? staff with
  | none => []
  | some old => Request.batch (.remove task.employeeId) old ++ Request.batch (.append task.employeeId) task.newValues

variable {staff : Staff} {task : Task} {r : Request}

theorem mem_batches : r ∈ task.batches staff ↔
    ∃ old, task.oldValues? staff = some old ∧ ((old ≠ [] ∧ r = .remove task.employeeId (Key.ofValues old)) ∨
      task.newValues ≠ [] ∧ r = .append task.employeeId (Key.ofValues task.newValues)) := by
  unfold batches
  cases task.oldValues? staff <;> simp [Request.mem_batch]

/-- Questions change no rows, batches do. -/
theorem filter_changesRows (staff : Staff) (task : Task) :
    (task.questions ++ task.batches staff).filter Request.changesRows = task.batches staff := by
  have hquestions : task.questions.filter Request.changesRows = [] := by cases task <;> rfl
  have hbatches : (task.batches staff).filter Request.changesRows = task.batches staff := by
    refine List.filter_eq_self.2 fun r hr => ?_
    obtain ⟨old, -, ⟨-, rfl⟩ | ⟨-, rfl⟩⟩ := mem_batches.1 hr <;> rfl
  rw [List.filter_append, hquestions, hbatches, List.nil_append]

/-- A task files its employee in one batch. -/
theorem nodup_filedKeys (staff : Staff) (task : Task) :
    ((task.questions ++ task.batches staff).flatMap Request.filedKeys).Nodup := by
  have hquestions : task.questions.flatMap Request.filedKeys = [] := by cases task <;> rfl
  rw [List.flatMap_append, hquestions, List.nil_append, batches]
  split
  · exact .nil
  · next old _ =>
    have hold : (Request.batch (.remove task.employeeId) old).flatMap Request.filedKeys = [] := by
      unfold Request.batch
      split <;> rfl
    rw [List.flatMap_append, hold, List.nil_append, Request.batch]
    split
    · exact .nil
    · rw [List.flatMap_singleton]
      exact Key.nodup_ofValues _

theorem taken?_eq (staff : Staff) (task : Task) : task.taken? staff = (task.oldValues? staff).map Key.ofValues := by
  cases task with
  | add id values => rfl
  | delete id values => rfl
  | edit id changed values => rw [taken?, oldValues?, Staff.values?, Option.map_map]; rfl

end Task

namespace Indexing

open Plan Request

variable {staff : Staff}

theorem makes_add (id : EmployeeId) (values : List String) :
    (add id values).Makes staff (batch (.append id) values) := by
  by_cases h : values = []
  · subst h
    exact .done
  · rw [add_of_ne_nil id h, batch, if_neg h]
    exact .ask fun _ _ => .done

theorem makes_delete (id : EmployeeId) (values : List String) :
    (delete id values).Makes staff (batch (.remove id) values) := by
  by_cases h : values = []
  · subst h
    exact .done
  · rw [delete_of_ne_nil id h, batch, if_neg h]
    exact .ask fun _ _ => .done

theorem makes_delete_add (id : EmployeeId) (old values : List String) :
    (delete id old >>= fun _ => add id values).Makes staff (batch (.remove id) old ++ batch (.append id) values) := by
  by_cases h : old = []
  · subst h
    exact makes_add id values
  · rw [delete_of_ne_nil id h, batch, if_neg h]
    exact .ask fun _ _ => makes_add id values

/-- **The requests of a task.** -/
theorem makes_perform (staff : Staff) (task : Task) :
    (perform task).Makes staff (task.questions ++ task.batches staff) := by
  cases task with
  | add id values => exact makes_add id values
  | delete id values =>
    have hbatches : (Task.delete id values).batches staff = batch (.remove id) values := List.append_nil _
    rw [hbatches]
    exact makes_delete id values
  | edit id changed values =>
    refine .ask fun found hfound => ?_
    have hold : (Task.edit id changed values).oldValues? staff = found := hfound.symm
    rw [Task.batches, hold]
    cases found with
    | none => exact .fail _
    | some old => exact makes_delete_add id old values

/-- What a task asks next when it has been told the truth is one of its questions or batches, and comes after those it
has asked before. -/
theorem exists_of_follows_ask {told : List Exchange} {r : Request} {next : r.Reply → Plan IndexError Unit} {task : Task}
    (hf : (perform task).Follows told (.ask r next)) (ht : ∀ x ∈ told, x.TrueOf staff) :
    ∃ later, task.questions ++ task.batches staff = told.map (·.request) ++ [r] ++ later := by
  obtain ⟨left, heq, hleft⟩ := (makes_perform staff task).of_follows hf ht
  cases hleft with
  | ask _ => exact ⟨_, heq.trans (List.append_cons ..)⟩

/-- **Every batch is clean.** Whatever fails and whatever happens between its requests, let a task be told what is true
of the staff. Then each of its appends and removals is for its employee and has the keys of the values concerned: there
are some, each stands there once, in the order in which the values come to it. All in all no key is filed under twice.
A task that has ended has made a removal just if there were old values and an append just if there were new ones, and
nothing keeps it from its end if there are old values to be told of. -/
theorem batches_of_performed (task : Task) (staff : Staff) :
    (∀ told r next, (perform task).Follows told (.ask r next) → (∀ x ∈ told, x.TrueOf staff) →
      (∀ id keys, r = .append id keys → id = task.employeeId ∧ Key.Batch task.newValues keys) ∧
      (∀ id keys, r = .remove id keys → id = task.employeeId ∧
        ∃ old, task.oldValues? staff = some old ∧ Key.Batch old keys) ∧
      ((told.map (·.request) ++ [r]).flatMap filedKeys).Nodup) ∧
    (∀ told rest, (perform task).Follows told rest → (∀ x ∈ told, x.TrueOf staff) →
      (rest = .done () ∨ ∃ e, rest = .fail e) → (told.map (·.request)).filter changesRows = task.batches staff) ∧
    ((task.oldValues? staff).isSome →
      ∃ told, (∀ x ∈ told, x.TrueOf staff) ∧ (perform task).Follows told (.done ())) := by
  refine ⟨fun told r next hf ht => ?_, fun told rest hf ht hended => ?_, fun hsome => ?_⟩
  · obtain ⟨later, heq⟩ := exists_of_follows_ask hf ht
    have hbatch (hr : r.changesRows = true) : r ∈ task.batches staff := by
      rw [← task.filter_changesRows staff, heq]
      exact List.mem_filter.2 ⟨by simp, hr⟩
    refine ⟨?_, ?_, ?_⟩
    · rintro id keys rfl
      obtain ⟨old, -, ⟨-, hr⟩ | ⟨hne, hr⟩⟩ := Task.mem_batches.1 (hbatch rfl)
      · cases hr
      · cases hr
        exact ⟨rfl, Key.batch_ofValues hne⟩
    · rintro id keys rfl
      obtain ⟨old, hold, ⟨hne, hr⟩ | ⟨-, hr⟩⟩ := Task.mem_batches.1 (hbatch rfl)
      · cases hr
        exact ⟨rfl, old, hold, Key.batch_ofValues hne⟩
      · cases hr
    · have hall := task.nodup_filedKeys staff
      rw [heq, List.flatMap_append] at hall
      exact (List.nodup_append.1 hall).1
  · obtain ⟨left, heq, hleft⟩ := (makes_perform staff task).of_follows hf ht
    obtain rfl : left = [] := by rcases hended with rfl | ⟨e, rfl⟩ <;> cases hleft <;> rfl
    rw [← task.filter_changesRows staff, heq, List.append_nil]
  · obtain ⟨old, hold⟩ := Option.isSome_iff_exists.1 hsome
    have htaken : task.taken? staff = some (Key.ofValues old) := by rw [task.taken?_eq, hold]; rfl
    have hrun : (Stores.run ⟨.empty, staff⟩ (perform task)).1 = .ok () := by
      rw [run_perform_of_taken (s := ⟨.empty, staff⟩) htaken]
    exact exists_follows_of_run hrun

/-- A team and a phone that have one key get others, and the new team is spelled in two ways. -/
def respelledTeam : Task := .edit "e1" [.team, .phones] ["Sales", "SALES", "Core"]

/-- The old key is taken out once, and filed again with the other one. -/
theorem batches_of_performed_respelledTeam :
    let anna : Employee := { id := "e1", name := "Anna", surname := "Orlova", team := some "CORE", phones := ["core"] }
    let told : List Exchange :=
      [⟨.values "e1" [.team, .phones], some ["CORE", "core"]⟩, ⟨.remove "e1" ["core"], ()⟩]
    (∀ x ∈ told, x.TrueOf (Staff.empty.insert anna)) ∧
      (perform respelledTeam).Follows told (Plan.request (.append "e1" ["sales", "core"])) ∧
      Key.Batch ["Sales", "SALES", "Core"] ["sales", "core"] := by
  intro anna told
  have htrue : ∀ x ∈ told, x.TrueOf (Staff.empty.insert anna) := by
    have hfound : some ["CORE", "core"] = (Staff.empty.insert anna).values? "e1" [.team, .phones] := by decide
    exact List.forall_mem_cons.2 ⟨hfound, List.forall_mem_cons.2 ⟨trivial, by simp⟩⟩
  have hold : delete "e1" ["CORE", "core"] = Plan.request (.remove "e1" ["core"]) := by
    have hkeys : Key.ofValues ["CORE", "core"] = ["core"] := by decide +kernel
    rw [delete_of_ne_nil "e1" (by simp), hkeys]
  have hnew : add "e1" ["Sales", "SALES", "Core"] = Plan.request (.append "e1" ["sales", "core"]) := by
    have hkeys : Key.ofValues ["Sales", "SALES", "Core"] = ["sales", "core"] := by decide +kernel
    rw [add_of_ne_nil "e1" (by simp), hkeys]
  have hfollows : (perform respelledTeam).Follows told (Plan.request (.append "e1" ["sales", "core"])) := by
    refine .ask ?_
    change (delete "e1" ["CORE", "core"] >>= fun _ => add "e1" ["Sales", "SALES", "Core"]).Follows _ _
    rw [hold, hnew]
    exact .ask .nil
  exact ⟨htrue, hfollows, (((batches_of_performed respelledTeam (Staff.empty.insert anna)).1 told _ _ hfollows htrue).1
    _ _ rfl).2⟩

end Indexing

end StaffIndex
