import StaffIndex.Indexing.Tasks
import StaffIndex.Stores

/-!
# What a task has to do with other employees

A task only asks about its own employee, and looks at the record only if it edits (`perform_onlyFor`).

- So it matters to a task only how often its employee is under each key, and what its record is. Two pairs of stores
  that agree on that give it the same replies, and agree on it afterwards (`run_of_agreeOn`).
- What is asked about one employee does not matter to any other (`agreeOn_answer_of_ne`).
-/

namespace StaffIndex

variable {edited : EmployeeId → Prop} {id : EmployeeId}

/-- The request is about one employee, and about its record only if it is one of the edited. -/
def Request.OnlyFor (edited : EmployeeId → Prop) (id : EmployeeId) : Request → Prop
  | .append i _ => i = id
  | .remove i _ => i = id
  | .values i _ => i = id ∧ edited id
  | _ => False

/-- All requests of the plan are. -/
def Plan.OnlyFor {ε α : Type} (edited : EmployeeId → Prop) (id : EmployeeId) : Plan ε α → Prop
  | .done _ => True
  | .fail _ => True
  | .ask r next => r.OnlyFor edited id ∧ ∀ x, (next x).OnlyFor edited id

/-- The two look the same to a task of the employee. Where its id stands in a row does not matter. -/
structure Stores.AgreeOn (edited : EmployeeId → Prop) (id : EmployeeId) (s t : Stores) : Prop where
  count : ∀ key, (s.index.idsAt key).count id = (t.index.idsAt key).count id
  find? : edited id → s.staff.find? id = t.staff.find? id

/-! ## Rows -/

namespace Index

theorem count_idsAt_append (index : Index) (i a : EmployeeId) (keys : List String) (key : String) :
    ((index.append i keys).idsAt key).count a = (index.idsAt key).count a + if i = a then keys.count key else 0 := by
  rw [idsAt_append, List.count_append, List.count_replicate]
  by_cases h : i = a <;> simp [h]

theorem count_idsAt_remove (index : Index) (i a : EmployeeId) (keys : List String) (key : String) :
    ((index.remove i keys).idsAt key).count a = if i = a ∧ key ∈ keys then 0 else (index.idsAt key).count a := by
  rw [idsAt_remove]
  by_cases hk : key ∈ keys
  · by_cases h : i = a
    · subst h
      have hgone : i ∉ (index.idsAt key).filter (· ≠ i) := by simp
      rw [if_pos hk, if_pos ⟨rfl, hk⟩, List.count_eq_zero.2 hgone]
    · rw [if_pos hk, if_neg fun hh => h hh.1]
      exact List.count_filter (by simpa using Ne.symm h)
  · simp [hk]

end Index

/-! ## Requests -/

namespace Stores

variable {s t u : Stores}

theorem AgreeOn.refl (s : Stores) : AgreeOn edited id s s := ⟨fun _ => rfl, fun _ => rfl⟩

theorem AgreeOn.symm (h : AgreeOn edited id s t) : AgreeOn edited id t s :=
  ⟨fun key => (h.count key).symm, fun he => (h.find? he).symm⟩

theorem AgreeOn.trans (h : AgreeOn edited id s t) (h' : AgreeOn edited id t u) : AgreeOn edited id s u :=
  ⟨fun key => (h.count key).trans (h'.count key), fun he => (h.find? he).trans (h'.find? he)⟩

/-- The same request to stores that agree on its employee. -/
theorem answer_of_agreeOn {r : Request} (hr : r.OnlyFor edited id) (h : AgreeOn edited id s t) :
    (s.answer r).1 = (t.answer r).1 ∧ AgreeOn edited id (s.answer r).2 (t.answer r).2 := by
  cases r with
  | append i keys =>
    refine ⟨rfl, fun key => ?_, h.find?⟩
    rw [answer, answer, Index.count_idsAt_append, Index.count_idsAt_append, h.count]
  | remove i keys =>
    refine ⟨rfl, fun key => ?_, h.find?⟩
    rw [answer, answer, Index.count_idsAt_remove, Index.count_idsAt_remove, h.count]
  | values i fields =>
    obtain ⟨rfl, he⟩ := hr
    refine ⟨?_, h⟩
    rw [answer, answer, Staff.values?, Staff.values?, h.find? he]
  | lookup _ | similar _ _ | prefixed _ | summaries _ => cases hr

/-- A request about another employee. -/
theorem agreeOn_answer_of_ne {i : EmployeeId} {r : Request} (hr : r.OnlyFor edited i) (hne : i ≠ id) (s : Stores) :
    AgreeOn edited id s (s.answer r).2 := by
  cases r with
  | append j keys =>
    obtain rfl : j = i := hr
    refine ⟨fun key => ?_, fun _ => rfl⟩
    rw [answer, Index.count_idsAt_append, if_neg hne, Nat.add_zero]
  | remove j keys =>
    obtain rfl : j = i := hr
    refine ⟨fun key => ?_, fun _ => rfl⟩
    rw [answer, Index.count_idsAt_remove, if_neg fun h => hne h.1]
  | values j fields => exact .refl s
  | lookup _ | similar _ _ | prefixed _ | summaries _ => cases hr

/-! ## Plans -/

variable {ε α : Type} {p : Plan ε α}

/-- **The same plan on stores that agree on its employee.** -/
theorem run_of_agreeOn (hp : p.OnlyFor edited id) (h : AgreeOn edited id s t) :
    (s.run p).1 = (t.run p).1 ∧ AgreeOn edited id (s.run p).2 (t.run p).2 := by
  induction p generalizing s t with
  | done a => exact ⟨rfl, h⟩
  | fail e => exact ⟨rfl, h⟩
  | ask r next ih =>
    obtain ⟨hx, hs⟩ := answer_of_agreeOn hp.1 h
    rw [run_ask, run_ask, hx]
    exact ih _ (hp.2 _) hs

end Stores

/-! ## Tasks -/

namespace Indexing

theorem add_onlyFor (id : EmployeeId) (values : List String) : (add id values).OnlyFor edited id := by
  unfold add
  split
  · exact trivial
  · exact ⟨rfl, fun _ => trivial⟩

theorem delete_onlyFor (id : EmployeeId) (values : List String) : (delete id values).OnlyFor edited id := by
  unfold delete
  split
  · exact trivial
  · exact ⟨rfl, fun _ => trivial⟩

theorem bind_onlyFor {ε α β : Type} {p : Plan ε α} {f : α → Plan ε β} (hp : p.OnlyFor edited id)
    (hf : ∀ a, (f a).OnlyFor edited id) : (p >>= f).OnlyFor edited id := by
  induction p with
  | done a => exact hf a
  | fail e => exact trivial
  | ask r next ih => exact ⟨hp.1, fun x => ih x (hp.2 x)⟩

/-- A task only asks about its own employee. -/
theorem perform_onlyFor {task : Task} (h : ∀ id changed values, task = .edit id changed values → edited id) :
    (perform task).OnlyFor edited task.employeeId := by
  cases task with
  | add id values => exact add_onlyFor id values
  | delete id values => exact delete_onlyFor id values
  | edit id changed values =>
    refine bind_onlyFor ⟨⟨rfl, h id changed values rfl⟩, fun _ => trivial⟩ fun found => ?_
    cases found with
    | none => exact trivial
    | some old => exact bind_onlyFor (delete_onlyFor id old) fun _ => add_onlyFor id values

end Indexing

end StaffIndex
