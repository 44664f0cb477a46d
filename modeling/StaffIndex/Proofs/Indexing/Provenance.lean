import StaffIndex.Proofs.Indexing.Effect
import StaffIndex.Proofs.Service.Access
import StaffIndex.Search.Engine

/-!
# What may be filed

Let it be laid down which ids may be under which keys. A plan that files no other pairs keeps an index as allowed, with
whatever replies, and so does what is left of it when it waits at the gate (`Access.advance_of_filesOnly`).

Searches and deletions file nothing. A task files its employee under lowered values only (`perform_filesOnly`), and the
hooks ask for no task of an employee without an id (`created_filesOnly`, `edited_filesOnly`, `eq_delete_of_advance`).
-/

namespace StaffIndex

/-- Every id in the index may be where it is. -/
def Index.HoldsOnly (allowed : EmployeeId → String → Prop) (index : Index) : Prop :=
  ∀ key, ∀ id ∈ index.idsAt key, allowed id key

def Request.FilesOnly (allowed : EmployeeId → String → Prop) : Request → Prop
  | .append id keys => ∀ key ∈ keys, allowed id key
  | _ => True

/-- All requests of the plan, whatever it is replied. -/
def Plan.FilesOnly {ε α : Type} (allowed : EmployeeId → String → Prop) : Plan ε α → Prop
  | .done _ => True
  | .fail _ => True
  | .ask r next => r.FilesOnly allowed ∧ ∀ x, (next x).FilesOnly allowed

/-- What is left of the plan. -/
def Progress.FilesOnly {ε α : Type} (allowed : EmployeeId → String → Prop) : Progress ε α → Prop
  | .ended _ => True
  | .crashed => True
  | .waiting rest => rest.FilesOnly allowed

variable {allowed : EmployeeId → String → Prop} {id : EmployeeId} {values : List String} {task : Task}

/-! ## Plans -/

theorem Index.holdsOnly_empty : Index.empty.HoldsOnly allowed := fun key id h => by simp at h

theorem Plan.filesOnly_bind {ε α β : Type} {p : Plan ε α} {f : α → Plan ε β} (hp : p.FilesOnly allowed)
    (hf : ∀ a, (f a).FilesOnly allowed) : (p >>= f).FilesOnly allowed := by
  induction p with
  | done a => exact hf a
  | fail e => exact trivial
  | ask r next ih => exact ⟨hp.1, fun x => ih x (hp.2 x)⟩

/-- Where everything is allowed. -/
theorem Request.filesOnly_of_forall (h : ∀ id key, allowed id key) (r : Request) : r.FilesOnly allowed := by
  cases r with
  | append id keys => exact fun key _ => h id key
  | remove _ _ | lookup _ | similar _ _ | prefixed _ | summaries _ | values _ _ => exact trivial

theorem Plan.filesOnly_of_forall {ε α : Type} (h : ∀ id key, allowed id key) (p : Plan ε α) : p.FilesOnly allowed := by
  induction p with
  | done a => exact trivial
  | fail e => exact trivial
  | ask r next ih => exact ⟨r.filesOnly_of_forall h, ih⟩

/-- One request. Only an append files anything. -/
theorem Stores.holdsOnly_answer {s : Stores} {r : Request} (hs : s.index.HoldsOnly allowed)
    (hr : r.FilesOnly allowed) : (s.answer r).2.index.HoldsOnly allowed := by
  cases r with
  | append id keys =>
    intro key a ha
    rcases Index.mem_idsAt_append.1 ha with hold | ⟨rfl, hkey⟩
    · exact hs key a hold
    · exact hr key hkey
  | remove id keys => exact fun key a ha => hs key a (Index.mem_idsAt_remove.1 ha).1
  | lookup _ | similar _ _ | prefixed _ | summaries _ | values _ _ => exact hs

/-- **A plan that files only what is allowed**, as far as it gets. -/
theorem Access.advance_of_filesOnly {ε α : Type} [RaisedByStore ε] {a : Access} {p : Plan ε α}
    (ha : a.stores.index.HoldsOnly allowed) (hp : p.FilesOnly allowed) (admitted : Bool) :
    (a.advance admitted p).1.FilesOnly allowed ∧ (a.advance admitted p).2.stores.index.HoldsOnly allowed := by
  induction p generalizing a admitted with
  | done x => exact ⟨trivial, ha⟩
  | fail e => exact ⟨trivial, ha⟩
  | ask r next ih =>
    rw [advance]
    rcases hpass : (if admitted then some a else a.pass? r) with _ | b
    · exact ⟨hp, ha⟩
    · have hb : b.stores = a.stores := by
        split at hpass
        · cases hpass; rfl
        · exact (eq_of_pass? hpass).1
      rcases hanswer : b.answer r with ⟨x | e | _, c⟩
      · obtain ⟨-, -, rfl⟩ := reply_of_answer hanswer
        simp only [hanswer]
        exact ih x (Stores.holdsOnly_answer (hb ▸ ha) hp.1) (hp.2 x) false
      · obtain ⟨-, rfl⟩ := error_of_answer hanswer
        simp only [hanswer]
        exact ⟨trivial, hb ▸ ha⟩
      · obtain rfl := crash_of_answer hanswer
        simp only [hanswer]
        exact ⟨trivial, hb ▸ ha⟩

/-! ## Tasks -/

namespace Indexing

theorem add_filesOnly (h : ∀ text, allowed id (Key.ofText text)) : (add id values).FilesOnly allowed := by
  unfold add
  split
  · exact trivial
  · refine ⟨fun key hkey => ?_, fun _ => trivial⟩
    obtain ⟨v, -, rfl⟩ := Key.mem_ofValues.1 hkey
    exact h v

theorem delete_filesOnly : (delete id values).FilesOnly allowed := by
  unfold delete
  split
  · exact trivial
  · exact ⟨trivial, fun _ => trivial⟩

theorem edit_filesOnly {changed : List Field} (h : ∀ text, allowed id (Key.ofText text)) :
    (edit id changed values).FilesOnly allowed := by
  refine Plan.filesOnly_bind ⟨trivial, fun _ => trivial⟩ fun found => ?_
  cases found with
  | none => exact trivial
  | some old => exact Plan.filesOnly_bind delete_filesOnly fun _ => add_filesOnly h

/-- A task files its employee under lowered values. -/
theorem perform_filesOnly (h : ∀ text, allowed task.employeeId (Key.ofText text)) :
    (perform task).FilesOnly allowed := by
  cases task with
  | add id values => exact add_filesOnly h
  | delete id values => exact delete_filesOnly
  | edit id changed values => exact edit_filesOnly h

/-! ## Hooks -/

theorem created_filesOnly {e : Employee} {task? : Option Task} (h : ∀ id ≠ "", ∀ text, allowed id (Key.ofText text))
    (he : created e = .ok task?) (hmem : task ∈ task?) : (perform task).FilesOnly allowed := by
  by_cases hid : e.id = ""
  · rw [created_of_eq hid] at he
    cases he
  · rw [created_of_ne hid] at he
    cases he
    cases hmem
    exact perform_filesOnly (h e.id hid)

theorem edited_filesOnly {p : Patch} {task? : Option Task} (h : ∀ id ≠ "", ∀ text, allowed id (Key.ofText text))
    (he : edited id p = .ok task?) (hmem : task ∈ task?) : (perform task).FilesOnly allowed := by
  by_cases hid : id = ""
  · rw [edited_of_eq hid] at he
    cases he
  · rw [edited_of_ne hid] at he
    cases he
    obtain ⟨-, rfl⟩ : ¬ p.isEmpty ∧ .edit id p.changedFields p.values = task := by simpa using hmem
    exact perform_filesOnly (h id hid)

theorem deleted_filesOnly : (deleted id).FilesOnly allowed := by
  unfold deleted
  split
  · exact trivial
  · refine ⟨trivial, fun found => ?_⟩
    cases found <;> exact trivial

/-- The hook of a deletion asks for a deletion. -/
theorem eq_delete_of_advance {a b : Access} (h : a.advance false (deleted id) = (.ended (.ok task), b)) :
    ∃ values, task = .delete id values := by
  unfold deleted at h
  split at h
  · cases h
  · rw [Access.advance_bind] at h
    split at h
    · next found _ _ =>
      cases found with
      | none => cases h
      | some values =>
        cases h
        exact ⟨values, rfl⟩
    all_goals cases h

end Indexing

/-! ## Searches -/

namespace Search

theorem exact_filesOnly {query : String} : (exact query).FilesOnly allowed := by
  refine ⟨trivial, fun found => ?_⟩
  cases found with
  | none => exact trivial
  | some ids => exact ⟨trivial, fun _ => trivial⟩

theorem ranked_filesOnly {settings : Settings} {query : String} {limit : Nat} :
    (ranked settings query limit).FilesOnly allowed := by
  unfold ranked
  split
  · exact trivial
  · exact ⟨trivial, fun rows => ⟨trivial, fun _ => trivial⟩⟩

theorem lookupAll_filesOnly (keys : List String) : (lookupAll keys).FilesOnly allowed := by
  induction keys with
  | nil => exact trivial
  | cons key keys ih =>
    refine Plan.filesOnly_bind ⟨trivial, fun _ => trivial⟩ fun found => ?_
    cases found with
    | none => exact trivial
    | some ids => exact Plan.filesOnly_bind ih fun _ => trivial

theorem suggest_filesOnly {settings : Settings} {query : String} : (suggest settings query).FilesOnly allowed := by
  refine Plan.filesOnly_bind (lookupAll_filesOnly _) fun found => ?_
  cases found with
  | none => exact trivial
  | some exact => exact ⟨trivial, fun rows => ⟨trivial, fun _ => trivial⟩⟩

end Search

end StaffIndex
