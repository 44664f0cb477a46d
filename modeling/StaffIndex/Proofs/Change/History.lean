import StaffIndex.Proofs.Change.Effect
import StaffIndex.Proofs.Service.Idle

/-!
# Histories of changes

`make` carries out a change by the commands of a caller: it tells the index through the hooks and waits until the index
has followed. On an idle service this comes to what the effect says of the stores, and the service is idle again
(`make_of_idle`), so what every effect keeps is kept by every history of changes (`makeAll_induction`).
-/

namespace StaffIndex

namespace Service

variable {s : Service} {c : Change}

def make (s : Service) (c : Change) : Service := (s.run c.commands).2

def makeAll (s : Service) (changes : List Change) : Service := changes.foldl make s

/-- Each of the changes is allowed where it is made. -/
def Allows (s : Service) : List Change → Prop
  | [] => True
  | c :: cs => c.Allowed s.staff ∧ (s.make c).Allows cs

instance (s : Service) : (changes : List Change) → Decidable (s.Allows changes)
  | [] => .isTrue trivial
  | c :: cs =>
    have : Decidable ((s.make c).Allows cs) := instDecidableAllows (s.make c) cs
    inferInstanceAs (Decidable (c.Allowed s.staff ∧ (s.make c).Allows cs))

/-! ## Single changes -/

theorem make_create (hs : s.Idle) {e : Employee} (h : e.id ≠ "") :
    ∃ queue, s.make (.create e) = { s.setStores (Change.effect s.stores (.create e)) with queue } := by
  have hs' : (s.setStaff (s.staff.insert e)).Idle := hs.setStores _
  simp only [make, Change.commands, run, step, employeeCreated, Indexing.created_of_ne h, submit?, settle_submit hs',
    Indexing.perform, Indexing.run_add]
  exact ⟨_, rfl⟩

theorem settle_employeeEdited (hs : s.Idle) {id : EmployeeId} (h : id ≠ "") {e : Employee}
    (he : s.staff.find? id = some e) (p : Patch) : ∃ queue, (s.employeeEdited id p).2.settle =
      { s.setStores ⟨(s.index.remove id (Key.ofValues (e.valuesOf p.changedFields))).append id (Key.ofValues p.values),
        s.staff⟩ with queue } := by
  unfold employeeEdited
  rw [Indexing.edited_of_ne h]
  by_cases hp : p.isEmpty
  · obtain ⟨hc, hv⟩ := p.eq_nil_of_isEmpty hp
    simp only [hp, ↓reduceIte, submit?, settle_of_idle hs, hc, hv]
    exact ⟨s.queue, rfl⟩
  · have hv : s.stores.staff.values? id p.changedFields = some (e.valuesOf p.changedFields) := by
      rw [Staff.values?, show s.stores.staff.find? id = some e from he]; rfl
    simp only [hp, submit?, Bool.false_eq_true, ↓reduceIte, settle_submit hs, Indexing.perform, Indexing.run_edit, hv]
    exact ⟨_, rfl⟩

theorem make_edit (hs : s.Idle) {id : EmployeeId} (h : id ≠ "") {e : Employee} (he : s.staff.find? id = some e)
    (p : Patch) : ∃ queue, s.make (.edit id p) = { s.setStores (Change.effect s.stores (.edit id p)) with queue } := by
  obtain ⟨queue, hq⟩ := settle_employeeEdited hs h he p
  have hu : (s.employeeEdited id p).2.settle.staff.update id p = .ok ⟨s.staff.records.insert id (p.apply e)⟩ := by
    rw [hq]
    exact Staff.update_of_find? he p
  simp only [make, Change.commands, run, step, hu]
  rw [hq]
  refine ⟨queue, ?_⟩
  simp only [Change.effect, show s.stores.staff.find? id = some e from he]
  rfl

theorem setStaff_submit (s : Service) (task : Task) (staff : Staff) :
    (s.submit task).setStaff staff = (s.setStaff staff).submit task := by
  unfold submit setStaff
  split <;> rfl

theorem staff_submit (s : Service) (task : Task) : (s.submit task).staff = s.staff := by
  unfold submit
  split <;> rfl

theorem make_delete (hs : s.Idle) {id : EmployeeId} (h : id ≠ "") {e : Employee} (he : s.staff.find? id = some e) :
    ∃ queue, s.make (.delete id) = { s.setStores (Change.effect s.stores (.delete id)) with queue } := by
  have hs' : (s.setStaff (s.staff.erase id)).Idle := hs.setStores _
  simp only [make, Change.commands, run, step, employeeDeleted_of_open hs.access h he, setStaff_submit, staff_submit,
    settle_submit hs', Indexing.perform, Indexing.run_delete, Change.effect,
    show s.stores.staff.find? id = some e from he]
  exact ⟨_, rfl⟩

/-- **A change on an idle service.** It does to the stores what the effect says, and leaves the service idle. -/
theorem make_of_idle (hs : s.Idle) (hc : c.Allowed s.staff) :
    ∃ queue, s.make c = { s.setStores (c.effect s.stores) with queue } := by
  cases c with
  | create e => exact make_create hs hc.1
  | edit id p => obtain ⟨h, e, he⟩ := hc; exact make_edit hs h he p
  | delete id => obtain ⟨h, e, he⟩ := hc; exact make_delete hs h he

theorem Idle.make (hs : s.Idle) (hc : c.Allowed s.staff) : (s.make c).Idle := by
  obtain ⟨queue, h⟩ := make_of_idle hs hc
  rw [h]
  exact (hs.setStores _).setQueue queue

theorem stores_make (hs : s.Idle) (hc : c.Allowed s.staff) : (s.make c).stores = c.effect s.stores := by
  obtain ⟨queue, h⟩ := make_of_idle hs hc
  rw [h]
  rfl

/-! ## Histories -/

theorem allows_append {cs ds : List Change} : s.Allows (cs ++ ds) ↔ s.Allows cs ∧ (s.makeAll cs).Allows ds := by
  induction cs generalizing s with
  | nil => simp [Allows, makeAll]
  | cons c cs ih => simp [Allows, makeAll, ih, and_assoc]

/-- What the stores are like at first and what every change keeps holds of the stores after any history. -/
theorem makeAll_induction {P : Stores → Prop} (hs : s.Idle) (h : P s.stores)
    (step : ∀ (t : Stores) (c : Change), c.Allowed t.staff → P t → P (c.effect t)) {changes : List Change}
    (hc : s.Allows changes) :
    (s.makeAll changes).Idle ∧ P (s.makeAll changes).stores := by
  induction changes generalizing s with
  | nil => exact ⟨hs, h⟩
  | cons c cs ih =>
    refine ih (hs.make hc.1) ?_ hc.2
    rw [stores_make hs hc.1]
    exact step _ c hc.1 h

end Service

end StaffIndex
