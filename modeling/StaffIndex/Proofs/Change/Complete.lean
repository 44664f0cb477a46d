import Mathlib.Data.List.Induction
import StaffIndex.Proofs.Change.Current

/-!
# Lost entries

The index is complete if it has every stored employee under all of its keys.

- Creating and deleting employees keep the index complete (`Complete.create`, `Complete.delete`).
- An edit keeps it complete unless it loses a key: the changed fields had it, the patch does not bring it back, but a
  field that the patch leaves alone has it too (`Complete.edit_iff`). The task takes out all keys of the changed fields
  and does not look at the others.
- So everybody is found throughout a history of changes just if no edit in it loses a key (`findsEveryone_iff`).
-/

namespace StaffIndex

/-- An edit takes away a key that the employee still has afterwards. -/
def Change.Loses (staff : Staff) : Change → Prop
  | .edit id p => ∃ e, staff.find? id = some e ∧
      ∃ key ∈ Key.ofValues (e.valuesOf p.changedFields), key ∉ Key.ofValues p.values ∧ p.Keeps e key
  | _ => False

/-- Every stored employee is filed under all of its keys. -/
def Complete (s : Stores) : Prop :=
  ∀ id e, s.staff.find? id = some e → ∀ key, e.HasKey key → id ∈ s.index.idsAt key

namespace Complete

variable {s : Stores}

/-! ## One change -/

theorem create (h : Complete s) (e : Employee) : Complete (Change.effect s (.create e)) := by
  intro k e' hk key hkey
  rw [Change.find?_effect_create] at hk
  rw [Change.mem_idsAt_effect_create]
  split at hk
  · next heq => cases hk; exact .inr ⟨heq, hkey⟩
  · exact .inl (h k e' hk key hkey)

theorem delete (h : Complete s) {id : EmployeeId} {e : Employee} (he : s.staff.find? id = some e) :
    Complete (Change.effect s (.delete id)) := by
  intro k e' hk key hkey
  rw [Change.find?_effect_delete] at hk
  split at hk
  · cases hk
  · next hne => exact (Change.mem_idsAt_effect_delete he).2 ⟨h k e' hk key hkey, fun heq => absurd heq hne⟩

/-- An edited employee is still filed under the keys that the patch brings and those that were not taken out. -/
theorem mem_idsAt_edit (h : Complete s) {id : EmployeeId} {e : Employee} (he : s.staff.find? id = some e) {p : Patch}
    {key : String} (hk : (p.apply e).HasKey key) : id ∈ (Change.effect s (.edit id p)).index.idsAt key ↔
      key ∉ Key.ofValues (e.valuesOf p.changedFields) ∨ key ∈ Key.ofValues p.values := by
  rw [Change.mem_idsAt_effect_edit he]
  rcases Patch.hasKey_apply.1 hk with hv | hkept
  · simp [hv]
  · have hold : id ∈ s.index.idsAt key := h id e he key (Patch.hasKey_iff_changed_or_kept.2 (.inr hkept))
    simp [hold]

/-- An edit keeps the index complete just if it loses no key. -/
theorem edit_iff (h : Complete s) {id : EmployeeId} {e : Employee} (he : s.staff.find? id = some e) {p : Patch} :
    Complete (Change.effect s (.edit id p)) ↔ ¬ (Change.edit id p).Loses s.staff := by
  constructor
  · rintro hc ⟨e', he', key, hold, hnew, hkept⟩
    cases he.symm.trans he'
    have hk : (p.apply e).HasKey key := Patch.hasKey_apply.2 (.inr hkept)
    have hid := hc id (p.apply e) (by rw [Change.find?_effect_edit he, if_pos rfl]) key hk
    exact ((h.mem_idsAt_edit he hk).1 hid).elim (· hold) hnew
  · intro hl k e' hk key hkey
    rw [Change.find?_effect_edit he] at hk
    split at hk
    · next heq =>
      subst heq
      cases hk
      rw [h.mem_idsAt_edit he hkey]
      by_cases hnew : key ∈ Key.ofValues p.values
      · exact .inr hnew
      · have hkept : p.Keeps e key := (Patch.hasKey_apply.1 hkey).resolve_left hnew
        exact .inl fun hold => hl ⟨e, he, key, hold, hnew, hkept⟩
    · next hne => exact (Change.mem_idsAt_effect_edit he).2 (.inl ⟨h k e' hk key hkey, fun heq => absurd heq hne⟩)

/-- **One change.** It keeps the index complete just if it loses no key. -/
theorem effect_iff (h : Complete s) {c : Change} (hc : c.Allowed s.staff) :
    Complete (c.effect s) ↔ ¬ c.Loses s.staff := by
  cases c with
  | create e => exact iff_of_true (h.create e) fun hl => hl
  | edit id p => obtain ⟨-, e, he⟩ := hc; exact h.edit_iff he
  | delete id => obtain ⟨-, e, he⟩ := hc; exact iff_of_true (h.delete he) fun hl => hl

theorem empty : Complete .empty := fun _ _ h => (nomatch h)

end Complete

/-! ## Histories -/

namespace Service

variable {settings : Search.Settings} {changes : List Change}

/-- Every stored employee is in the row of each of its values, and whoever searches for the value finds it. -/
def FindsEveryone (s : Service) : Prop :=
  ∀ id e, s.staff.find? id = some e → ∀ v ∈ e.indexableValues,
    (∃ ids, s.index.find? (Key.ofText v) = some ids ∧ e.id ∈ ids) ∧
    ∀ query, Key.ofText query = Key.ofText v →
      ∃ found, s.step (.exact query) = (.employees found, s) ∧ e.summary ∈ found

/-- A service finds everyone just if its index is complete. -/
theorem findsEveryone_iff_complete {s : Service} (hs : s.Reachable) : s.FindsEveryone ↔ Complete s.stores := by
  obtain ⟨hi, hc⟩ := hs.current
  constructor
  · rintro h id e he key ⟨v, hv, rfl⟩
    obtain ⟨⟨ids, hrow, hid⟩, -⟩ := h id e he v hv
    rw [hc.keyed id e he] at hid
    rw [Index.idsAt, show s.stores.index.find? _ = _ from hrow]
    exact hid
  · intro h id e he v hv
    have hid : id ∈ s.index.idsAt (Key.ofText v) := h id e he _ ⟨v, hv, rfl⟩
    have hkeyed : e.id = id := hc.keyed id e he
    constructor
    · rw [Index.find?_eq_occupied?, Index.occupied?, if_neg (List.ne_nil_of_mem hid), hkeyed]
      exact ⟨_, rfl, hid⟩
    · intro query hq
      refine ⟨_, stepSearch_of_idle hi (Search.run_exact ..), ?_⟩
      rw [hq]
      exact Staff.mem_summaries.2 ⟨id, List.mem_eraseDups.2 hid, e, he, rfl⟩

theorem Allows.reachable (h : Allows { settings } changes) : (makeAll { settings } changes).Reachable :=
  ⟨settings, changes, h, rfl⟩

theorem Allows.of_prefix {s : Service} {done : List Change} (h : s.Allows changes) (hd : done <+: changes) :
    s.Allows done := by
  obtain ⟨rest, rfl⟩ := hd
  exact (allows_append.1 h).1

theorem makeAll_concat (s : Service) (done : List Change) (c : Change) :
    s.makeAll (done ++ [c]) = (s.makeAll done).make c := by
  simp [makeAll]

/-- What is left of a complete index after one more change. -/
theorem complete_concat_iff {done : List Change} {c : Change} (h : Allows { settings } (done ++ [c]))
    (hd : Complete (makeAll { settings } done).stores) :
    Complete (makeAll { settings } (done ++ [c])).stores ↔ ¬ c.Loses (makeAll { settings } done).staff := by
  obtain ⟨ha, hc, -⟩ := allows_append.1 h
  rw [makeAll_concat, stores_make ha.reachable.current.1 hc]
  exact hd.effect_iff hc

/-- **Who is found.** Throughout a history of changes everyone is found by each of its values, just if no edit in it
loses a key. -/
theorem findsEveryone_iff (h : Allows { settings } changes) :
    (∀ done, done <+: changes → (makeAll { settings } done).FindsEveryone) ↔
      ∀ done c, done ++ [c] <+: changes → ¬ c.Loses (makeAll { settings } done).staff := by
  have hiff {done : List Change} (hd : done <+: changes) :
      (makeAll { settings } done).FindsEveryone ↔ Complete (makeAll { settings } done).stores :=
    findsEveryone_iff_complete (h.of_prefix hd).reachable
  constructor
  · intro hall done c hp
    have hd : done <+: changes := (List.prefix_append done [c]).trans hp
    exact (complete_concat_iff (h.of_prefix hp) ((hiff hd).1 (hall done hd))).1 ((hiff hp).1 (hall _ hp))
  · intro hl done hd
    rw [hiff hd]
    induction done using List.reverseRecOn with
    | nil => exact Complete.empty
    | append_singleton done c ih =>
      exact (complete_concat_iff (h.of_prefix hd) (ih ((List.prefix_append done [c]).trans hd))).2 (hl done c hd)

/-- Ivan works in a team of his own name and then moves to another. -/
def moveOfNamesake : List Change :=
  [.create { id := "e1", name := "Ivan", surname := "Petrov", team := some "IVAN" }, .edit "e1" { team := some "Ops" }]

theorem findsEveryone_iff_moveOfNamesake : Allows {} moveOfNamesake ∧
    ¬ ∀ done, done <+: moveOfNamesake → (makeAll {} done).FindsEveryone := by
  have allowed : Allows {} moveOfNamesake := by decide +kernel
  refine ⟨allowed, fun hall => ?_⟩
  refine (findsEveryone_iff allowed).1 hall [_] _ (List.prefix_refl _)
    ⟨_, rfl, "ivan", ?_, ?_, .name, ?_, "Ivan", ?_, ?_⟩
  all_goals decide +kernel

/-- A history of changes can leave an employee that cannot be found by its name. -/
theorem not_always_findsEveryone : ¬ ∀ settings changes, Allows { settings } changes →
    ∀ done, done <+: changes → (makeAll { settings } done).FindsEveryone := by
  intro hall
  have hf := hall {} moveOfNamesake (by decide +kernel) moveOfNamesake (List.prefix_refl _)
  have hstored : (makeAll {} moveOfNamesake).staff.find? "e1" =
      some { id := "e1", name := "Ivan", surname := "Petrov", team := some "Ops" } := by decide +kernel
  obtain ⟨⟨ids, hrow, -⟩, -⟩ := hf "e1" _ hstored "Ivan" (by decide)
  have hlost : (makeAll {} moveOfNamesake).index.find? (Key.ofText "Ivan") = none := by decide +kernel
  cases hlost.symm.trans hrow

end Service

end StaffIndex
