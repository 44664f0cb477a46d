import StaffIndex.Proofs.Change.History
import StaffIndex.Proofs.Search.Answers
import StaffIndex.Proofs.Search.Weights

/-!
# No stale entries

An index is current if every id in it is that of a stored employee who has the key.

- Every change keeps the index current (`Current.effect`): what it takes out of the index covers the keys that the
  employee loses, and what it files are keys that the employee has.
- So no history of changes leaves an id behind, and no search shows an employee for a value that is gone
  (`current_of_reachable`).
-/

namespace StaffIndex

/-- Employees are stored under their ids, and the index has nobody under a key of somebody else. -/
structure Current (s : Stores) : Prop where
  keyed : ∀ id e, s.staff.find? id = some e → e.id = id
  current : ∀ key, ∀ id ∈ s.index.idsAt key, ∃ e, s.staff.find? id = some e ∧ e.HasKey key

namespace Current

variable {s : Stores}

/-! ## One change -/

theorem create (h : Current s) {e : Employee} (hn : s.staff.find? e.id = none) :
    Current (Change.effect s (.create e)) where
  keyed k e' hk := by
    rw [Change.find?_effect_create] at hk
    split at hk
    · next heq => cases hk; exact heq.symm
    · exact h.keyed k e' hk
  current key k hk := by
    rw [Change.find?_effect_create]
    rcases Change.mem_idsAt_effect_create.1 hk with hold | ⟨rfl, hkey⟩
    · obtain ⟨e', he, hkey⟩ := h.current key k hold
      have hne : k ≠ e.id := by rintro rfl; cases hn.symm.trans he
      exact ⟨e', by rw [if_neg hne, he], hkey⟩
    · exact ⟨e, if_pos rfl, hkey⟩

theorem edit (h : Current s) {id : EmployeeId} {e : Employee} (he : s.staff.find? id = some e) (p : Patch) :
    Current (Change.effect s (.edit id p)) where
  keyed k e' hk := by
    rw [Change.find?_effect_edit he] at hk
    split at hk
    · next heq => cases hk; rw [heq, Patch.id_apply, h.keyed id e he]
    · exact h.keyed k e' hk
  current key k hk := by
    rw [Change.find?_effect_edit he]
    rcases (Change.mem_idsAt_effect_edit he).1 hk with ⟨hold, hgone⟩ | ⟨rfl, hnew⟩
    · obtain ⟨e', he', hkey⟩ := h.current key k hold
      by_cases heq : k = id
      · -- The employee had the key before, and not in a changed field, so one of the other fields keeps it.
        subst heq
        cases he.symm.trans he'
        have hkept : p.Keeps e key := (Patch.hasKey_iff_changed_or_kept.1 hkey).resolve_left (hgone rfl)
        exact ⟨p.apply e, if_pos rfl, Patch.hasKey_apply.2 (.inr hkept)⟩
      · exact ⟨e', by rw [if_neg heq, he'], hkey⟩
    · exact ⟨p.apply e, if_pos rfl, Patch.hasKey_apply.2 (.inl hnew)⟩

theorem delete (h : Current s) {id : EmployeeId} {e : Employee} (he : s.staff.find? id = some e) :
    Current (Change.effect s (.delete id)) where
  keyed k e' hk := by
    rw [Change.find?_effect_delete] at hk
    split at hk
    · cases hk
    · exact h.keyed k e' hk
  current key k hk := by
    obtain ⟨hold, hgone⟩ := (Change.mem_idsAt_effect_delete he).1 hk
    obtain ⟨e', he', hkey⟩ := h.current key k hold
    have hne : k ≠ id := by
      rintro rfl
      cases he.symm.trans he'
      exact hgone rfl hkey
    exact ⟨e', by rw [Change.find?_effect_delete, if_neg hne, he'], hkey⟩

/-- **A change keeps the index current.** -/
theorem effect (h : Current s) {c : Change} (hc : c.Allowed s.staff) : Current (c.effect s) := by
  cases c with
  | create e => exact h.create hc.2
  | edit id p => obtain ⟨-, e, he⟩ := hc; exact h.edit he p
  | delete id => obtain ⟨-, e, he⟩ := hc; exact h.delete he

theorem empty : Current .empty := ⟨fun _ _ h => (nomatch h), fun _ _ h => (nomatch h)⟩

/-! ## Rows -/

theorem mem_row (h : Current s) {row : Row} (hr : row ∈ s.index.toRows) {id : EmployeeId} (hid : id ∈ row.ids) :
    ∃ e, s.staff.find? id = some e ∧ e.HasKey row.key :=
  h.current row.key id (by rwa [Index.idsAt_of_mem_toRows hr])

/-- Who is not stored is in no row. -/
theorem not_mem_row (h : Current s) {id : EmployeeId} (hn : s.staff.find? id = none) {row : Row}
    (hr : row ∈ s.index.toRows) : id ∉ row.ids := by
  intro hid
  obtain ⟨e, he, -⟩ := h.mem_row hr hid
  cases hn.symm.trans he

end Current

/-! ## Searches -/

namespace Service

/-- The command is answered by summaries of stored employees with the property, and changes nothing. -/
def ShowsOnly (s : Service) (c : Command) (p : Employee → Prop) : Prop :=
  ∃ found, s.step c = (.employees found, s) ∧ ∀ x ∈ found, ∃ e, s.staff.find? x.id = some e ∧ e.summary = x ∧ p e

variable {s : Service} {p : Employee → Prop}

theorem stepSearch_of_idle (hs : s.Idle) {plan : Plan SearchError (List Summary)} {found : List Summary}
    (hr : s.stores.run plan = (.ok found, s.stores)) : s.stepSearch plan = (.employees found, s) := by
  rw [stepSearch, call_of_idle hs, hr]
  rfl

/-- The summaries of ids whose employees have the property show only such employees. -/
theorem mem_summaries_of_current (h : Current s.stores) {ids : List EmployeeId}
    (hp : ∀ id ∈ ids, ∀ e, s.staff.find? id = some e → p e) :
    ∀ x ∈ s.staff.summaries ids, ∃ e, s.staff.find? x.id = some e ∧ e.summary = x ∧ p e := by
  intro x hx
  obtain ⟨id, hid, e, he, rfl⟩ := Staff.mem_summaries.1 hx
  exact ⟨e, by rw [← h.keyed id e he] at he; exact he, rfl, hp id hid e he⟩

theorem showsOnly_exact (hs : s.Idle) (h : Current s.stores) (query : String) :
    s.ShowsOnly (.exact query) (·.HasKey (Key.ofText query)) := by
  refine ⟨_, stepSearch_of_idle hs (Search.run_exact ..), mem_summaries_of_current h fun id hid e he => ?_⟩
  obtain ⟨e', he', hk⟩ := h.current _ id (List.mem_eraseDups.1 hid)
  cases he.symm.trans he'
  exact hk

theorem showsOnly_suggest (hs : s.Idle) (h : Current s.stores) (query : String) :
    s.ShowsOnly (.suggest query) fun e => (∀ token ∈ (Key.tokens query).dropLast, e.HasKey token) ∧
      ∃ key, ((Key.tokens query).getLast?.getD "").toList <+: key.toList ∧ e.HasKey key := by
  refine ⟨_, stepSearch_of_idle hs (Search.run_suggest ..), mem_summaries_of_current h fun id hid e he => ?_⟩
  obtain ⟨⟨row, hrow, hid⟩, hall⟩ := Search.mem_suggestions hid
  obtain ⟨hr, hprefix⟩ := Search.mem_prefixed.1 hrow
  constructor
  · intro token ht
    obtain ⟨e', he', hk⟩ := h.current token id (hall _ (List.mem_map_of_mem ht))
    cases he.symm.trans he'
    exact hk
  · obtain ⟨e', he', hk⟩ := h.mem_row hr hid
    cases he.symm.trans he'
    exact ⟨row.key, hprefix, hk⟩

theorem showsOnly_ranked (hs : s.Idle) (h : Current s.stores) (query : String) {limit : Nat} (hl : limit ≠ 0) :
    s.ShowsOnly (.ranked query limit) fun e => ∃ token ∈ Key.tokens query, ∃ key,
      Text.similarity token key > s.settings.threshold ∧ e.HasKey key := by
  refine ⟨_, stepSearch_of_idle hs (Search.run_ranked _ _ _ hl), mem_summaries_of_current h fun id hid e he => ?_⟩
  obtain ⟨row, hrow, hid⟩ := Search.occurs_of_mem_rank hid
  obtain ⟨r, hr, token, ht, hsim, rfl⟩ := Search.mem_similar.1 hrow
  obtain ⟨e', he', hk⟩ := h.mem_row hr hid
  cases he.symm.trans he'
  exact ⟨token, ht, r.key, hsim, hk⟩

/-! ## Histories -/

/-- The service has come from empty stores by allowed changes, and each has been followed by the index. -/
def Reachable (s : Service) : Prop := ∃ settings changes, Allows { settings } changes ∧ makeAll { settings } changes = s

theorem Reachable.current (h : s.Reachable) : s.Idle ∧ Current s.stores := by
  obtain ⟨settings, changes, ha, rfl⟩ := h
  exact makeAll_induction (idle_new settings) Current.empty (fun _ _ hc h => h.effect hc) ha

/-- **Nothing stale.** After any history of changes no row is empty, every id in a row is that of a stored employee one
of whose values has the key, the id of a deleted employee is in no row, and searches show an employee only for values
that it has. -/
theorem current_of_reachable (h : s.Reachable) :
    (∀ row ∈ s.index.toRows, row.ids ≠ [] ∧ ∀ id ∈ row.ids, ∃ e, s.staff.find? id = some e ∧ e.id = id ∧
      ∃ v ∈ e.indexableValues, Key.ofText v = row.key) ∧
    (∀ id, (Change.delete id).Allowed s.staff → ∀ row ∈ (s.make (.delete id)).index.toRows, id ∉ row.ids) ∧
    ∀ query,
      s.ShowsOnly (.exact query) (·.HasKey (Key.ofText query)) ∧
      s.ShowsOnly (.suggest query) (fun e => (∀ token ∈ (Key.tokens query).dropLast, e.HasKey token) ∧
        ∃ key, ((Key.tokens query).getLast?.getD "").toList <+: key.toList ∧ e.HasKey key) ∧
      ∀ limit, limit ≠ 0 → s.ShowsOnly (.ranked query limit) fun e => ∃ token ∈ Key.tokens query, ∃ key,
        Text.similarity token key > s.settings.threshold ∧ e.HasKey key := by
  obtain ⟨hi, hc⟩ := h.current
  refine ⟨fun row hr => ⟨?_, fun id hid => ?_⟩, fun id hd row hr => ?_, fun query => ?_⟩
  · exact s.index.occupied row.key row.ids (Index.mem_toRows.1 hr)
  · obtain ⟨e, he, hk⟩ := hc.mem_row hr hid
    exact ⟨e, he, hc.keyed id e he, hk⟩
  · have hrow : row ∈ (Change.effect s.stores (.delete id)).index.toRows := by
      rw [← stores_make hi hd]
      exact hr
    exact (hc.effect hd).not_mem_row (by rw [Change.find?_effect_delete, if_pos rfl]) hrow
  · exact ⟨showsOnly_exact hi hc query, showsOnly_suggest hi hc query, fun _ hl => showsOnly_ranked hi hc query hl⟩

/-- Two employees are taken on in one team; one moves to another and gives up its phone, and the other leaves. -/
def staffTurnover : List Change :=
  [.create { id := "e1", name := "Anna", surname := "Orlova", team := some "Core", phones := ["+7"] },
    .create { id := "e2", name := "Boris", surname := "Orlov", team := some "CORE" },
    .edit "e1" { team := some "Sales", phones := some [] }, .delete "e2"]

theorem current_of_reachable_staffTurnover : (makeAll {} staffTurnover).Reachable ∧
    (makeAll {} staffTurnover).index.toRows.map (·.key) = ["anna", "orlova", "sales"] ∧
    ∀ row ∈ (makeAll {} staffTurnover).index.toRows, ∀ id ∈ row.ids, ∃ e,
      (makeAll {} staffTurnover).staff.find? id = some e ∧ ∃ v ∈ e.indexableValues, Key.ofText v = row.key := by
  have hr : (makeAll {} staffTurnover).Reachable := ⟨{}, staffTurnover, by decide +kernel, rfl⟩
  refine ⟨hr, by decide +kernel, fun row hrow id hid => ?_⟩
  obtain ⟨e, he, -, hv⟩ := ((current_of_reachable hr).1 row hrow).2 id hid
  exact ⟨e, he, hv⟩

end Service

end StaffIndex
