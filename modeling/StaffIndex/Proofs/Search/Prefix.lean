import StaffIndex.Proofs.Change.Current
import StaffIndex.Proofs.Search.Suggested
import StaffIndex.Proofs.Text.FinalSigma

/-!
# Typing the beginning of a value

A service that has taken on one employee has it under its own keys only (`mem_idsAt_make_create`), so a word finds it
just if one of them begins with the key of the word (`suggests_make_create`). Whether the beginning of a value is enough
depends on the cut alone (`suggest_typed_prefix`), and `not_suggest_typed_prefix` has a cut that parts a sigma.
-/

namespace StaffIndex.Service

open Search Text

variable {settings : Settings} {e : Employee}

/-! ## One employee -/

theorem stores_make_create (hid : e.id ≠ "") :
    (make { settings } (.create e)).stores = Change.effect .empty (.create e) := by
  have hallowed : (Change.create e).Allowed (Service.staff { settings }) := ⟨hid, rfl⟩
  exact stores_make (idle_new settings) hallowed

theorem mem_idsAt_make_create (hid : e.id ≠ "") {key : String} {id : EmployeeId} :
    id ∈ (make { settings } (.create e)).index.idsAt key ↔ id = e.id ∧ e.HasKey key := by
  have hindex : (make { settings } (.create e)).index = (Change.effect .empty (.create e)).index :=
    congrArg Stores.index (stores_make_create hid)
  have hnone : id ∉ Stores.empty.index.idsAt key := List.not_mem_nil
  rw [hindex, Change.mem_idsAt_effect_create]
  exact or_iff_right hnone

theorem find?_make_create (hid : e.id ≠ "") : (make { settings } (.create e)).staff.find? e.id = some e := by
  have hstaff : (make { settings } (.create e)).staff = (Change.effect .empty (.create e)).staff :=
    congrArg Stores.staff (stores_make_create hid)
  rw [hstaff, Change.find?_effect_create, if_pos rfl]

theorem suggests_make_create (hid : e.id ≠ "") {start : String} (hs : ' ' ∉ start.toList) {id : EmployeeId} :
    Suggests (make { settings } (.create e)).index (Key.tokens start) id ↔
      id = e.id ∧ ∃ key, e.HasKey key ∧ (Key.ofText start).toList <+: key.toList := by
  rw [Key.tokens_eq_singleton hs]
  constructor
  · rintro ⟨⟨key, hstart, hfiled⟩, -⟩
    obtain ⟨heq, hkey⟩ := (mem_idsAt_make_create hid).1 hfiled
    exact ⟨heq, key, hkey, hstart⟩
  · rintro ⟨heq, key, hkey, hstart⟩
    exact ⟨⟨key, hstart, (mem_idsAt_make_create hid).2 ⟨heq, hkey⟩⟩, fun _ h => nomatch h⟩

theorem settings_make_create (hid : e.id ≠ "") : (make { settings } (.create e)).settings = settings := by
  obtain ⟨queue, hmake⟩ := make_create (idle_new settings) hid
  rw [hmake]
  rfl

/-- Nobody else can take the place of the employee among the suggestions. -/
theorem mem_take_of_forall_eq {ids : List EmployeeId} {id : EmployeeId} {n : Nat} (hn : n ≠ 0)
    (hall : ∀ k ∈ ids, k = id) (hid : id ∈ ids) : id ∈ ids.take n := by
  obtain ⟨k, rest, rfl⟩ := List.exists_cons_of_ne_nil (List.ne_nil_of_mem hid)
  obtain ⟨m, rfl⟩ := Nat.exists_eq_succ_of_ne_zero hn
  rw [List.take_succ_cons, hall k (.head _)]
  exact .head _

theorem step_suggest_make_create (hlimit : settings.suggestLimit ≠ 0) (hid : e.id ≠ "") {start : String}
    (hs : ' ' ∉ start.toList) : ∃ found,
      (make { settings } (.create e)).step (.suggest start) = (.employees found, make { settings } (.create e)) ∧
      (e.summary ∈ found ↔ ∃ key, e.HasKey key ∧ (Key.ofText start).toList <+: key.toList) := by
  have hidle : (make { settings } (.create e)).Idle := (idle_new settings).make ⟨hid, rfl⟩
  refine ⟨_, stepSearch_of_idle hidle (run_suggest_candidatesOf ..), ?_⟩
  rw [settings_make_create hid]
  have hfit (id : EmployeeId) := mem_candidatesOf.trans (@suggests_make_create settings e hid start hs id)
  constructor
  · intro hx
    obtain ⟨id, hmem, -⟩ := Staff.mem_summaries.1 hx
    exact ((hfit id).1 (List.mem_of_mem_take hmem)).2
  · intro hkey
    have hmem := mem_take_of_forall_eq hlimit (fun k hk => ((hfit k).1 hk).1) ((hfit e.id).2 ⟨rfl, hkey⟩)
    exact Staff.mem_summaries.2 ⟨e.id, hmem, e, find?_make_create hid, rfl⟩

/-! ## The beginning of a value -/

/-- **Typing the beginning of a value.** A new employee is suggested for a word just if one of its keys begins with the
key of the word; and the key of the beginning of a value begins the key of the value, so that the employee is suggested
for it, unless the cut parts a sigma. -/
theorem suggest_typed_prefix :
    (∀ (settings : Settings) (e : Employee) (v start : String) (rest : List Char), settings.suggestLimit ≠ 0 →
      e.id ≠ "" → v ∈ e.indexableValues → v.toList = start.toList ++ rest → ' ' ∉ start.toList →
      ∃ found,
        (make { settings } (.create e)).step (.suggest start) = (.employees found, make { settings } (.create e)) ∧
        (e.summary ∈ found ↔ ∃ key, e.HasKey key ∧ (Key.ofText start).toList <+: key.toList) ∧
        (¬ PartsSigma start.toList rest → e.summary ∈ found)) ∧
    ∀ (v start : String) (rest : List Char), v.toList = start.toList ++ rest →
      ((Key.ofText start).toList <+: (Key.ofText v).toList ↔ ¬ PartsSigma start.toList rest) := by
  refine ⟨fun settings e v start rest hlimit hid hv hcut hs => ?_, fun v start rest hcut => ofText_prefix_iff hcut⟩
  obtain ⟨found, hstep, hfound⟩ := step_suggest_make_create hlimit hid hs
  refine ⟨found, hstep, hfound, fun hwhole => hfound.2 ?_⟩
  exact ⟨Key.ofText v, ⟨v, hv, rfl⟩, (ofText_prefix_iff hcut).2 hwhole⟩

/-- An employee with one sigma within his name and one at its end. -/
def kosmas : Employee := { id := "e1", name := "ΚΟΣΜΑΣ", surname := "Orlov" }

/-- He is suggested as soon as the letter after the first sigma is typed. -/
theorem suggest_typed_prefix_kosmas : ∃ found,
    (make {} (.create kosmas)).step (.suggest "ΚΟΣΜ") = (.employees found, make {} (.create kosmas)) ∧
    kosmas.summary ∈ found := by
  have hcut : ¬ PartsSigma "ΚΟΣΜ".toList "ΑΣ".toList := by decide +kernel
  obtain ⟨found, hstep, -, hfound⟩ := suggest_typed_prefix.1 {} kosmas "ΚΟΣΜΑΣ" "ΚΟΣΜ" "ΑΣ".toList (by decide)
    (by decide) (by decide) (by decide) (by decide)
  exact ⟨found, hstep, hfound hcut⟩

/-- Not every beginning of a value is enough, as lower-casing does not keep beginnings. -/
theorem not_suggest_typed_prefix :
    (¬ ∀ (settings : Settings) (e : Employee) (v start : String) (rest : List Char), settings.suggestLimit ≠ 0 →
      e.id ≠ "" → v ∈ e.indexableValues → v.toList = start.toList ++ rest → ' ' ∉ start.toList →
      ∃ found,
        (make { settings } (.create e)).step (.suggest start) = (.employees found, make { settings } (.create e)) ∧
        e.summary ∈ found) ∧
    ¬ ∀ v start : String, start.toList <+: v.toList → (Key.ofText start).toList <+: (Key.ofText v).toList := by
  constructor
  · intro hall
    obtain ⟨found, hstep, hfound⟩ := hall {} kosmas "ΚΟΣΜΑΣ" "ΚΟΣ" "ΜΑΣ".toList (by decide) (by decide) (by decide)
      (by decide) (by decide)
    obtain ⟨shown, hstep', hshown⟩ := @step_suggest_make_create {} kosmas (by decide) (by decide) "ΚΟΣ" (by decide)
    have heq : Answer.employees found = .employees shown := congrArg Prod.fst (hstep.symm.trans hstep')
    cases heq
    obtain ⟨key, hkey, hstart⟩ := hshown.1 hfound
    have hnone : ∀ key ∈ Key.ofValues kosmas.indexableValues, ¬ (Key.ofText "ΚΟΣ").toList <+: key.toList := by
      decide +kernel
    exact hnone key (Employee.hasKey_iff_mem.1 hkey) hstart
  · intro hall
    have hstart := hall "ΚΟΣΜΑΣ" "ΚΟΣ" (by decide)
    have hnot : ¬ (Key.ofText "ΚΟΣ").toList <+: (Key.ofText "ΚΟΣΜΑΣ").toList := by decide +kernel
    exact hnot hstart

end StaffIndex.Service
