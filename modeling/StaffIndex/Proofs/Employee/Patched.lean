import Mathlib.Data.List.Basic
import StaffIndex.Employee.Patch

/-!
# Patched records

A record is its id, its photo link and the values of its fields (`Employee.eq_of_values_eq`), and a patch sets the
values of the fields it names and nothing else (`Patch.values_apply`). So all else about patched records is read off
field by field.

- The searchable values of a patched record are, up to their order, those of the patch and the old ones of the fields
  it leaves alone (`indexableValues_apply_perm`).
- A second application changes nothing (`apply_apply`).
- A patch that names a field changes some record (`isEmpty_iff_forall_apply`): of two records that are filled with
  different texts it changes one at least.

`apply_coherent` puts all of it together.
-/

namespace StaffIndex

namespace Employee

/-- Records agree when they have the same id, photo link and values. -/
theorem eq_of_values_eq {e e' : Employee} (hid : e.id = e'.id) (hphoto : e.photoLink = e'.photoLink)
    (hvalues : ∀ f, e.values f = e'.values f) : e = e' := by
  have hneeded : ∀ {v v' : String}, [v] = [v'] → v = v' := List.head_eq_of_cons_eq
  have hblank : ∀ {o o' : Option String}, o.toList = o'.toList → o = o' := fun h => by
    simpa using congrArg List.head? h
  cases e
  cases e'
  simp only [mk.injEq]
  exact ⟨hid, hneeded (hvalues .name), hneeded (hvalues .surname), hblank (hvalues .patronymic),
    hblank (hvalues .role), hblank (hvalues .email), hblank (hvalues .birthday), hblank (hvalues .telegramId),
    hblank (hvalues .vkId), hblank (hvalues .team), hvalues .phones, hphoto⟩

/-- A record with the same text in every field. -/
def filled (v : String) : Employee :=
  ⟨v, v, v, some v, some v, some v, some v, some v, some v, some v, [v], none⟩

theorem values_filled (v : String) (f : Field) : (filled v).values f = [v] := by
  cases f <;> rfl

end Employee

namespace Patch

variable (p : Patch) (e : Employee)

/-- The fields that the patch leaves alone, in their standing order. -/
def keptFields : List Field := Field.all.filter (· ∉ p.changedFields)

variable {p} in
theorem values?_of_not_mem_changedFields {f : Field} (hf : f ∉ p.changedFields) : p.values? f = none := by
  rwa [mem_changedFields, Option.not_isSome_iff_eq_none] at hf

theorem valuesOf_apply_of_unchanged {fields : List Field} (h : ∀ f ∈ fields, f ∉ p.changedFields) :
    (p.apply e).valuesOf fields = e.valuesOf fields := by
  refine List.flatMap_congr fun f hf => ?_
  rw [values_apply, values?_of_not_mem_changedFields (h f hf), Option.getD_none]

/-- A patch divides the fields into those it changes and those it keeps. -/
theorem changedFields_append_keptFields_perm : (p.changedFields ++ p.keptFields).Perm Field.all := by
  have hkept : p.keptFields = Field.all.filter fun f => !(p.values? f).isSome := by
    refine List.filter_congr fun f _ => ?_
    cases h : (p.values? f).isSome <;> simp [mem_changedFields, h]
  rw [hkept, changedFields_eq_filter]
  exact List.filter_append_perm _ _

theorem indexableValues_apply_perm :
    (p.apply e).indexableValues.Perm (p.values ++ e.valuesOf p.keptFields) := by
  have hkept : (p.apply e).valuesOf p.keptFields = e.valuesOf p.keptFields :=
    valuesOf_apply_of_unchanged p e fun f hf => of_decide_eq_true (List.mem_filter.1 hf).2
  have hsplit : (p.apply e).valuesOf (p.changedFields ++ p.keptFields) = p.values ++ e.valuesOf p.keptFields := by
    rw [Employee.valuesOf, List.flatMap_append, ← Employee.valuesOf, ← Employee.valuesOf, valuesOf_apply, hkept]
  rw [← hsplit]
  exact ((changedFields_append_keptFields_perm p).flatMap_right _).symm

theorem apply_apply : p.apply (p.apply e) = p.apply e := by
  refine Employee.eq_of_values_eq rfl rfl fun f => ?_
  rw [values_apply, values_apply]
  cases p.values? f <;> rfl

theorem isEmpty_iff_forall_values? : p.isEmpty ↔ ∀ f, p.values? f = none := by
  rw [isEmpty, List.isEmpty_iff, List.eq_nil_iff_forall_not_mem]
  simp only [mem_changedFields, Option.not_isSome_iff_eq_none]

/-- A patch is empty when there is no record that it changes. -/
theorem isEmpty_iff_forall_apply : p.isEmpty ↔ ∀ e, p.apply e = e := by
  rw [isEmpty_iff_forall_values?]
  constructor
  · intro hnone e
    refine Employee.eq_of_values_eq rfl rfl fun f => ?_
    rw [values_apply, hnone, Option.getD_none]
  · intro hsame f
    cases hf : p.values? f with
    | none => rfl
    | some vs =>
      -- the field would have the values of the patch in every record, so the same ones in two filled ones
      have hset : ∀ v, vs = [v] := fun v => by
        rw [← Employee.values_filled v f, ← hsame (.filled v), values_apply, hf, Option.getD_some]
      have htexts : [""] = ["a"] := (hset "").symm.trans (hset "a")
      exact absurd htexts (by decide)

/-- **A patch and the records it makes.** The changed fields have the values of the patch, any others the old ones; the
id and the photo link stay; the searchable values are those of the patch together with the old ones of the fields it
leaves alone; a second application changes nothing; and only the empty patch changes no record at all. -/
theorem apply_coherent :
    (p.apply e).valuesOf p.changedFields = p.values ∧
      (∀ fields : List Field, (∀ f ∈ fields, f ∉ p.changedFields) →
        (p.apply e).valuesOf fields = e.valuesOf fields) ∧
      (p.apply e).id = e.id ∧ (p.apply e).photoLink = e.photoLink ∧
      (p.apply e).indexableValues.Perm (p.values ++ e.valuesOf p.keptFields) ∧
      p.apply (p.apply e) = p.apply e ∧
      (p.isEmpty ↔ ∀ e', p.apply e' = e') :=
  ⟨valuesOf_apply p e, fun _ h => valuesOf_apply_of_unchanged p e h, rfl, rfl, indexableValues_apply_perm p e,
    apply_apply p e, isEmpty_iff_forall_apply p⟩

/-- Anna gets a new team and her only phone is taken away; her role, asked for twice, stays. -/
theorem apply_coherent_lastPhone :
    let p : Patch := { team := some "Core", phones := some [] }
    let e : Employee := { id := "e1", name := "Anna", surname := "Orlova", role := some "Lead", phones := ["+7 900"] }
    (∀ f ∈ [Field.role, .name, .role], f ∉ p.changedFields) ∧
      (p.apply e).valuesOf [.role, .name, .role] = ["Lead", "Anna", "Lead"] := by
  intro p e
  have hunchanged : ∀ f ∈ [Field.role, .name, .role], f ∉ p.changedFields := by decide
  exact ⟨hunchanged, (apply_coherent p e).2.1 _ hunchanged⟩

end Patch

end StaffIndex
