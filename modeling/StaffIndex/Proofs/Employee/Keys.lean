import StaffIndex.Employee.Patch
import StaffIndex.Key

/-!
# The keys of a record

A record has the keys of its values (`HasKey`). A patch divides them into those of the fields it changes and those of
the fields it leaves alone (`hasKey_iff_changed_or_kept`), and replaces the first by the keys of its own values
(`hasKey_apply`). Nothing keeps a key from being on both sides.
-/

namespace StaffIndex

/-- One of the values is filed under the key. -/
def Employee.HasKey (e : Employee) (key : String) : Prop := ∃ v ∈ e.indexableValues, Key.ofText v = key

/-- A field that the patch leaves alone has the key. -/
def Patch.Keeps (p : Patch) (e : Employee) (key : String) : Prop :=
  ∃ f, f ∉ p.changedFields ∧ ∃ v ∈ e.values f, Key.ofText v = key

theorem Employee.hasKey_iff_mem {e : Employee} {key : String} : e.HasKey key ↔ key ∈ Key.ofValues e.indexableValues :=
  Key.mem_ofValues.symm

namespace Patch

variable {p : Patch} {e : Employee} {key : String}

theorem hasKey_iff_changed_or_kept :
    e.HasKey key ↔ key ∈ Key.ofValues (e.valuesOf p.changedFields) ∨ p.Keeps e key := by
  simp only [Employee.HasKey, Employee.mem_indexableValues, Key.mem_ofValues, Employee.mem_valuesOf, Keeps]
  constructor
  · rintro ⟨v, ⟨f, hv⟩, hk⟩
    by_cases hf : f ∈ p.changedFields
    · exact .inl ⟨v, ⟨f, hf, hv⟩, hk⟩
    · exact .inr ⟨f, hf, v, hv, hk⟩
  · rintro (⟨v, ⟨f, -, hv⟩, hk⟩ | ⟨f, -, v, hv, hk⟩) <;> exact ⟨v, ⟨f, hv⟩, hk⟩

theorem hasKey_apply : (p.apply e).HasKey key ↔ key ∈ Key.ofValues p.values ∨ p.Keeps e key := by
  simp only [Employee.HasKey, mem_indexableValues_apply, Key.mem_ofValues, Keeps]
  constructor
  · rintro ⟨v, hv | ⟨f, hf, hv⟩, hk⟩
    · exact .inl ⟨v, hv, hk⟩
    · exact .inr ⟨f, hf, v, hv, hk⟩
  · rintro (⟨v, hv, hk⟩ | ⟨f, hf, v, hv, hk⟩)
    · exact ⟨v, .inl hv, hk⟩
    · exact ⟨v, .inr ⟨f, hf, hv⟩, hk⟩

end Patch

end StaffIndex
