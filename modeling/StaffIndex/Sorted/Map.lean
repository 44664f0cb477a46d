/-!
# Sorted maps

A finite map from texts, held as its entries in ascending order of their keys. The one operation is `alter`, and
`find?_alter` says all about it; two maps that find the same are equal (`SortedMap.ext`).
-/

namespace StaffIndex

/-- A finite map from texts to `α`. -/
structure SortedMap (α : Type) where
  entries : List (String × α)
  ascending : entries.Pairwise fun a b => compare a.1 b.1 = .lt

namespace SortedMap

variable {α : Type}

def empty : SortedMap α := ⟨[], .nil⟩

def keys (m : SortedMap α) : List String := m.entries.map (·.1)

/-- The value of the first entry with the key. -/
def lookup (key : String) : List (String × α) → Option α
  | [] => none
  | e :: l => if key = e.1 then some e.2 else lookup key l

def find? (m : SortedMap α) (key : String) : Option α := lookup key m.entries

/-- The entry of `key`, whether it is there or not, replaced by what `f` makes of it. -/
def alterEntries (key : String) (f : Option α → Option α) : List (String × α) → List (String × α)
  | [] => ((f none).map (key, ·)).toList
  | e :: l => match compare key e.1 with
    | .lt => ((f none).map (key, ·)).toList ++ e :: l
    | .eq => ((f (some e.2)).map (key, ·)).toList ++ l
    | .gt => e :: alterEntries key f l

theorem fst_of_mem_alterEntries {key : String} {f : Option α → Option α} {l : List (String × α)} {e : String × α}
    (h : e ∈ alterEntries key f l) : e.1 = key ∨ e ∈ l := by
  induction l with
  | nil => simp [alterEntries] at h; grind
  | cons d l ih =>
    unfold alterEntries at h
    split at h <;> simp at h <;> grind

theorem ascending_alterEntries {key : String} {f : Option α → Option α} {l : List (String × α)}
    (h : l.Pairwise fun a b => compare a.1 b.1 = .lt) :
    (alterEntries key f l).Pairwise fun a b => compare a.1 b.1 = .lt := by
  induction l with
  | nil => cases hf : f none <;> simp [alterEntries, hf]
  | cons d l ih =>
    have hd := List.pairwise_cons.1 h
    unfold alterEntries
    split
    · next hlt =>
      cases hf : f none with
      | none => simpa using h
      | some v =>
        refine List.pairwise_cons.2 ⟨fun e he => ?_, h⟩
        rcases List.mem_cons.1 he with rfl | he
        · exact hlt
        · exact Std.TransCmp.lt_trans hlt (hd.1 e he)
    · next heq =>
      have heq := Std.LawfulEqOrd.compare_eq_iff_eq.1 heq
      cases hf : f (some d.2) with
      | none => simpa using hd.2
      | some v => exact List.pairwise_cons.2 ⟨fun e he => heq ▸ hd.1 e he, hd.2⟩
    · next hgt =>
      refine List.pairwise_cons.2 ⟨fun e he => ?_, ih hd.2⟩
      rcases fst_of_mem_alterEntries he with h' | h'
      · rw [h']; exact Std.OrientedCmp.gt_iff_lt.1 hgt
      · exact hd.1 e h'

def alter (m : SortedMap α) (key : String) (f : Option α → Option α) : SortedMap α :=
  ⟨alterEntries key f m.entries, ascending_alterEntries m.ascending⟩

def insert (m : SortedMap α) (key : String) (value : α) : SortedMap α := m.alter key fun _ => some value

def erase (m : SortedMap α) (key : String) : SortedMap α := m.alter key fun _ => none

theorem compare_self_ne_lt {key : String} : compare key key ≠ .lt := by simp [Std.ReflCmp.compare_self]

/-- No key has two entries. -/
theorem nodup_keys (m : SortedMap α) : m.keys.Nodup := by
  refine List.pairwise_map.2 (m.ascending.imp fun hlt heq => ?_)
  rw [heq] at hlt
  exact compare_self_ne_lt hlt

theorem lookup_eq_none {key : String} {l : List (String × α)} (h : ∀ e ∈ l, key ≠ e.1) : lookup key l = none := by
  induction l with
  | nil => rfl
  | cons e l ih => simp [lookup, h e (.head _), ih fun e he => h e (.tail _ he)]

theorem lookup_of_lt {key : String} {l : List (String × α)} (h : ∀ e ∈ l, compare key e.1 = .lt) :
    lookup key l = none :=
  lookup_eq_none fun e he hk => compare_self_ne_lt (hk ▸ h e he)

theorem mem_of_lookup {key : String} {l : List (String × α)} {v : α} (h : lookup key l = some v) : (key, v) ∈ l := by
  induction l with
  | nil => simp [lookup] at h
  | cons e l ih => unfold lookup at h; split at h <;> grind

theorem lookup_of_mem {key : String} {l : List (String × α)} {v : α}
    (hl : l.Pairwise fun a b => compare a.1 b.1 = .lt) (h : (key, v) ∈ l) : lookup key l = some v := by
  induction l with
  | nil => simp at h
  | cons e l ih =>
    have he := List.pairwise_cons.1 hl
    unfold lookup
    rcases List.mem_cons.1 h with rfl | h
    · simp
    · rw [if_neg fun e' => compare_self_ne_lt (e' ▸ he.1 _ h), ih he.2 h]

theorem mem_entries_iff {m : SortedMap α} {key : String} {v : α} :
    (key, v) ∈ m.entries ↔ m.find? key = some v :=
  ⟨lookup_of_mem m.ascending, mem_of_lookup⟩

theorem lookup_alterEntries {key k : String} {f : Option α → Option α} {l : List (String × α)}
    (h : l.Pairwise fun a b => compare a.1 b.1 = .lt) :
    lookup k (alterEntries key f l) = if k = key then f (lookup key l) else lookup k l := by
  induction l with
  | nil => cases hf : f none <;> by_cases hk : k = key <;> simp [alterEntries, lookup, hf, hk]
  | cons d l ih =>
    have hd := List.pairwise_cons.1 h
    unfold alterEntries
    split
    · next hlt =>
      have hnone : lookup key (d :: l) = none := lookup_of_lt fun e he => by
        rcases List.mem_cons.1 he with rfl | he
        · exact hlt
        · exact Std.TransCmp.lt_trans hlt (hd.1 e he)
      rw [hnone]
      cases hf : f none with
      | none => by_cases hk : k = key <;> simp_all
      | some v => by_cases hk : k = key <;> simp [lookup, hk]
    · next heq =>
      have heq := Std.LawfulEqOrd.compare_eq_iff_eq.1 heq
      have hnone : lookup d.1 l = none := lookup_of_lt hd.1
      subst heq
      cases hf : f (some d.2) with
      | none => by_cases hk : k = d.1 <;> simp [lookup, hk, hf, hnone]
      | some v => by_cases hk : k = d.1 <;> simp [lookup, hk, hf]
    · next hgt =>
      have hne : key ≠ d.1 := fun e => by simp [e, Std.ReflCmp.compare_self] at hgt
      by_cases hk : k = key
      · subst hk; simp [lookup, hne, ih hd.2]
      · simp [lookup, hk, ih hd.2]

@[simp] theorem find?_alter {m : SortedMap α} {key k : String} {f : Option α → Option α} :
    (m.alter key f).find? k = if k = key then f (m.find? key) else m.find? k :=
  lookup_alterEntries m.ascending

@[simp] theorem find?_empty {k : String} : (empty : SortedMap α).find? k = none := rfl

@[simp] theorem find?_insert {m : SortedMap α} {key k : String} {v : α} :
    (m.insert key v).find? k = if k = key then some v else m.find? k := find?_alter

@[simp] theorem find?_erase {m : SortedMap α} {key k : String} :
    (m.erase key).find? k = if k = key then none else m.find? k := find?_alter

theorem ext {m n : SortedMap α} (h : ∀ k, m.find? k = n.find? k) : m = n := by
  obtain ⟨l, hl⟩ := m
  obtain ⟨r, hr⟩ := n
  have key : ∀ k v, (k, v) ∈ l ↔ (k, v) ∈ r := fun k v => by
    rw [show (k, v) ∈ l ↔ _ from mem_entries_iff (m := ⟨l, hl⟩), show (k, v) ∈ r ↔ _ from mem_entries_iff (m := ⟨r, hr⟩),
      h k]
  suffices l = r by subst this; rfl
  clear h
  induction l generalizing r with
  | nil => exact (List.eq_nil_iff_forall_not_mem.2 fun e he => by simpa using (key e.1 e.2).2 he).symm
  | cons d l ih =>
    have hd := List.pairwise_cons.1 hl
    obtain _ | ⟨e, r⟩ := r
    · exact absurd ((key d.1 d.2).1 (.head _)) (by simp)
    have he := List.pairwise_cons.1 hr
    have hde : d = e := by
      rcases List.mem_cons.1 ((key d.1 d.2).1 (.head _)) with h₁ | h₁
      · exact h₁
      rcases List.mem_cons.1 ((key e.1 e.2).2 (.head _)) with h₂ | h₂
      · exact h₂.symm
      exact absurd (Std.TransCmp.lt_trans (hd.1 e h₂) (he.1 d h₁)) compare_self_ne_lt
    subst hde
    congr 1
    refine ih hd.2 r he.2 fun k v => ?_
    have hk := key k v
    simp only [List.mem_cons] at hk
    exact ⟨fun hl' => (hk.1 (.inr hl')).resolve_left fun e' => compare_self_ne_lt (e' ▸ hd.1 _ hl'), fun hr' =>
      (hk.2 (.inr hr')).resolve_left fun e' => compare_self_ne_lt (e' ▸ he.1 _ hr')⟩

end SortedMap

end StaffIndex
