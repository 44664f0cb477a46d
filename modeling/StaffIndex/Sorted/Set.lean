/-!
# Sorted sets

A finite set held as its elements in strictly ascending order, so that two sets with the same members are equal
(`SortedSet.ext`) and its smallest members come first.
-/

namespace StaffIndex

/-- A finite set of `α`. -/
structure SortedSet (α : Type) [Ord α] where
  /-- The members, each once. -/
  toList : List α
  ascending : toList.Pairwise fun a b => compare a b = .lt

namespace SortedSet

variable {α : Type} [Ord α]

instance : Membership α (SortedSet α) := ⟨fun s a => a ∈ s.toList⟩

theorem mem_def {s : SortedSet α} {a : α} : a ∈ s ↔ a ∈ s.toList := Iff.rfl

def empty : SortedSet α := ⟨[], .nil⟩

def isEmpty (s : SortedSet α) : Bool := s.toList.isEmpty

def size (s : SortedSet α) : Nat := s.toList.length

/-- `a` put in its place in an ascending list, unless it is there. -/
def place (a : α) : List α → List α
  | [] => [a]
  | b :: l => match compare a b with
    | .lt => a :: b :: l
    | .eq => b :: l
    | .gt => b :: place a l

theorem mem_place [Std.LawfulEqOrd α] {a b : α} {l : List α} : b ∈ place a l ↔ b = a ∨ b ∈ l := by
  induction l with
  | nil => simp [place]
  | cons c l ih =>
    unfold place
    split
    · simp
    · next h => have := Std.LawfulEqOrd.compare_eq_iff_eq.1 h; subst this; simp
    · simp only [List.mem_cons, ih]; grind

@[simp] theorem not_mem_empty {a : α} : ¬ a ∈ (empty : SortedSet α) := List.not_mem_nil

section Laws

variable [Std.TransOrd α] [Std.LawfulEqOrd α]

theorem ascending_place {a : α} {l : List α} (h : l.Pairwise fun a b => compare a b = .lt) :
    (place a l).Pairwise fun a b => compare a b = .lt := by
  induction l with
  | nil => simp [place]
  | cons b l ih =>
    have hb := List.pairwise_cons.1 h
    unfold place
    split
    · next hab =>
      refine List.pairwise_cons.2 ⟨fun c hc => ?_, h⟩
      rcases List.mem_cons.1 hc with rfl | hc
      · exact hab
      · exact Std.TransCmp.lt_trans hab (hb.1 c hc)
    · exact h
    · next hab =>
      refine List.pairwise_cons.2 ⟨fun c hc => ?_, ih hb.2⟩
      rcases mem_place.1 hc with rfl | hc
      · exact Std.OrientedCmp.gt_iff_lt.1 hab
      · exact hb.1 c hc

def insert (a : α) (s : SortedSet α) : SortedSet α := ⟨place a s.toList, ascending_place s.ascending⟩

/-- The set of the elements of a list. -/
def ofList (l : List α) : SortedSet α := l.foldr insert empty

@[simp] theorem mem_insert {a b : α} {s : SortedSet α} : b ∈ s.insert a ↔ b = a ∨ b ∈ s := mem_place

@[simp] theorem mem_ofList {a : α} {l : List α} : a ∈ ofList l ↔ a ∈ l := by
  induction l with
  | nil => simp [ofList]
  | cons b l ih => simp [ofList] at ih ⊢; simp [ih]

end Laws

def filter (p : α → Bool) (s : SortedSet α) : SortedSet α := ⟨s.toList.filter p, s.ascending.filter p⟩

@[simp] theorem mem_filter {p : α → Bool} {a : α} {s : SortedSet α} : a ∈ s.filter p ↔ a ∈ s ∧ p a = true :=
  List.mem_filter

/-- No member is listed twice. -/
theorem nodup_toList [Std.TransOrd α] (s : SortedSet α) : s.toList.Nodup := by
  refine s.ascending.imp ?_
  rintro a _ hlt rfl
  simp [Std.ReflCmp.compare_self] at hlt

theorem ext [Std.TransOrd α] {s t : SortedSet α} (h : ∀ a, a ∈ s ↔ a ∈ t) : s = t := by
  obtain ⟨l, hl⟩ := s
  obtain ⟨m, hm⟩ := t
  have irrefl : ∀ {a : α}, compare a a ≠ .lt := fun {a} h => by simp [Std.ReflCmp.compare_self] at h
  suffices l = m by subst this; rfl
  change ∀ a, a ∈ l ↔ a ∈ m at h
  induction l generalizing m with
  | nil => exact (List.eq_nil_iff_forall_not_mem.2 fun a ha => by simpa using (h a).2 ha).symm
  | cons a l ih =>
    have ha := List.pairwise_cons.1 hl
    obtain _ | ⟨b, m⟩ := m
    · exact absurd ((h a).1 (.head _)) (by simp)
    have hb := List.pairwise_cons.1 hm
    have hab : a = b := by
      rcases List.mem_cons.1 ((h a).1 (.head _)) with h₁ | h₁
      · exact h₁
      rcases List.mem_cons.1 ((h b).2 (.head _)) with h₂ | h₂
      · exact h₂.symm
      exact absurd (Std.TransCmp.lt_trans (ha.1 b h₂) (hb.1 a h₁)) irrefl
    subst hab
    congr 1
    refine ih ha.2 m hb.2 fun c => ?_
    have hc := h c
    simp only [List.mem_cons] at hc
    refine ⟨fun hl' => (hc.1 (.inr hl')).resolve_left fun e => irrefl (e ▸ ha.1 c hl'), fun hm' =>
      (hc.2 (.inr hm')).resolve_left fun e => irrefl (e ▸ hb.1 c hm')⟩

end SortedSet

end StaffIndex
