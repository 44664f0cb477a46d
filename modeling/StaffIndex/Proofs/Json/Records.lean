import StaffIndex.Proofs.Json.Lists

/-!
# Texts that hold a record

A record is held by an object or by a list (`Shape.Holds`). The object has every required member of the record and none
twice, in any order, and other members beside them that are passed over. The list has the values of the members in their
standing order, and may leave out those at the end that are not required. These are the texts that are read as records,
for what the values make of the blank record (`Reader.record_run_eq_ok_iff`).
-/

namespace StaffIndex.Json

variable {α β : Type} {shape : Shape α} {m : Member α} {a b : α} {s t u rest : List Symbol}

/-- Where the value of the next member of an object starts, and the name before it. All members but the first come
after a comma. -/
def StartsMember (first : Bool) (s : List Symbol) (name : String) (t : List Symbol) : Prop :=
  ∃ u v w, (if first then u = s else dropBlanks s = .char ',' :: u) ∧ dropBlanks u = .char '"' :: v ∧
    takeText [] v = .ok (name, w) ∧ dropBlanks w = .char ':' :: t

namespace Shape

/-- The members of a record in an object up to some place, by their names and what they do to the record, and what comes
after that place. -/
inductive Members (shape : Shape α) : Bool → List Symbol → List (String × (α → α)) → List Symbol → Prop
  | nil (first : Bool) (s : List Symbol) : Members shape first s [] s
  | known {first : Bool} {s t u v : List Symbol} {m : Member α} {f : α → α} {taken : List (String × (α → α))}
    (hm : m ∈ shape.members) (hstart : StartsMember first s m.name t) (hvalue : m.reader.run t = .ok (f, u))
    (h : Members shape false u taken v) : Members shape first s ((m.name, f) :: taken) v
  | other {first : Bool} {s t u v : List Symbol} {name : String} {taken : List (String × (α → α))}
    (hname : ∀ m ∈ shape.members, m.name ≠ name) (hstart : StartsMember first s name t)
    (hvalue : Reader.skip.run t = .ok ((), u)) (h : Members shape false u taken v) : Members shape first s taken v

/-- The values of some members in a list, after `n` others, and what they make of the record. -/
inductive Values : Nat → α → List Symbol → List (Member α) → α → List Symbol → Prop
  | nil (n : Nat) (a : α) (s : List Symbol) : Values n a s [] a s
  | cons {n : Nat} {a b : α} {s t u v : List Symbol} {m : Member α} {f : α → α} {left : List (Member α)}
    (hstart : StartsElement n s t) (hvalue : m.reader.run t = .ok (f, u)) (h : Values (n + 1) (f a) u left b v) :
    Values n a s (m :: left) b v

/-- The symbols start with the record. -/
inductive Holds (shape : Shape α) (s : List Symbol) : α → List Symbol → Prop
  | object {t u rest : List Symbol} {taken : List (String × (α → α))} (hopen : dropBlanks s = .char '\x7b' :: t)
    (hmembers : shape.Members true t taken u) (hclose : dropBlanks u = .char '\x7d' :: rest)
    (honce : (taken.map (·.1)).Nodup) (hrequired : ∀ m ∈ shape.members, m.required → m.name ∈ taken.map (·.1)) :
    Holds shape s (taken.foldl (fun a f => f.2 a) shape.blank) rest
  | list {t u rest : List Symbol} {given left : List (Member α)} {a : α} (hopen : dropBlanks s = .char '[' :: t)
    (hmembers : shape.members = given ++ left) (hvalues : Values 0 shape.blank t given a u)
    (hleft : ∀ m ∈ left, m.required = false) (hclose : dropBlanks u = .char ']' :: rest) : Holds shape s a rest

end Shape

/-! ## Steps -/

theorem takeColon_eq_ok_iff : takeColon s = .ok ((), t) ↔ dropBlanks s = .char ':' :: t := by
  unfold takeColon
  constructor
  · intro h
    split at h
    · cases h
    · next c u hs =>
      split at h
      · next hc =>
        cases h
        rw [hs, Symbol.eq_char_of_isChar hc]
      · cases h
  · intro h
    rw [h]
    rfl

namespace Shape

theorem takeKeyText_eq_ok_iff {name : String} :
    takeKeyText s = .ok (.key name, t) ↔ ∃ u, s = .char '"' :: u ∧ takeText [] u = .ok (name, t) := by
  unfold takeKeyText
  constructor
  · intro h
    split at h
    · cases h
    · next c u =>
      split at h
      · next hc =>
        rw [Symbol.eq_char_of_isChar hc]
        split at h
        · next htext =>
          cases h
          exact ⟨u, rfl, htext⟩
        · cases h
      · split at h <;> cases h
  · rintro ⟨u, rfl, htext⟩
    simp only [htext]
    rfl

theorem takeKeyText_ne_closed : takeKeyText s ≠ .ok (.closed, t) := by
  intro h
  unfold takeKeyText at h
  split at h
  · cases h
  · split at h
    · split at h <;> cases h
    · split at h <;> cases h

theorem takeKey_eq_ok_closed_iff {first : Bool} :
    takeKey first s = .ok (.closed, t) ↔ dropBlanks s = .char '\x7d' :: t := by
  unfold takeKey
  constructor
  · intro h
    split at h
    · cases h
    · next c u hs =>
      split at h
      · next hc =>
        cases h
        rw [hs, Symbol.eq_char_of_isChar hc]
      · split at h
        · exact absurd h takeKeyText_ne_closed
        · split at h
          · exact absurd h takeKeyText_ne_closed
          · cases h
  · intro h
    rw [h]
    rfl

/-- A key is taken just where a member starts. -/
theorem startsMember_iff {first : Bool} {name : String} : StartsMember first s name t ↔
    ∃ u, takeKey first s = .ok (.key name, u) ∧ takeColon u = .ok ((), t) := by
  simp only [takeColon_eq_ok_iff]
  constructor
  · rintro ⟨u, v, w, hu, hv, htext, hcolon⟩
    refine ⟨w, ?_, hcolon⟩
    have hkey : takeKeyText (dropBlanks u) = .ok (.key name, w) := takeKeyText_eq_ok_iff.2 ⟨v, hv, htext⟩
    cases first with
    | true =>
      obtain rfl : u = s := hu
      rw [hv] at hkey
      rw [takeKey, hv]
      exact hkey
    | false =>
      rw [takeKey, show dropBlanks s = .char ',' :: u from hu]
      exact hkey
  · rintro ⟨w, hkey, hcolon⟩
    unfold takeKey at hkey
    split at hkey
    · cases hkey
    · next c u hs =>
      split at hkey
      · cases hkey
      · split at hkey
        · next hfirst =>
          obtain ⟨v, hv, htext⟩ := takeKeyText_eq_ok_iff.1 hkey
          exact ⟨s, v, w, by rw [if_pos hfirst], hs.trans hv, htext, hcolon⟩
        · next hfirst =>
          split at hkey
          · next hc =>
            obtain ⟨v, hv, htext⟩ := takeKeyText_eq_ok_iff.1 hkey
            exact ⟨u, v, w, by rw [if_neg hfirst, hs, Symbol.eq_char_of_isChar hc], hv, htext, hcolon⟩
          · cases hkey

theorem takeMemberValue_eq_ok_iff {name : String} {r : Reader β} {x : β × List Symbol} :
    takeMemberValue name r s = .ok x ↔ ∃ t, takeColon s = .ok ((), t) ∧ r.run t = .ok x := by
  unfold takeMemberValue
  constructor
  · intro h
    split at h
    · cases h
    · next t hcolon => exact ⟨t, hcolon, Reader.run_of_within h⟩
  · rintro ⟨t, hcolon, hrun⟩
    simp only [hcolon]
    exact Reader.within_run hrun _

/-! ## Objects -/

/-- Every required member is there. -/
theorem complete_eq_ok_iff {seen : List String} :
    shape.complete seen a = .ok b ↔ a = b ∧ ∀ m ∈ shape.members, m.required → m.name ∈ seen := by
  unfold complete
  cases hfind : shape.members.find? fun m => m.required && !seen.contains m.name with
  | some m =>
    have hm := List.find?_some hfind
    simp only [Bool.and_eq_true, Bool.not_eq_true', List.contains_eq_mem, decide_eq_false_iff_not] at hm
    constructor
    · exact nofun
    · rintro ⟨-, hall⟩
      exact absurd (hall m (List.mem_of_find?_eq_some hfind) hm.1) hm.2
  | none =>
    have hnone := List.find?_eq_none.1 hfind
    simp only [Bool.and_eq_true, Bool.not_eq_true', List.contains_eq_mem, decide_eq_false_iff_not, not_and,
      not_not] at hnone
    simp only [Except.ok.injEq]
    exact ⟨fun h => ⟨h, hnone⟩, fun h => h.1⟩

/-- Where no two members share a name, the name finds the member. -/
theorem find?_name_eq_some_iff (hnodup : (shape.members.map (·.name)).Nodup) {name : String} :
    shape.members.find? (·.name = name) = some m ↔ m ∈ shape.members ∧ m.name = name := by
  constructor
  · intro h
    exact ⟨List.mem_of_find?_eq_some h, by simpa using List.find?_some h⟩
  · rintro ⟨hm, rfl⟩
    obtain ⟨done, left, hsplit⟩ := List.append_of_mem hm
    rw [hsplit] at hnodup ⊢
    exact find?_name hnodup

theorem takeMember_of_known (hnodup : (shape.members.map (·.name)).Nodup) (hm : m ∈ shape.members) {seen : List String}
    (hnew : m.name ∉ seen) {f : α → α} (hcolon : takeColon s = .ok ((), t)) (hvalue : m.reader.run t = .ok (f, u)) :
    shape.takeMember seen a m.name s = .ok ((m.name :: seen, f a), u) := by
  have hfind := (find?_name_eq_some_iff hnodup).2 ⟨hm, rfl⟩
  have hseen : seen.contains m.name = false := by rw [List.contains_eq_mem, decide_eq_false hnew]
  simp only [takeMember, hfind, hseen, takeMemberValue_eq_ok_iff.2 ⟨t, hcolon, hvalue⟩]
  rfl

theorem takeMember_of_other {name : String} (hname : ∀ m ∈ shape.members, m.name ≠ name) {seen : List String}
    (hcolon : takeColon s = .ok ((), t)) (hvalue : Reader.skip.run t = .ok ((), u)) :
    shape.takeMember seen a name s = .ok ((seen, a), u) := by
  have hfind : shape.members.find? (·.name = name) = none :=
    List.find?_eq_none.2 fun m hm => by simpa using hname m hm
  simp only [takeMember, hfind, takeMemberValue_eq_ok_iff.2 ⟨t, hcolon, hvalue⟩]

/-- A member that is taken is one of the record and new, or another one that is passed over. -/
theorem takeMember_cases {seen : List String} {name : String} {x : List String × α}
    (h : shape.takeMember seen a name s = .ok (x, u)) :
    (∃ m ∈ shape.members, m.name = name ∧ name ∉ seen ∧ ∃ t f, takeColon s = .ok ((), t) ∧
      m.reader.run t = .ok (f, u) ∧ x = (name :: seen, f a)) ∨
    (∀ m ∈ shape.members, m.name ≠ name) ∧ x = (seen, a) ∧
      ∃ t, takeColon s = .ok ((), t) ∧ Reader.skip.run t = .ok ((), u) := by
  unfold takeMember at h
  split at h
  · next m hfind =>
    split at h
    · cases h
    · next hseen =>
      split at h
      · next f r hvalue =>
        cases h
        obtain ⟨t, hcolon, hrun⟩ := takeMemberValue_eq_ok_iff.1 hvalue
        have hnew : name ∉ seen := by simpa using hseen
        have hname : m.name = name := by simpa using List.find?_some hfind
        exact .inl ⟨m, List.mem_of_find?_eq_some hfind, hname, hnew, t, f, hcolon, hrun, rfl⟩
      · cases h
  · next hfind =>
    split at h
    · next r hvalue =>
      cases h
      obtain ⟨t, hcolon, hrun⟩ := takeMemberValue_eq_ok_iff.1 hvalue
      have hname : ∀ m ∈ shape.members, m.name ≠ name := fun m hm => by simpa using List.find?_eq_none.1 hfind m hm
      exact .inr ⟨hname, rfl, t, hcolon, hrun⟩
    · cases h

/-- What the members from some place on make of a record of which the members in `seen` were taken before. -/
structure Completes (shape : Shape α) (seen : List String) (taken : List (String × (α → α))) : Prop where
  once : (taken.map (·.1)).Nodup
  new : ∀ name ∈ taken.map (·.1), name ∉ seen
  required : ∀ m ∈ shape.members, m.required → m.name ∈ seen ∨ m.name ∈ taken.map (·.1)

theorem completes_nil_iff {seen : List String} :
    shape.Completes seen [] ↔ ∀ m ∈ shape.members, m.required → m.name ∈ seen :=
  ⟨fun h m hm hrequired => (h.required m hm hrequired).resolve_right List.not_mem_nil,
    fun h => ⟨.nil, nofun, fun m hm hrequired => .inl (h m hm hrequired)⟩⟩

theorem completes_cons_iff {seen : List String} {name : String} {f : α → α} {taken : List (String × (α → α))} :
    shape.Completes seen ((name, f) :: taken) ↔ name ∉ seen ∧ shape.Completes (name :: seen) taken := by
  constructor
  · intro h
    obtain ⟨hname, honce⟩ := List.nodup_cons.1 h.once
    refine ⟨h.new name List.mem_cons_self, honce, fun other hother hmem => ?_, fun m hm hrequired => ?_⟩
    · rcases List.mem_cons.1 hmem with rfl | hseen
      · exact hname hother
      · exact h.new other (List.mem_cons_of_mem _ hother) hseen
    · rcases h.required m hm hrequired with hseen | htaken
      · exact .inl (List.mem_cons_of_mem _ hseen)
      · rcases List.mem_cons.1 htaken with heq | htaken
        · exact .inl (heq ▸ List.mem_cons_self)
        · exact .inr htaken
  · rintro ⟨hnew, h⟩
    refine ⟨List.nodup_cons.2 ⟨fun hmem => h.new name hmem List.mem_cons_self, h.once⟩, ?_, fun m hm hrequired => ?_⟩
    · exact List.forall_mem_cons.2 ⟨hnew, fun other hother hseen => h.new other hother (List.mem_cons_of_mem _ hseen)⟩
    · rcases h.required m hm hrequired with hseen | htaken
      · rcases List.mem_cons.1 hseen with heq | hseen
        · exact .inr (heq ▸ List.mem_cons_self)
        · exact .inl hseen
      · exact .inr (List.mem_cons_of_mem _ htaken)

theorem members_of_takeMembers {first : Bool} {seen : List String}
    (h : shape.takeMembers first seen a s = .ok (b, rest)) :
    ∃ taken t, shape.Members first s taken t ∧ dropBlanks t = .char '\x7d' :: rest ∧ shape.Completes seen taken ∧
      b = taken.foldl (fun a f => f.2 a) a := by
  fun_induction takeMembers shape first seen a s with
  | case1 => cases h
  | case2 first seen a s r hclosed =>
    cases hcomplete : shape.complete seen a with
    | error e => rw [hcomplete] at h; cases h
    | ok c =>
      rw [hcomplete] at h
      cases h
      obtain ⟨rfl, hrequired⟩ := complete_eq_ok_iff.1 hcomplete
      exact ⟨[], s, .nil first s, takeKey_eq_ok_closed_iff.1 hclosed, completes_nil_iff.2 hrequired, rfl⟩
  | case3 => cases h
  | case4 first seen a s name t hkey x r hmember ih =>
    obtain ⟨taken, u, hmembers, hclose, hcompletes, rfl⟩ := ih h
    rcases takeMember_cases hmember with ⟨m, hm, rfl, hnew, v, f, hcolon, hvalue, rfl⟩ | ⟨hname, rfl, v, hcolon, hvalue⟩
    · exact ⟨_, u, .known hm (startsMember_iff.2 ⟨t, hkey, hcolon⟩) hvalue hmembers, hclose,
        completes_cons_iff.2 ⟨hnew, hcompletes⟩, rfl⟩
    · exact ⟨taken, u, .other hname (startsMember_iff.2 ⟨t, hkey, hcolon⟩) hvalue hmembers, hclose, hcompletes, rfl⟩

theorem Members.takeMembers (hnodup : (shape.members.map (·.name)).Nodup) {first : Bool}
    {taken : List (String × (α → α))} (h : shape.Members first s taken t) (hclose : dropBlanks t = .char '\x7d' :: rest)
    {seen : List String} (hcompletes : shape.Completes seen taken) (a : α) :
    shape.takeMembers first seen a s = .ok (taken.foldl (fun a f => f.2 a) a, rest) := by
  induction h generalizing seen a with
  | nil first s =>
    exact takeMembers_of_closed (takeKey_eq_ok_closed_iff.2 hclose)
      (complete_eq_ok_iff.2 ⟨rfl, completes_nil_iff.1 hcompletes⟩)
  | known hm hstart hvalue _ ih =>
    obtain ⟨u, hkey, hcolon⟩ := startsMember_iff.1 hstart
    obtain ⟨hnew, hcompletes⟩ := completes_cons_iff.1 hcompletes
    rw [takeMembers_of_key hkey (takeMember_of_known hnodup hm hnew hcolon hvalue)]
    exact ih hclose hcompletes _
  | other hname hstart hvalue _ ih =>
    obtain ⟨u, hkey, hcolon⟩ := startsMember_iff.1 hstart
    rw [takeMembers_of_key hkey (takeMember_of_other hname hcolon hvalue)]
    exact ih hclose hcompletes a

/-! ## Lists -/

theorem takeListEnd_eq_ok_iff : takeListEnd s = .ok ((), t) ↔ dropBlanks s = .char ']' :: t := by
  unfold takeListEnd
  constructor
  · intro h
    split at h
    · cases h
    · next c u hs =>
      split at h
      · next hc =>
        cases h
        rw [hs, Symbol.eq_char_of_isChar hc]
      · split at h <;> cases h
  · intro h
    rw [h]
    rfl

/-- The values of some members that a list is read for, and nothing behind them but members that are not required. -/
theorem takeListed_eq_ok_iff {left : List (Member α)} (hneeds : ∀ m ∈ left, m.reader.NeedsValue) {n : Nat} :
    shape.takeListed n a left s = .ok (b, rest) ↔
      ∃ given more t, left = given ++ more ∧ Values n a s given b t ∧ (∀ m ∈ more, m.required = false) ∧
        dropBlanks t = .char ']' :: rest := by
  induction left generalizing n a s with
  | nil =>
    unfold takeListed
    constructor
    · intro h
      split at h
      · next hend =>
        cases h
        exact ⟨[], [], s, rfl, .nil n _ s, nofun, takeListEnd_eq_ok_iff.1 hend⟩
      · cases h
    · rintro ⟨given, more, t, hsplit, hvalues, -, hclose⟩
      obtain ⟨rfl, rfl⟩ := List.append_eq_nil_iff.1 hsplit.symm
      cases hvalues
      rw [takeListEnd_eq_ok_iff.2 hclose]
  | cons m left ih =>
    have hleft : ∀ m' ∈ left, m'.reader.NeedsValue := fun m' hm' => hneeds m' (List.mem_cons_of_mem _ hm')
    unfold takeListed
    constructor
    · intro h
      split at h
      · cases h
      · next r hclosed =>
        split at h
        · cases h
        · next hfind =>
          cases h
          have hmore : ∀ m' ∈ m :: left, m'.required = false := fun m' hm' => by
            simpa using List.findIdx?_eq_none_iff.1 hfind m' hm'
          exact ⟨[], m :: left, s, rfl, .nil n _ s, hmore, closing_of_takeElementStart hclosed⟩
      · next t hstart =>
        split at h
        · cases h
        · next f r hvalue =>
          obtain ⟨given, more, u, rfl, hvalues, hmore, hclose⟩ := (ih hleft).1 h
          exact ⟨m :: given, more, u, rfl,
            .cons (starts_of_takeElementStart hstart) (Reader.run_of_within hvalue) hvalues, hmore, hclose⟩
    · rintro ⟨given, more, t, hsplit, hvalues, hmore, hclose⟩
      cases hvalues with
      | nil =>
        obtain rfl : m :: left = more := hsplit
        have hnone : (m :: left).findIdx? (·.required) = none :=
          List.findIdx?_eq_none_iff.2 fun m' hm' => hmore m' hm'
        simp only [takeElementStart_of_closing hclose n, hnone]
      | @cons _ _ _ _ u v _ m' f given hstart hvalue hvalues =>
        rw [List.cons_append] at hsplit
        obtain ⟨rfl, rfl⟩ := List.cons.inj hsplit
        obtain ⟨d, w, rfl, hd⟩ := (hneeds m List.mem_cons_self).starts hvalue
        simp only [takeElementStart_of_starts hstart hd, Reader.within_run hvalue]
        exact (ih hleft).2 ⟨given, more, t, rfl, hvalues, hmore, hclose⟩

end Shape

/-! ## Records -/

namespace Reader

variable {r : Reader α}

theorem NeedsValue.bind (h : r.NeedsValue) (f : α → Reader β) : (r.bind f).NeedsValue where
  nil x hx := by
    simp only [Reader.bind] at hx
    split at hx
    · next hrun => exact h.nil _ hrun
    · cases hx
  closing s x hx := by
    simp only [Reader.bind] at hx
    split at hx
    · next hrun => exact h.closing s _ hrun
    · cases hx

theorem needsValue_text : text.NeedsValue where
  nil := nofun
  closing := nofun

theorem needsValue_count : count.NeedsValue where
  nil := nofun
  closing := nofun

end Reader

/-- **A record is read just from symbols that start with it.** -/
theorem Reader.record_run_eq_ok_iff (hnodup : (shape.members.map (·.name)).Nodup)
    (hneeds : ∀ m ∈ shape.members, m.reader.NeedsValue) :
    (Reader.record shape).run s = .ok (a, rest) ↔ shape.Holds s a rest := by
  change shape.take s = .ok (a, rest) ↔ _
  constructor
  · intro h
    unfold Shape.take at h
    split at h
    · cases h
    · next c t hs =>
      split at h
      · next hc =>
        rw [Symbol.eq_char_of_isChar hc] at hs
        obtain ⟨given, left, u, hmembers, hvalues, hleft, hclose⟩ := (Shape.takeListed_eq_ok_iff hneeds).1 h
        exact .list hs hmembers hvalues hleft hclose
      · split at h
        · next hc =>
          rw [Symbol.eq_char_of_isChar hc] at hs
          obtain ⟨taken, u, hmembers, hclose, hcompletes, rfl⟩ := Shape.members_of_takeMembers h
          exact .object hs hmembers hclose hcompletes.once fun m hm hrequired =>
            (hcompletes.required m hm hrequired).resolve_left List.not_mem_nil
        · cases h
  · intro h
    cases h with
    | @object t u _ taken hopen hmembers hclose honce hrequired =>
      have hcompletes : shape.Completes [] taken :=
        ⟨honce, fun name _ => List.not_mem_nil, fun m hm h => .inr (hrequired m hm h)⟩
      rw [Shape.take, hopen]
      exact hmembers.takeMembers hnodup hclose hcompletes shape.blank
    | @list t u _ given left _ hopen hmembers hvalues hleft hclose =>
      rw [Shape.take, hopen]
      exact (Shape.takeListed_eq_ok_iff hneeds).2 ⟨given, left, u, hmembers, hvalues, hleft, hclose⟩

theorem Reader.record_front_eq_ok_iff (hnodup : (shape.members.map (·.name)).Nodup)
    (hneeds : ∀ m ∈ shape.members, m.reader.NeedsValue) :
    (Reader.record shape).front s = .ok a ↔ ∃ rest, shape.Holds s a rest := by
  simp only [← record_run_eq_ok_iff hnodup hneeds, front]
  cases (Reader.record shape).run s with
  | error e => exact ⟨nofun, nofun⟩
  | ok x =>
    constructor
    · intro h
      cases h
      exact ⟨x.2, rfl⟩
    · rintro ⟨rest, h⟩
      cases h
      rfl

end StaffIndex.Json
