import StaffIndex.Proofs.Search.Answers

/-!
# What the suggesting search finds

An id fits a list of tokens if it is filed under a key that begins with the last of them and under each of the others
(`Suggests`). A search shows the smallest ids that fit the tokens of the query (`suggest_smallest`).

- Only the ids in the rows count, and which of them all the lists have (`suggestions_congr`): not the order of the rows
  or of the lists, nor how often an id is in a row or a list is repeated.
- The ids in the rows that start with the last token are those filed under a key that does (`occurs_prefixed`), so the
  candidates are the ids that fit (`mem_candidatesOf`).
-/

namespace StaffIndex.Search

open Stores

variable {index : Index} {id : EmployeeId}

/-- The id is filed under a key that begins with the last token and under each of the tokens before. -/
def Suggests (index : Index) (tokens : List String) (id : EmployeeId) : Prop :=
  (∃ key, (tokens.getLast?.getD "").toList <+: key.toList ∧ id ∈ index.idsAt key) ∧
    ∀ token ∈ tokens.dropLast, id ∈ index.idsAt token

/-! ## Candidates -/

/-- The order of the rows and of the lists and repetitions in either do not matter. -/
theorem suggestions_congr {exact exact' : List (List EmployeeId)} {rows rows' : List Row}
    (hrows : ∀ id, (∃ row ∈ rows, id ∈ row.ids) ↔ ∃ row ∈ rows', id ∈ row.ids)
    (hexact : ∀ id, (∀ ids ∈ exact, id ∈ ids) ↔ ∀ ids ∈ exact', id ∈ ids) (cap : Nat) :
    suggestions exact rows cap = suggestions exact' rows' cap := by
  have hcandidates : candidates exact rows = candidates exact' rows' := by
    refine SortedSet.ext fun id => ?_
    rw [mem_candidates, mem_candidates, hrows id, hexact id]
  rw [suggestions_eq_take, suggestions_eq_take, hcandidates]

/-! ## Rows that start with the last token -/

theorem occurs_prefixed {start : String} :
    (∃ row ∈ prefixed index start, id ∈ row.ids) ↔ ∃ key, start.toList <+: key.toList ∧ id ∈ index.idsAt key := by
  simp only [mem_prefixed, and_assoc]
  exact Index.exists_mem_toRows_iff (p := fun key => start.toList <+: key.toList)

/-- All ids that fit the tokens. -/
def candidatesOf (index : Index) (tokens : List String) : SortedSet EmployeeId :=
  candidates (tokens.dropLast.map index.idsAt) (prefixed index (tokens.getLast?.getD ""))

theorem mem_candidatesOf {tokens : List String} : id ∈ candidatesOf index tokens ↔ Suggests index tokens id := by
  rw [candidatesOf, mem_candidates, occurs_prefixed, List.forall_mem_map]
  rfl

theorem run_suggest_candidatesOf (s : Stores) (settings : Settings) (query : String) :
    s.run (suggest settings query) = (.ok (s.staff.summaries
      ((candidatesOf s.index (Key.tokens query)).toList.take settings.suggestLimit)), s) :=
  run_suggest s settings query

theorem Suggests.congr {other : Index} {tokens tokens' : List String} (hlast : tokens'.getLast? = tokens.getLast?)
    (hleading : ∀ token, token ∈ tokens'.dropLast ↔ token ∈ tokens.dropLast)
    (hids : ∀ key id, id ∈ other.idsAt key ↔ id ∈ index.idsAt key) (id : EmployeeId) :
    Suggests other tokens' id ↔ Suggests index tokens id := by
  simp only [Suggests, hlast, hleading, hids]

/-! ## Suggesting search -/

/-- Stored employees are shown in the order of their ids. -/
theorem pairwise_summaries {staff : Staff} (hkeyed : ∀ id e, staff.find? id = some e → e.id = id)
    {ids : List EmployeeId} (h : ids.Pairwise fun a b => compare a b = .lt) :
    (staff.summaries ids).Pairwise fun x y => compare x.id y.id = .lt := by
  refine List.pairwise_filterMap.2 (h.imp fun {a b} hab x hx y hy => ?_)
  obtain ⟨e, he, rfl⟩ := Option.map_eq_some_iff.1 hx
  obtain ⟨f, hf, rfl⟩ := Option.map_eq_some_iff.1 hy
  have hea : e.summary.id = a := hkeyed a e he
  have hfb : f.summary.id = b := hkeyed b f hf
  rw [hea, hfb]
  exact hab

/-- **Suggesting search.** The ids that fit the tokens of the query form one ascending list, and the search shows those
among the first of them that are stored. The answer depends only on the last token, on the set of the tokens before, and
on which ids are in which rows; and whatever rows a store replies with, their order and their repetitions are lost. -/
theorem suggest_smallest (s : Stores) (settings : Settings) (query : String) :
    (∃ ids : List EmployeeId, ids.Pairwise (fun a b => compare a b = .lt) ∧
      (∀ id, id ∈ ids ↔ Suggests s.index (Key.tokens query) id) ∧
      s.run (suggest settings query) = (.ok (s.staff.summaries (ids.take settings.suggestLimit)), s) ∧
      ((∀ id e, s.staff.find? id = some e → e.id = id) →
        (s.staff.summaries (ids.take settings.suggestLimit)).Pairwise fun x y => compare x.id y.id = .lt)) ∧
    (∀ (index : Index) (other : String), (Key.tokens other).getLast? = (Key.tokens query).getLast? →
      (∀ token, token ∈ (Key.tokens other).dropLast ↔ token ∈ (Key.tokens query).dropLast) →
      (∀ key id, id ∈ index.idsAt key ↔ id ∈ s.index.idsAt key) →
      (Stores.run ⟨index, s.staff⟩ (suggest settings other)).1 = (s.run (suggest settings query)).1) ∧
    ∀ exact exact' rows rows', (∀ id, (∃ row ∈ rows, id ∈ row.ids) ↔ ∃ row ∈ rows', id ∈ row.ids) →
      (∀ id, (∀ ids ∈ exact, id ∈ ids) ↔ ∀ ids ∈ exact', id ∈ ids) →
      suggestions exact rows settings.suggestLimit = suggestions exact' rows' settings.suggestLimit := by
  refine ⟨⟨_, SortedSet.ascending _, fun id => mem_candidatesOf, run_suggest_candidatesOf s settings query,
    fun hkeyed => ?_⟩, fun index other hlast hleading hids => ?_,
    fun _ _ _ _ hrows hexact => suggestions_congr hrows hexact _⟩
  · exact pairwise_summaries hkeyed ((SortedSet.ascending _).sublist (List.take_sublist _ _))
  · have hfit : candidatesOf index (Key.tokens other) = candidatesOf s.index (Key.tokens query) := by
      refine SortedSet.ext fun id => ?_
      rw [mem_candidatesOf, mem_candidatesOf]
      exact Suggests.congr hlast hleading hids id
    rw [run_suggest_candidatesOf, run_suggest_candidatesOf, hfit]

/-- Two of the team match both words before the last one; the second of them has left. -/
def teamOfAnnas : Stores where
  index := ((Index.empty.append "e1" ["core", "anna", "orlova"]).append "e2" ["core", "anna"]).append "e3" ["core"]
  staff := (Staff.empty.insert { id := "e1", name := "Anna", surname := "Orlova", team := some "Core" }).insert
    { id := "e3", name := "Boris", surname := "Orlov", team := some "Core" }

/-- The words before the last one in another order and one of them twice, over rows in which one id is repeated. -/
theorem suggest_smallest_respelled :
    (Stores.run ⟨teamOfAnnas.index.append "e1" ["core"], teamOfAnnas.staff⟩ (suggest {} "ANNA core anna o")).1 =
      (teamOfAnnas.run (suggest {} "Core Anna O")).1 ∧
    (teamOfAnnas.run (suggest {} "Core Anna O")).1 = .ok [⟨"e1", "Anna", "Orlova", none, none⟩] := by
  refine ⟨(suggest_smallest teamOfAnnas {} "Core Anna O").2.1 _ "ANNA core anna o" (by decide +kernel) ?_ ?_, rfl⟩
  · have hleading : (Key.tokens "ANNA core anna o").dropLast = ["anna", "core", "anna"] := by decide +kernel
    have hquery : (Key.tokens "Core Anna O").dropLast = ["core", "anna"] := by decide +kernel
    intro token
    rw [hleading, hquery]
    simp only [List.mem_cons, List.not_mem_nil, or_false]
    grind
  · intro key id
    have hfiled : "e1" ∈ teamOfAnnas.index.idsAt "core" := by decide +kernel
    rw [Index.mem_idsAt_append, List.mem_singleton]
    constructor
    · rintro (hid | ⟨rfl, rfl⟩)
      · exact hid
      · exact hfiled
    · exact .inl

end StaffIndex.Search
