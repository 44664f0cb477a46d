import Mathlib.Data.Set.Card
import StaffIndex.Proofs.Search.Ranked
import StaffIndex.Proofs.Search.Suggested

/-!
# Exact hits in the other searches

An id that is filed under the key of a word is a candidate of every search for the word: its key begins with the word
(`suggests_of_mem`), and is as similar to it as can be (`resembles_of_mem`). So whoever the exact search finds is found
by the others too, if they show as many as there are candidates (`exact_found_by_others`).
-/

namespace StaffIndex.Search

open Stores

variable {index : Index} {id : EmployeeId}

/-- The id is filed under a key that resembles one of the tokens. -/
def Resembles (index : Index) (tokens : List String) (threshold : Float) (id : EmployeeId) : Prop :=
  ∃ token ∈ tokens, ∃ key, Text.similarity token key > threshold ∧ id ∈ index.idsAt key

/-! ## Candidates -/

theorem occurs_similar {tokens : List String} {threshold : Float} :
    Occurs (similar index tokens threshold) id ↔ Resembles index tokens threshold id := by
  constructor
  · rintro ⟨row, hrow, hid⟩
    obtain ⟨r, hr, token, ht, hsim, rfl⟩ := mem_similar.1 hrow
    exact ⟨token, ht, Index.exists_mem_toRows_iff.1 ⟨r, hr, hsim, hid⟩⟩
  · rintro ⟨token, ht, hkey⟩
    obtain ⟨r, hr, hsim, hid⟩ := Index.exists_mem_toRows_iff.2 hkey
    exact ⟨_, mem_similar.2 ⟨r, hr, token, ht, hsim, rfl⟩, hid⟩

theorem mem_ranking_similar {tokens : List String} {threshold : Float} :
    id ∈ ranking (similar index tokens threshold) ↔ Resembles index tokens threshold id :=
  (mem_ranking (nonNegative_similar _ _ _)).trans occurs_similar

theorem suggests_of_mem {key : String} (h : id ∈ index.idsAt key) : Suggests index [key] id :=
  ⟨⟨key, List.prefix_refl _, h⟩, fun _ ht => nomatch ht⟩

/-- A key with a word character is similar enough to itself for every threshold below one. -/
theorem resembles_of_mem {key : String} {threshold : Float} (hword : ∃ c ∈ key.toList, Text.isWordChar c = true)
    (ht : threshold < 1) (h : id ∈ index.idsAt key) : Resembles index [key] threshold id := by
  refine ⟨key, List.mem_singleton_self key, key, ?_, h⟩
  rw [Text.similarity_self hword]
  exact ht

/-! ## Lists of all candidates -/

variable {ids : List EmployeeId} {candidate : EmployeeId → Prop}

/-- A list of all candidates, each once, is as long as there are candidates. -/
theorem encard_eq_length (hnodup : ids.Nodup) (hmem : ∀ id, id ∈ ids ↔ candidate id) :
    {id | candidate id}.encard = ids.length := by
  have hset : {id | candidate id} = (ids.toFinset : Set EmployeeId) := by
    ext id
    simp [hmem]
  rw [hset, Set.encard_coe_eq_coe_finsetCard, List.toFinset_card_of_nodup hnodup]

theorem take_eq_self_of_encard_le {n : Nat} (hnodup : ids.Nodup) (hmem : ∀ id, id ∈ ids ↔ candidate id)
    (hle : {id | candidate id}.encard ≤ n) : ids.take n = ids := by
  rw [encard_eq_length hnodup hmem] at hle
  exact List.take_of_length_le (by exact_mod_cast hle)

/-- A suggesting search with room for all candidates shows every one that is stored. -/
theorem shown_of_suggests {s : Stores} {settings : Settings} {query : String}
    (hle : {id | Suggests s.index (Key.tokens query) id}.encard ≤ settings.suggestLimit)
    (hid : Suggests s.index (Key.tokens query) id) {e : Employee} (he : s.staff.find? id = some e) :
    ∃ shown, s.run (suggest settings query) = (.ok shown, s) ∧ e.summary ∈ shown := by
  refine ⟨_, run_suggest_candidatesOf s settings query, Staff.mem_summaries.2 ⟨id, ?_, e, he, rfl⟩⟩
  rw [take_eq_self_of_encard_le (SortedSet.nodup_toList _) (fun _ => mem_candidatesOf) hle]
  exact mem_candidatesOf.2 hid

/-- A ranked search with room for all candidates shows every one that is stored. -/
theorem shown_of_resembles {s : Stores} {settings : Settings} {query : String} {limit : Nat} (hl : limit ≠ 0)
    (hle : {id | Resembles s.index (Key.tokens query) settings.threshold id}.encard ≤ ↑(min limit settings.maxLimit))
    (hid : Resembles s.index (Key.tokens query) settings.threshold id) {e : Employee} (he : s.staff.find? id = some e) :
    ∃ shown, s.run (ranked settings query limit) = (.ok shown, s) ∧ e.summary ∈ shown := by
  refine ⟨_, run_ranked s settings query hl, Staff.mem_summaries.2 ⟨id, ?_, e, he, rfl⟩⟩
  rw [rank_eq_take, take_eq_self_of_encard_le (nodup_ranking _) (fun _ => mem_ranking_similar) hle]
  exact mem_ranking_similar.2 hid

/-! ## Exact hits -/

/-- **Exact hits.** Whoever the exact search finds for a word is a candidate of the suggesting search, and one of the
ranked search if the key of the word has a word character and the threshold is below one. A candidate is shown if as many
may be shown as there are candidates. -/
theorem exact_found_by_others (s : Stores) (settings : Settings) {query : String} (hq : ' ' ∉ query.toList) :
    ∃ found, s.run (exact query) = (.ok found, s) ∧ ∀ x ∈ found, ∃ id e, s.staff.find? id = some e ∧ e.summary = x ∧
      (Suggests s.index (Key.tokens query) id ∧
        ({id | Suggests s.index (Key.tokens query) id}.encard ≤ settings.suggestLimit →
          ∃ shown, s.run (suggest settings query) = (.ok shown, s) ∧ x ∈ shown)) ∧
      ((∃ c ∈ (Key.ofText query).toList, Text.isWordChar c = true) → settings.threshold < 1 →
        Resembles s.index (Key.tokens query) settings.threshold id ∧
        ∀ limit, limit ≠ 0 →
          {id | Resembles s.index (Key.tokens query) settings.threshold id}.encard ≤ ↑(min limit settings.maxLimit) →
          ∃ shown, s.run (ranked settings query limit) = (.ok shown, s) ∧ x ∈ shown) := by
  refine ⟨_, run_exact s query, fun x hx => ?_⟩
  obtain ⟨id, hfiled, e, he, rfl⟩ := Staff.mem_summaries.1 hx
  have hid : id ∈ s.index.idsAt (Key.ofText query) := List.mem_eraseDups.1 hfiled
  have hsuggests : Suggests s.index (Key.tokens query) id := Key.tokens_eq_singleton hq ▸ suggests_of_mem hid
  refine ⟨id, e, he, rfl, ⟨hsuggests, fun hle => shown_of_suggests hle hsuggests he⟩, fun hword ht => ?_⟩
  have hresembles : Resembles s.index (Key.tokens query) settings.threshold id :=
    Key.tokens_eq_singleton hq ▸ resembles_of_mem hword ht hid
  exact ⟨hresembles, fun limit hl hle => shown_of_resembles hl hle hresembles he⟩

/-- The namesakes that are stored are found by all three searches. -/
theorem exact_found_by_others_namesakes : ∃ found, namesakes.run (exact "ANNA") = (.ok found, namesakes) ∧
    found.length = 2 ∧ ∀ x ∈ found,
      (∃ shown, namesakes.run (suggest {} "ANNA") = (.ok shown, namesakes) ∧ x ∈ shown) ∧
      ∃ shown, namesakes.run (ranked {} "ANNA" 3) = (.ok shown, namesakes) ∧ x ∈ shown := by
  have hq : ' ' ∉ "ANNA".toList := by decide
  have hword : ∃ c ∈ (Key.ofText "ANNA").toList, Text.isWordChar c = true :=
    ⟨'a', by decide +kernel, by decide +kernel⟩
  have hsuggests : {id | Suggests namesakes.index (Key.tokens "ANNA") id}.encard ≤ (5 : Nat) := by
    rw [encard_eq_length (SortedSet.nodup_toList _) fun _ => mem_candidatesOf]
    exact_mod_cast (by decide +kernel)
  have hresembles : {id | Resembles namesakes.index (Key.tokens "ANNA") 0.4 id}.encard ≤ (3 : Nat) := by
    rw [encard_eq_length (nodup_ranking _) fun _ => mem_ranking_similar, ranking, List.length_map, List.length_mergeSort]
    exact_mod_cast (by decide +kernel)
  obtain ⟨found, hrun, hfound⟩ := exact_found_by_others namesakes {} hq
  have hlist : namesakes.staff.summaries (namesakes.index.idsAt (Key.ofText "ANNA")).eraseDups = found := by
    rw [run_exact] at hrun
    exact Except.ok.inj (congrArg Prod.fst hrun)
  refine ⟨found, hrun, hlist ▸ by decide +kernel, fun x hx => ?_⟩
  obtain ⟨id, e, -, -, ⟨-, hsuggested⟩, hranked⟩ := hfound x hx
  exact ⟨hsuggested hsuggests, (hranked hword (by decide)).2 3 (by decide) hresembles⟩

end StaffIndex.Search
