import StaffIndex.CommandLine.Config
import StaffIndex.Proofs.Binary64.NonNegative
import Mathlib.Data.List.Induction

/-!
# What the arguments configure

The arguments are some flags with their values, and other arguments between them (`Scans`). What is configured can be read
off the list of the flags: each setting is the one that its flag has last, and the first flag without a value or with a bad
one is the error (`Config.firstError_or_lastValues`).

A step of the scan takes one flag (`Scanned.take`). After it each setting is still that of the last such flag, and one that
a search can use (`Scanned.Shows.take`), and so it is after a whole scan (`Scanned.Shows.run`).
-/

namespace StaffIndex

/-- A flag among the arguments, with the argument after it if there is one. -/
structure Occurrence where
  flag : Flag
  value? : Option String

/-- The flags among the arguments. Each takes the argument after it, whatever that is. -/
inductive Scans : List String → List Occurrence → Prop
  | nil : Scans [] []
  | other {argument : String} {arguments : List String} {os : List Occurrence}
    (hother : ∀ flag : Flag, flag.text ≠ argument) (h : Scans arguments os) : Scans (argument :: arguments) os
  | flag {flag : Flag} {argument value : String} {arguments : List String} {os : List Occurrence}
    (hflag : flag.text = argument) (h : Scans arguments os) :
    Scans (argument :: value :: arguments) (⟨flag, some value⟩ :: os)
  | last {flag : Flag} {argument : String} (hflag : flag.text = argument) : Scans [argument] [⟨flag, none⟩]

/-- What is wrong with a flag by itself. -/
inductive Occurrence.Fails : Occurrence → ConfigError → Prop
  | missingValue (flag : Flag) : Fails ⟨flag, none⟩ (.missingValue flag)
  | badAddress {value : String} (h : Net.Address.parse value = none) : Fails ⟨.bind, some value⟩ .badAddress
  | badThreshold {value : String} {e : Decimal.FloatError} (h : Decimal.readFloat value = .error e) :
    Fails ⟨.threshold, some value⟩ (.badThreshold e)
  | thresholdOutOfRange {value : String} {x : Float} (h : Decimal.readFloat value = .ok x) (hx : ¬ (0 ≤ x ∧ x ≤ 1)) :
    Fails ⟨.threshold, some value⟩ .thresholdOutOfRange
  | badLimit {value : String} {e : Decimal.CountError} (h : Decimal.readCount value = .error e) :
    Fails ⟨.maxLimit, some value⟩ (.badLimit e)
  | zeroLimit {value : String} (h : Decimal.readCount value = .ok 0) : Fails ⟨.maxLimit, some value⟩ .zeroLimit

/-- The value that the flag has last. -/
def lastValue (flag : Flag) (os : List Occurrence) : Option String :=
  (os.filter (·.flag = flag)).getLast?.bind (·.value?)

/-- Each setting is that of the last such flag, and otherwise the usual one, or for the database that of the
environment. -/
structure Config.Follows (os : List Occurrence) (databaseUrl : Option String) (c : Config) : Prop where
  address : (lastValue .bind os).bind Net.Address.parse = some c.address
  databaseUrl : c.databaseUrl = (lastValue .databaseUrl os).or databaseUrl
  seedPath : c.seedPath = lastValue .seed os
  threshold : (lastValue .threshold os).elim (.ok 0.4) Decimal.readFloat = .ok c.search.threshold
  maxLimit : (lastValue .maxLimit os).elim (.ok 100) Decimal.readCount = .ok c.search.maxLimit
  suggestLimit : c.search.suggestLimit = 5

variable {arguments : List String} {os os' before after : List Occurrence} {o : Occurrence} {flag : Flag}
  {c d : Scanned} {e : ConfigError}

/-! ## Flags among arguments -/

namespace Flag

theorem text_inj {f g : Flag} : f.text = g.text ↔ f = g := by
  cases f <;> cases g <;> decide

theorem ofText?_eq_some_iff {argument : String} : ofText? argument = some flag ↔ flag.text = argument := by
  constructor
  · intro h
    simpa using List.find?_some h
  · rintro rfl
    cases flag <;> rfl

theorem ofText?_eq_none_iff {argument : String} : ofText? argument = none ↔ ∀ flag : Flag, flag.text ≠ argument := by
  rw [Option.eq_none_iff_forall_ne_some]
  exact forall_congr' fun flag => not_congr ofText?_eq_some_iff

end Flag

theorem exists_scans (arguments : List String) : ∃ os, Scans arguments os := by
  -- The scan goes on two arguments later after a flag, and otherwise with the next one.
  induction arguments using List.twoStepInduction with
  | nil => exact ⟨[], .nil⟩
  | singleton argument =>
    cases h : Flag.ofText? argument with
    | none => exact ⟨[], .other (Flag.ofText?_eq_none_iff.1 h) .nil⟩
    | some flag => exact ⟨_, .last (Flag.ofText?_eq_some_iff.1 h)⟩
  | cons_cons argument value arguments ih ih' =>
    cases h : Flag.ofText? argument with
    | none =>
      obtain ⟨os, hos⟩ := ih' value
      exact ⟨os, .other (Flag.ofText?_eq_none_iff.1 h) hos⟩
    | some flag =>
      obtain ⟨os, hos⟩ := ih
      exact ⟨_, .flag (Flag.ofText?_eq_some_iff.1 h) hos⟩

theorem Scans.unique (h : Scans arguments os) (h' : Scans arguments os') : os = os' := by
  induction h generalizing os' with
  | nil =>
    cases h'
    rfl
  | other hother _ ih =>
    cases h' with
    | other _ h' => exact ih h'
    | flag hflag _ => exact absurd hflag (hother _)
    | last hflag => exact absurd hflag (hother _)
  | flag hflag _ ih =>
    cases h' with
    | other hother _ => exact absurd hflag (hother _)
    | flag hflag' h' => rw [ih h', Flag.text_inj.1 (hflag.trans hflag'.symm)]
  | last hflag =>
    cases h' with
    | other hother _ => exact absurd hflag (hother _)
    | last hflag' => rw [Flag.text_inj.1 (hflag.trans hflag'.symm)]

/-! ## Last values -/

theorem lastValue_concat (os : List Occurrence) (flag : Flag) (value? : Option String) :
    lastValue flag (os ++ [⟨flag, value?⟩]) = value? := by
  simp [lastValue]

theorem lastValue_concat_of_ne (os : List Occurrence) (h : o.flag ≠ flag) :
    lastValue flag (os ++ [o]) = lastValue flag os := by
  simp [lastValue, h]

/-- A flag that occurs, always with a value, has a last value. -/
theorem exists_lastValue (hvalues : ∀ o ∈ os, o.value? ≠ none) (h : ∃ o ∈ os, o.flag = flag) :
    ∃ value, lastValue flag os = some value := by
  obtain ⟨o, ho, hflag⟩ := h
  have hne : os.filter (·.flag = flag) ≠ [] := List.ne_nil_of_mem (List.mem_filter.2 ⟨ho, by simpa using hflag⟩)
  have hlast := List.getLast_mem hne
  rw [lastValue, List.getLast?_eq_some_getLast hne]
  exact Option.ne_none_iff_exists'.1 (hvalues _ (List.mem_filter.1 hlast).1)

theorem lastValue_eq_none (h : ∀ o ∈ os, o.flag ≠ flag) : lastValue flag os = none := by
  have hnil : os.filter (·.flag = flag) = [] := List.filter_eq_nil_iff.2 fun o ho => by simpa using h o ho
  rw [lastValue, hnil]
  rfl

/-! ## Steps of the scan -/

namespace Search.Settings

/-- A search can use the settings. -/
structure Usable (settings : Search.Settings) : Prop where
  threshold_nonneg : 0 ≤ settings.threshold
  threshold_le_one : settings.threshold ≤ 1
  maxLimit_pos : 1 ≤ settings.maxLimit

theorem usable_default : Usable {} := ⟨by decide, by decide, by decide⟩

end Search.Settings

namespace Scanned

/-- Scans one flag. -/
def take (c : Scanned) (o : Occurrence) : Except ConfigError Scanned :=
  match o.value? with
  | none => .error (.missingValue o.flag)
  | some value => c.set o.flag value

/-- A scan takes the flags among the arguments one after the other. -/
theorem scan_of_scans (h : Scans arguments os) (c : Scanned) : c.scan arguments = os.foldlM take c := by
  induction h generalizing c with
  | nil => rfl
  | other hother _ ih =>
    rw [scan, Flag.ofText?_eq_none_iff.2 hother]
    exact ih c
  | @flag flag argument value arguments os hflag _ ih =>
    rw [scan, Flag.ofText?_eq_some_iff.2 hflag, List.foldlM_cons]
    dsimp only [take]
    cases c.set flag value with
    | error e => rfl
    | ok d => exact ih d
  | last hflag =>
    rw [scan, Flag.ofText?_eq_some_iff.2 hflag]
    rfl

/-- What the last value of a flag says of its setting. -/
def Has (c : Scanned) : Flag → Option String → Prop
  | .bind, value? => value?.map Net.Address.parse = c.address.map some
  | .databaseUrl, value? => c.databaseUrl = value?
  | .seed, value? => c.seedPath = value?
  | .threshold, value? => value?.elim (.ok 0.4) Decimal.readFloat = .ok c.search.threshold
  | .maxLimit, value? => value?.elim (.ok 100) Decimal.readCount = .ok c.search.maxLimit

/-- How a flag with a value is set. -/
inductive Sets (c : Scanned) : Flag → String → Scanned → Prop
  | bind {value : String} {address : Net.Address} (h : Net.Address.parse value = some address) :
    Sets c .bind value { c with address := some address }
  | databaseUrl (value : String) : Sets c .databaseUrl value { c with databaseUrl := some value }
  | seed (value : String) : Sets c .seed value { c with seedPath := some value }
  | threshold {value : String} {x : Float} (h : Decimal.readFloat value = .ok x) (hx : 0 ≤ x ∧ x ≤ 1) :
    Sets c .threshold value { c with search.threshold := x }
  | maxLimit {value : String} {n : Nat} (h : Decimal.readCount value = .ok n) (hn : n ≠ 0) :
    Sets c .maxLimit value { c with search.maxLimit := n }

theorem set_cases (c : Scanned) (flag : Flag) (value : String) :
    (∃ d, c.set flag value = .ok d ∧ c.Sets flag value d) ∨
      ∃ e, c.set flag value = .error e ∧ Occurrence.Fails ⟨flag, some value⟩ e := by
  unfold set
  cases flag with
  | bind =>
    dsimp only
    split
    · next h => exact .inl ⟨_, rfl, .bind h⟩
    · next h => exact .inr ⟨_, rfl, .badAddress h⟩
  | databaseUrl => exact .inl ⟨_, rfl, .databaseUrl value⟩
  | seed => exact .inl ⟨_, rfl, .seed value⟩
  | threshold =>
    dsimp only
    split
    · next h => exact .inr ⟨_, rfl, .badThreshold h⟩
    · next x h =>
      split
      · next hx => exact .inl ⟨_, rfl, .threshold h (by simpa using hx)⟩
      · next hx => exact .inr ⟨_, rfl, .thresholdOutOfRange h (by simpa using hx)⟩
  | maxLimit =>
    dsimp only
    split
    · next h => exact .inr ⟨_, rfl, .badLimit h⟩
    · next n h =>
      split
      · next hn => exact .inr ⟨_, rfl, .zeroLimit (hn ▸ h)⟩
      · next hn => exact .inl ⟨_, rfl, .maxLimit h hn⟩

theorem sets_of_set {value : String} (h : c.set flag value = .ok d) : c.Sets flag value d := by
  rcases c.set_cases flag value with ⟨d', hset, hsets⟩ | ⟨e, hset, -⟩
  · rw [hset] at h
    cases h
    exact hsets
  · rw [hset] at h
    cases h

/-- A flag is not taken just if there is something wrong with it, whatever was taken before. -/
theorem take_eq_error_iff : c.take o = .error e ↔ o.Fails e := by
  constructor
  · intro h
    obtain ⟨flag, _ | value⟩ := o
    · cases h
      exact .missingValue flag
    · change c.set flag value = .error e at h
      rcases c.set_cases flag value with ⟨d, hset, -⟩ | ⟨e', hset, hfails⟩
      · rw [hset] at h
        cases h
      · rw [hset] at h
        cases h
        exact hfails
  · intro h
    cases h with
    | missingValue flag => rfl
    | badAddress h | badThreshold h | badLimit h => simp only [take, set, h]
    | thresholdOutOfRange h hx =>
      simp only [take, set, h]
      rw [if_neg (by simpa using hx)]
    | zeroLimit h =>
      simp only [take, set, h]
      rfl

namespace Sets

variable {value : String} {value? : Option String} {f : Flag}

theorem has (h : c.Sets flag value d) : d.Has flag (some value) := by
  cases h with
  | bind h => exact congrArg some h
  | databaseUrl | seed => rfl
  | threshold h | maxLimit h => exact h

/-- The settings of the other flags stay. -/
theorem has_of_ne (h : c.Sets flag value d) (hf : flag ≠ f) (hc : c.Has f value?) : d.Has f value? := by
  cases h with
  | bind =>
    cases f with
    | bind => exact absurd rfl hf
    | _ => exact hc
  | databaseUrl =>
    cases f with
    | databaseUrl => exact absurd rfl hf
    | _ => exact hc
  | seed =>
    cases f with
    | seed => exact absurd rfl hf
    | _ => exact hc
  | threshold =>
    cases f with
    | threshold => exact absurd rfl hf
    | _ => exact hc
  | maxLimit =>
    cases f with
    | maxLimit => exact absurd rfl hf
    | _ => exact hc

theorem usable (h : c.Sets flag value d) (hc : c.search.Usable) : d.search.Usable := by
  cases h with
  | bind | databaseUrl | seed => exact ⟨hc.threshold_nonneg, hc.threshold_le_one, hc.maxLimit_pos⟩
  | threshold _ hx => exact ⟨hx.1, hx.2, hc.maxLimit_pos⟩
  | maxLimit _ hn => exact ⟨hc.threshold_nonneg, hc.threshold_le_one, Nat.pos_of_ne_zero hn⟩

/-- There is no flag for the number of suggestions. -/
theorem suggestLimit (h : c.Sets flag value d) : d.search.suggestLimit = c.search.suggestLimit := by
  cases h with
  | bind | databaseUrl | seed | threshold | maxLimit => rfl

end Sets

/-- Each setting is that of the last such flag, or still the usual one, and a search can use it. -/
structure Shows (os : List Occurrence) (c : Scanned) : Prop where
  has : ∀ flag, c.Has flag (lastValue flag os)
  suggestLimit : c.search.suggestLimit = 5
  usable : c.search.Usable

theorem shows_nil : Shows [] {} := by
  refine ⟨fun flag => ?_, rfl, Search.Settings.usable_default⟩
  cases flag with
  | bind | databaseUrl | seed | threshold | maxLimit => rfl

/-- **One flag** replaces its own setting. -/
theorem Shows.take (h : c.Shows os) (htake : c.take o = .ok d) : d.Shows (os ++ [o]) := by
  obtain ⟨flag, _ | value⟩ := o
  · cases htake
  · have hsets : c.Sets flag value d := sets_of_set htake
    refine ⟨fun f => ?_, hsets.suggestLimit.trans h.suggestLimit, hsets.usable h.usable⟩
    by_cases hf : flag = f
    · subst hf
      rw [lastValue_concat]
      exact hsets.has
    · rw [lastValue_concat_of_ne os hf]
      exact hsets.has_of_ne hf (h.has f)

/-! ## Scans -/

theorem foldlM_take_cons_of_ok (htake : c.take o = .ok d) :
    (o :: os).foldlM take c = os.foldlM take d := by
  rw [List.foldlM_cons, htake]
  rfl

theorem foldlM_take_cons_of_error (htake : c.take o = .error e) : (o :: os).foldlM take c = .error e := by
  rw [List.foldlM_cons, htake]
  rfl

/-- **A whole scan** replaces the settings of its flags. -/
theorem Shows.run (h : c.Shows before) (hrun : os.foldlM Scanned.take c = .ok d) : d.Shows (before ++ os) := by
  -- What is shown is that of all flags so far, so the flags before grow as the others get fewer.
  induction os generalizing c before with
  | nil =>
    cases hrun
    rw [List.append_nil]
    exact h
  | cons o os ih =>
    cases htake : c.take o with
    | error e =>
      rw [foldlM_take_cons_of_error htake] at hrun
      cases hrun
    | ok c' =>
      rw [foldlM_take_cons_of_ok htake] at hrun
      rw [List.append_cons]
      exact ih (h.take htake) hrun

/-- Where nothing is wrong with a flag the scan goes on to the end. -/
theorem exists_run (hos : ∀ o ∈ os, ∀ e, ¬ o.Fails e) (c : Scanned) : ∃ d, os.foldlM take c = .ok d := by
  induction os generalizing c with
  | nil => exact ⟨c, rfl⟩
  | cons o os ih =>
    obtain ⟨ho, hos⟩ := List.forall_mem_cons.1 hos
    cases htake : c.take o with
    | error e => exact absurd (take_eq_error_iff.1 htake) (ho e)
    | ok d =>
      rw [foldlM_take_cons_of_ok htake]
      exact ih hos d

/-- The first flag with something wrong ends the scan. -/
theorem run_of_fails (hbefore : ∀ o ∈ before, ∀ e, ¬ o.Fails e) (ho : o.Fails e) (c : Scanned) :
    (before ++ o :: after).foldlM take c = .error e := by
  obtain ⟨d, hd⟩ := exists_run hbefore c
  rw [List.foldlM_append, hd]
  exact foldlM_take_cons_of_error (take_eq_error_iff.2 ho)

/-- Whether there is something wrong with a flag can be computed. -/
theorem not_fails_iff (c : Scanned) : (∀ e, ¬ o.Fails e) ↔ (c.take o).toOption.isSome := by
  simp only [← take_eq_error_iff (c := c)]
  cases c.take o with
  | error e => simp [Except.toOption]
  | ok d => simp [Except.toOption]

end Scanned

/-! ## Configurations -/

namespace Config

variable {databaseUrl : Option String}

/-- A scan that shows an address makes a configuration. -/
theorem follows_of_shows (h : c.Shows os) {address : Net.Address} (haddress : c.address = some address) :
    Follows os databaseUrl ⟨address, c.databaseUrl.or databaseUrl, c.seedPath, c.search⟩ := by
  refine ⟨?_, congrArg (·.or databaseUrl) (h.has .databaseUrl), h.has .seed, h.has .threshold, h.has .maxLimit,
    h.suggestLimit⟩
  have hbind : (lastValue .bind os).map Net.Address.parse = c.address.map some := h.has .bind
  rw [haddress] at hbind
  obtain ⟨value, hvalue, hparse⟩ := Option.map_eq_some_iff.1 hbind
  rw [hvalue]
  exact hparse

theorem ofArguments_of_run_none (hscans : Scans (arguments.drop 1) os) (hrun : os.foldlM Scanned.take {} = .ok c)
    (haddress : c.address = none) : ofArguments arguments databaseUrl = .error .noAddress := by
  simp only [ofArguments, Scanned.scan_of_scans hscans, hrun, haddress]

theorem ofArguments_of_run_some (hscans : Scans (arguments.drop 1) os) (hrun : os.foldlM Scanned.take {} = .ok c)
    {address : Net.Address} (haddress : c.address = some address) :
    ofArguments arguments databaseUrl = .ok ⟨address, c.databaseUrl.or databaseUrl, c.seedPath, c.search⟩ := by
  simp only [ofArguments, Scanned.scan_of_scans hscans, hrun, haddress]

theorem ofArguments_of_run_error (hscans : Scans (arguments.drop 1) os)
    (hrun : os.foldlM Scanned.take {} = .error e) :
    ofArguments arguments databaseUrl = .error e := by
  simp only [ofArguments, Scanned.scan_of_scans hscans, hrun]

theorem usable_of_ofArguments {config : Config} (h : ofArguments arguments databaseUrl = .ok config) :
    config.search.Usable := by
  obtain ⟨os, hscans⟩ := exists_scans (arguments.drop 1)
  cases hrun : os.foldlM Scanned.take {} with
  | error e =>
    rw [ofArguments_of_run_error hscans hrun] at h
    cases h
  | ok c =>
    cases haddress : c.address with
    | none =>
      rw [ofArguments_of_run_none hscans hrun haddress] at h
      cases h
    | some address =>
      rw [ofArguments_of_run_some hscans hrun haddress] at h
      cases h
      exact (Scanned.shows_nil.run hrun).usable

/-- **The first error or the last values.** The arguments after the name of the program have one list of flags. If
something is wrong with any of them, the first such flag is the error. Otherwise the address has to be given, and what is
configured is what each flag has last. Every threshold that is configured is a number from zero to one, and every limit is
positive. -/
theorem firstError_or_lastValues (arguments : List String) (databaseUrl : Option String) :
    ∃ os, (∀ os', Scans (arguments.drop 1) os' ↔ os' = os) ∧
      (∀ before o after e, os = before ++ o :: after → (∀ o ∈ before, ∀ e, ¬ o.Fails e) → o.Fails e →
        ofArguments arguments databaseUrl = .error e) ∧
      ((∀ o ∈ os, ∀ e, ¬ o.Fails e) →
        ((∀ o ∈ os, o.flag ≠ .bind) → ofArguments arguments databaseUrl = .error .noAddress ∧
          ConfigError.noAddress.message = "--bind is required") ∧
        ((∃ o ∈ os, o.flag = .bind) →
          ∃ c, ofArguments arguments databaseUrl = .ok c ∧ c.Follows os databaseUrl)) ∧
      ∀ c, ofArguments arguments databaseUrl = .ok c → c.search.threshold.isNaN = false ∧
        0 ≤ c.search.threshold ∧ c.search.threshold ≤ 1 ∧ 1 ≤ c.search.maxLimit := by
  obtain ⟨os, hscans⟩ := exists_scans (arguments.drop 1)
  refine ⟨os, fun os' => ⟨fun h => h.unique hscans, fun h => h ▸ hscans⟩, ?_, fun hos => ?_, fun config hconfig => ?_⟩
  · rintro before o after e rfl hbefore ho
    exact ofArguments_of_run_error hscans (Scanned.run_of_fails hbefore ho {})
  · obtain ⟨c, hrun⟩ := Scanned.exists_run hos {}
    have hshows : c.Shows os := Scanned.shows_nil.run hrun
    have hbind : (lastValue .bind os).map Net.Address.parse = c.address.map some := hshows.has .bind
    constructor
    · intro hnone
      rw [lastValue_eq_none hnone] at hbind
      exact ⟨ofArguments_of_run_none hscans hrun (Option.map_eq_none_iff.1 hbind.symm), rfl⟩
    · intro hsome
      have hvalues : ∀ o ∈ os, o.value? ≠ none := by
        rintro ⟨flag, value?⟩ ho rfl
        exact hos _ ho _ (.missingValue flag)
      obtain ⟨value, hvalue⟩ := exists_lastValue hvalues hsome
      rw [hvalue] at hbind
      obtain ⟨address, haddress, -⟩ := Option.map_eq_some_iff.1 hbind.symm
      exact ⟨_, ofArguments_of_run_some hscans hrun haddress, follows_of_shows hshows haddress⟩
  · have husable := usable_of_ofArguments hconfig
    exact ⟨Binary64.isNaN_of_zero_le husable.threshold_nonneg, husable.threshold_nonneg, husable.threshold_le_one,
      husable.maxLimit_pos⟩

/-- The flag for the address takes another flag for its value, a flag for the address is taken for the name of a file, and
the last limit counts. -/
theorem firstError_or_lastValues_flagsAsValues :
    ofArguments ["staff", "--bind", "--seed", "--max-limit", "0"] none = .error .badAddress ∧
      ofArguments ["staff", "127.0.0.1:80", "--seed", "--bind"] none = .error .noAddress ∧
      ∃ c, ofArguments ["staff", "--max-limit", "7", "--verbose", "--bind", "127.0.0.1:80", "--seed", "--bind",
          "--max-limit", "9", "--similarity-threshold", "-0"] (some "postgres") = .ok c ∧
        c.databaseUrl = some "postgres" ∧ c.seedPath = some "--bind" ∧ c.search.maxLimit = 9 ∧
        c.search.threshold.isNaN = false := by
  have hother {argument : String} (h : Flag.ofText? argument = none) : ∀ flag : Flag, flag.text ≠ argument :=
    Flag.ofText?_eq_none_iff.1 h
  refine ⟨?_, ?_, ?_⟩
  · obtain ⟨os, hscans, hfails, -, -⟩ :=
      firstError_or_lastValues ["staff", "--bind", "--seed", "--max-limit", "0"] none
    obtain rfl := (hscans [⟨.bind, some "--seed"⟩, ⟨.maxLimit, some "0"⟩]).1 (.flag rfl (.flag rfl .nil))
    exact hfails [] _ _ _ rfl nofun (.badAddress (by decide +kernel))
  · obtain ⟨os, hscans, -, hos, -⟩ := firstError_or_lastValues ["staff", "127.0.0.1:80", "--seed", "--bind"] none
    obtain rfl := (hscans [⟨.seed, some "--bind"⟩]).1 (.other (hother (by decide)) (.flag rfl .nil))
    have hfine : ∀ o ∈ [Occurrence.mk .seed (some "--bind")], (({} : Scanned).take o).toOption.isSome := by decide
    exact ((hos fun o ho => (Scanned.not_fails_iff {}).2 (hfine o ho)).1 (by decide)).1
  · obtain ⟨os, hscans, -, hos, hrange⟩ := firstError_or_lastValues ["staff", "--max-limit", "7", "--verbose", "--bind",
      "127.0.0.1:80", "--seed", "--bind", "--max-limit", "9", "--similarity-threshold", "-0"] (some "postgres")
    obtain rfl := (hscans [⟨.maxLimit, some "7"⟩, ⟨.bind, some "127.0.0.1:80"⟩, ⟨.seed, some "--bind"⟩,
      ⟨.maxLimit, some "9"⟩, ⟨.threshold, some "-0"⟩]).1
      (.flag rfl (.other (hother (by decide)) (.flag rfl (.flag rfl (.flag rfl (.flag rfl .nil))))))
    have hfine : ∀ o ∈ [Occurrence.mk .maxLimit (some "7"), ⟨.bind, some "127.0.0.1:80"⟩, ⟨.seed, some "--bind"⟩,
        ⟨.maxLimit, some "9"⟩, ⟨.threshold, some "-0"⟩], (({} : Scanned).take o).toOption.isSome := by decide +kernel
    obtain ⟨c, hc, hfollows⟩ := (hos fun o ho => (Scanned.not_fails_iff {}).2 (hfine o ho)).2 (by decide)
    have hlimit : Decimal.readCount "9" = .ok c.search.maxLimit := hfollows.maxLimit
    exact ⟨c, hc, hfollows.databaseUrl, hfollows.seedPath, (Except.ok.inj hlimit).symm, (hrange c hc).1⟩

end Config

end StaffIndex
