import AlertRelay.Config
import AlertRelay.Proofs.Number.Literals

/-!
Times among the settings, as an environment gives them.

An environment with an address of the database always gives settings (`ofEnvironment_eq`), and each
time among them is finite.  It is the number that its variable denotes, else its default; only a
variable that is blank counts as zero.  Main statement: `times_read`.
-/

namespace AlertRelay.Config

open AlertRelay.Double

/-- A time among the settings, with the variable that it is read from and its default. -/
structure Timing where
  source : String
  fallback : Double
  setting : Config → Double

/-- The times among the settings. -/
def timings : List Timing :=
  [⟨"SLACK_LOOKUP_TIMEOUT_MS", 10000, lookupBudget⟩,
    ⟨"SLACK_ASYNC_LOOKUP_TIMEOUT_MS", 180000, asyncLookupBudget⟩,
    ⟨"SLACK_POST_TIMEOUT_MS", 5000, postTimeout⟩,
    ⟨"CHANNEL_LOOKUP_JOB_TTL_MS", 600000, jobTtl⟩]

/-- Whether a variable is there and has nothing but white space. -/
def Environment.HasBlank (env : Environment) (source : String) : Prop :=
  ∃ s, env.lookup source = some s ∧ Blank s

/-- Whether a variable is the text of a finite number. -/
def Environment.Denotes (env : Environment) (source : String) (x : Double) : Prop :=
  ∃ s, env.lookup source = some s ∧ Spells s x ∧ x.isFinite = true

/-- A time is the number that its variable denotes, and its default where the variable denotes
none. -/
structure FallsBack (env : Environment) (c : Config) (t : Timing) : Prop where
  denoted : ∀ x, env.Denotes t.source x → t.setting c = x
  missing : (¬ ∃ x, env.Denotes t.source x) → t.setting c = t.fallback

/-- The time that a variable gives. -/
def timeOf (fallback : Double) (given : Option String) : Double :=
  given.elim fallback fun s => finiteOr fallback (ofText s)

theorem time_of_given (fallback : Double) (path : List String) (given : Option String) :
    time fallback path (given.elim .undefined .text) = .ok (timeOf fallback given) := by
  cases given <;> rfl

theorem textOr_of_given (fallback : String) (path : List String) (given : Option String) :
    textOr fallback path (given.elim .undefined .text) = .ok (given.getD fallback) := by
  cases given <;> rfl

/-- Each setting is read from its variable. -/
theorem get_recordOf (env : Environment) : ∀ s ∈ sources,
    (recordOf env).get s.1 = (env.lookup s.2).elim .undefined .text := by
  simp only [sources, List.forall_mem_cons]
  exact ⟨rfl, rfl, rfl, rfl, rfl, rfl, rfl, fun _ h => absurd h List.not_mem_nil⟩

/-- With an address of the database there are settings. -/
theorem ofEnvironment_eq {env : Environment} {url : String}
    (hurl : env.lookup "DATABASE_URL" = some url) (hne : url ≠ "") :
    ofEnvironment env = .ok
      { databaseUrl := url
        appBaseUrl := withoutSlashes ((env.lookup "APP_BASE_URL").getD "http://localhost:8000")
        lookupBudget := timeOf defaultLookupBudget (env.lookup "SLACK_LOOKUP_TIMEOUT_MS")
        asyncLookupBudget :=
          timeOf defaultAsyncLookupBudget (env.lookup "SLACK_ASYNC_LOOKUP_TIMEOUT_MS")
        postTimeout := timeOf defaultPostTimeout (env.lookup "SLACK_POST_TIMEOUT_MS")
        jobTtl := timeOf defaultJobTtl (env.lookup "CHANNEL_LOOKUP_JOB_TTL_MS")
        corsOrigins := commaList ((env.lookup "CORS_ORIGINS").getD "") } := by
  have hget := get_recordOf env
  simp only [sources, List.forall_mem_cons] at hget
  obtain ⟨hdatabase, happ, hlookup, hasync, hpost, hjob, horigins, _⟩ := hget
  have hrecord : ∃ fields, Schema.record [] [] (recordOf env) = .ok fields := ⟨_, rfl⟩
  obtain ⟨fields, hrecord⟩ := hrecord
  have haddress : Schema.nonEmptyText "Database connection string is required" [databaseUrlName]
      (.text url) = .ok url := if_neg hne
  unfold ofEnvironment ofValue
  simp only [hrecord, hdatabase, hurl, Option.elim_some, haddress, happ, hlookup, hasync, hpost, hjob,
    horigins, time_of_given, textOr_of_given]

section Timings

variable {fallback : Double} {given : Option String}

theorem finiteOr_of_isFinite {x : Double} (h : x.isFinite = true) : finiteOr fallback x = x :=
  if_pos h

theorem isFinite_finiteOr (hfallback : fallback.isFinite = true) (x : Double) :
    (finiteOr fallback x).isFinite = true := by
  unfold finiteOr
  split
  · assumption
  · exact hfallback

theorem isFinite_timeOf (hfallback : fallback.isFinite = true) (given : Option String) :
    (timeOf fallback given).isFinite = true := by
  cases given with
  | none => exact hfallback
  | some s => exact isFinite_finiteOr hfallback _

/-- A blank text is the time zero. -/
theorem timeOf_of_blank {s : String} (h : Blank s) : timeOf fallback (some s) = 0 := by
  have hzero : finiteOr fallback 0 = 0 := finiteOr_of_isFinite (by decide +kernel)
  rw [timeOf, Option.elim_some, ofText_of_blank h, hzero]

/-- The text of a finite number is that time. -/
theorem timeOf_of_spells {s : String} {x : Double} (h : Spells s x) (hx : x.isFinite = true) :
    timeOf fallback (some s) = x := by
  rw [timeOf, Option.elim_some, ofText_of_spells h, finiteOr_of_isFinite hx]

/-- What is neither blank nor the text of a finite number leaves the default. -/
theorem timeOf_of_not_spells {s : String} (hblank : ¬ Blank s)
    (h : ∀ x, Spells s x → ¬ x.isFinite = true) : timeOf fallback (some s) = fallback := by
  rw [timeOf, Option.elim_some]
  apply if_neg
  intro hfinite
  have hne : ofText s ≠ .nan := by
    intro hnan
    rw [hnan] at hfinite
    cases hfinite
  rcases (ofText_eq_iff hne).mp rfl with ⟨hs, _⟩ | hspells
  · exact hblank hs
  · exact h _ hspells hfinite

end Timings

/-- The defaults of the times are finite, and none is zero. -/
theorem fallback_spec : ∀ t ∈ timings, t.fallback.isFinite = true ∧ t.fallback ≠ 0 := by
  simp only [timings, List.forall_mem_cons]
  refine ⟨?_, ?_, ?_, ?_, fun _ h => absurd h List.not_mem_nil⟩ <;> decide +kernel

/-- A time falls back as it should unless its variable is blank. -/
theorem fallsBack_iff {env : Environment} {c : Config} {t : Timing} (ht : t ∈ timings)
    (hread : t.setting c = timeOf t.fallback (env.lookup t.source)) :
    FallsBack env c t ↔ ¬ env.HasBlank t.source := by
  constructor
  · rintro hfalls ⟨s, hlookup, hblank⟩
    -- A blank variable denotes nothing, but is no default either.
    have hnone : ¬ ∃ x, env.Denotes t.source x := by
      rintro ⟨x, s', hlookup', hspells, _⟩
      cases hlookup.symm.trans hlookup'
      exact hspells.not_blank hblank
    have hfallback := hfalls.missing hnone
    rw [hread, hlookup, timeOf_of_blank hblank] at hfallback
    exact (fallback_spec t ht).2 hfallback.symm
  · intro hblank
    constructor
    · rintro x ⟨s, hlookup, hspells, hx⟩
      rw [hread, hlookup, timeOf_of_spells hspells hx]
    · intro hnone
      rw [hread]
      cases hlookup : env.lookup t.source with
      | none => rfl
      | some s =>
          apply timeOf_of_not_spells
          · exact fun hs => hblank ⟨s, hlookup, hs⟩
          · exact fun x hspells hx => hnone ⟨x, s, hlookup, hspells, hx⟩

/-- With an address of the database there are settings, and each time is read from its variable. -/
theorem exists_settings {env : Environment} {url : String}
    (hurl : env.lookup "DATABASE_URL" = some url) (hne : url ≠ "") :
    ∃ c, ofEnvironment env = .ok c ∧
      ∀ t ∈ timings, t.setting c = timeOf t.fallback (env.lookup t.source) := by
  refine ⟨_, ofEnvironment_eq hurl hne, ?_⟩
  simp only [timings, List.forall_mem_cons]
  exact ⟨rfl, rfl, rfl, rfl, fun _ h => absurd h List.not_mem_nil⟩

/-- An environment with an address of the database gives settings whose times are finite.  Each of
them is the number that its variable denotes, and else its default, just if the variable is not
blank; a blank one gives the time zero. -/
theorem times_read {env : Environment} {url : String}
    (hurl : env.lookup "DATABASE_URL" = some url) (hne : url ≠ "") :
    ∃ c, ofEnvironment env = .ok c ∧ ∀ t ∈ timings, (t.setting c).isFinite = true ∧
      (FallsBack env c t ↔ ¬ env.HasBlank t.source) ∧
      (env.HasBlank t.source → t.setting c = 0) := by
  obtain ⟨c, hc, hreads⟩ := exists_settings hurl hne
  refine ⟨c, hc, ?_⟩
  intro t ht
  have hread := hreads t ht
  refine ⟨?_, fallsBack_iff ht hread, ?_⟩
  · rw [hread]
    exact isFinite_timeOf (fallback_spec t ht).1 _
  · rintro ⟨s, hlookup, hblank⟩
    rw [hread, hlookup, timeOf_of_blank hblank]

/-- An address, a hexadecimal time with white space around it, one that is too large, and one that
is blank. -/
def mixedEnvironment : Environment :=
  [("DATABASE_URL", "postgres://x"), ("SLACK_LOOKUP_TIMEOUT_MS", " 0x10 "),
    ("SLACK_ASYNC_LOOKUP_TIMEOUT_MS", "1e400"), ("SLACK_POST_TIMEOUT_MS", "\t")]

theorem mixedEnvironment_url : mixedEnvironment.lookup "DATABASE_URL" = some "postgres://x" := rfl

/-- The times of such an environment: sixteen, two defaults, and the zero of a blank variable. -/
theorem times_mixed :
    (∃ c, ofEnvironment mixedEnvironment = .ok c ∧ ∀ t ∈ timings, (t.setting c).isFinite = true ∧
      (FallsBack mixedEnvironment c t ↔ ¬ mixedEnvironment.HasBlank t.source) ∧
      (mixedEnvironment.HasBlank t.source → t.setting c = 0)) ∧
    (ofEnvironment mixedEnvironment).toOption.map (fun c => timings.map fun t => t.setting c) =
      some [16, 180000, 0, 600000] :=
  ⟨times_read mixedEnvironment_url (by decide), by decide +kernel⟩

/-- A variable of an environment whose address is not empty that is there but empty. -/
def emptyTimeout : Environment :=
  [("DATABASE_URL", "postgres://x"), ("SLACK_LOOKUP_TIMEOUT_MS", "")]

/-- An empty variable does not fall back: it leaves no time at all to look for a channel. -/
theorem emptyTimeout_not_fallsBack : ∃ c, ofEnvironment emptyTimeout = .ok c ∧
    ∃ t ∈ timings, emptyTimeout.HasBlank t.source ∧ t.setting c = 0 ∧
      ¬ FallsBack emptyTimeout c t := by
  have hurl : emptyTimeout.lookup "DATABASE_URL" = some "postgres://x" := rfl
  obtain ⟨c, hc, hreads⟩ := exists_settings hurl (by decide)
  have ht : ⟨"SLACK_LOOKUP_TIMEOUT_MS", 10000, lookupBudget⟩ ∈ timings := List.mem_cons_self
  have hblank : emptyTimeout.HasBlank "SLACK_LOOKUP_TIMEOUT_MS" := ⟨"", rfl, by decide⟩
  have hread := hreads _ ht
  refine ⟨c, hc, _, ht, hblank, ?_, fun hfalls => (fallsBack_iff ht hread).mp hfalls hblank⟩
  rw [hread]
  exact timeOf_of_blank (by decide)

end AlertRelay.Config
