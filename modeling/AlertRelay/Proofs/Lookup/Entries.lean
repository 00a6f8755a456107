import AlertRelay.Channel.Job
import AlertRelay.Proofs.Preference.Rows

/-!
Entries of expiring maps, and the entries of jobs among them.

An operation on one key decides what stands under that key; of the other keys it may only lose
some that expired, so an entry found afterwards was there before.
-/

namespace AlertRelay

open Assoc

/-- A value that is found among those that were kept was found among all. -/
theorem Assoc.get?_of_get?_filter {α : Type} {a : Assoc α} (hnodup : a.names.Nodup)
    {keep : String × α → Bool} {name : String} {v : α}
    (h : get? name (a.filter keep) = some v) : get? name a = some v := by
  have hkept : (names (a.filter keep)).Nodup := hnodup.sublist (List.filter_sublist.map _)
  rw [get?_eq_some_iff hkept] at h
  exact (get?_eq_some_iff hnodup).mpr (List.mem_filter.mp h).1

namespace ExpiringMap

variable {α : Type} {m : ExpiringMap α}

theorem keys_nodup_evict (h : m.keys.Nodup) (now : Double) : (m.evict now).keys.Nodup :=
  h.sublist (List.filter_sublist.map _)

theorem keys_nodup_set (h : m.keys.Nodup) (now : Double) (key : String) (v : α) (ttl : Double) :
    (m.set now key v ttl).keys.Nodup :=
  names_put_nodup key _ (keys_nodup_evict h now)

theorem keys_nodup_erase (h : m.keys.Nodup) (key : String) : (m.erase key).keys.Nodup :=
  h.sublist (List.filter_sublist.map _)

theorem entry?_set_self (now : Double) (key : String) (v : α) (ttl : Double) :
    entry? (m.set now key v ttl) key = some ⟨v, now.add ttl⟩ :=
  get?_put_self key _ _

theorem entry?_of_set (h : m.keys.Nodup) {now : Double} {key other : String} {v : α}
    {ttl : Double} (hne : other ≠ key) {e : Expiring α}
    (he : entry? (m.set now key v ttl) other = some e) : m.entry? other = some e := by
  have hput : entry? (m.set now key v ttl) other = entry? (m.evict now) other :=
    get?_put_of_ne hne _ _
  rw [hput] at he
  exact get?_of_get?_filter h he

/-- What reading finds, and what it leaves. -/
theorem read_cases (m : ExpiringMap α) (now : Double) (key : String) :
    (∃ e, m.entry? key = some e ∧ Expired now e = false ∧ m.read now key = (some e.value, m)) ∨
      ∃ m', m.read now key = (none, m') ∧ entry? m' key = none ∧ (m' = m ∨ m' = m.erase key) := by
  unfold read
  cases hentry : m.entry? key with
  | none => exact .inr ⟨m, rfl, hentry, .inl rfl⟩
  | some e =>
      cases hexpired : Expired now e with
      | true =>
          refine .inr ⟨m.erase key, ?_, get?_drop_self key _, .inr rfl⟩
          simp only [hexpired, if_true]
      | false =>
          refine .inl ⟨e, rfl, hexpired, ?_⟩
          simp only [hexpired, Bool.false_eq_true, if_false]

theorem entry?_of_erase {key other : String} {e : Expiring α}
    (he : entry? (m.erase key) other = some e) : m.entry? other = some e := by
  by_cases hother : other = key
  · subst hother
    have hnone : entry? (m.erase other) other = none := get?_drop_self other _
    rw [hnone] at he
    cases he
  · have hdrop : entry? (m.erase key) other = m.entry? other := get?_drop_of_ne hother _
    rwa [hdrop] at he

theorem entry?_of_read {now : Double} {key other : String} {e : Expiring α}
    (he : entry? (m.read now key).2 other = some e) : m.entry? other = some e := by
  rcases read_cases m now key with ⟨_, _, _, hread⟩ | ⟨m', hread, _, rfl | rfl⟩
  · rwa [hread] at he
  · rwa [hread] at he
  · rw [hread] at he
    exact entry?_of_erase he

theorem keys_nodup_read (h : m.keys.Nodup) (now : Double) (key : String) :
    (m.read now key).2.keys.Nodup := by
  rcases read_cases m now key with ⟨_, _, _, hread⟩ | ⟨m', hread, _, rfl | rfl⟩
  · rwa [hread]
  · rwa [hread]
  · rw [hread]
    exact keys_nodup_erase h key

end ExpiringMap

namespace Channel.Jobs

open ExpiringMap

variable {jobs : Jobs} {now ttl : Double} {id name : String} {outcome : JobOutcome}

theorem complete_eq (jobs : Jobs) (now ttl : Double) (id : String) (outcome : JobOutcome) :
    (∃ e, jobs.entry? id = some e ∧ jobs.complete now ttl id outcome =
        (some ⟨id, e.value.name, .settled outcome⟩,
          jobs.set now id ⟨id, e.value.name, .settled outcome⟩ ttl)) ∨
      ((jobs.complete now ttl id outcome).1 = none ∧
        (jobs.complete now ttl id outcome).2 = (jobs.read now id).2 ∧
        entry? (jobs.read now id).2 id = none) := by
  unfold complete
  rcases read_cases jobs now id with ⟨e, he, _, hread⟩ | ⟨m', hread, hnone, _⟩
  · refine .inl ⟨e, he, ?_⟩
    rw [hread]
  · refine .inr ?_
    rw [hread]
    exact ⟨rfl, rfl, hnone⟩

/-- A job that is found when its look-up is noted to have ended has that outcome. -/
theorem entry?_complete_self {e : Expiring Job}
    (he : entry? (jobs.complete now ttl id outcome).2 id = some e) :
    ∃ old, jobs.entry? id = some old ∧ e.value = ⟨id, old.value.name, .settled outcome⟩ := by
  rcases complete_eq jobs now ttl id outcome with ⟨old, hold, hcomplete⟩ | ⟨_, hleft, hnone⟩
  · rw [hcomplete, entry?_set_self] at he
    cases he
    exact ⟨old, hold, rfl⟩
  · rw [hleft, hnone] at he
    cases he

theorem entry?_of_complete (h : jobs.keys.Nodup) {other : String} (hne : other ≠ id)
    {e : Expiring Job} (he : entry? (jobs.complete now ttl id outcome).2 other = some e) :
    jobs.entry? other = some e := by
  rcases complete_eq jobs now ttl id outcome with ⟨old, hold, hcomplete⟩ | ⟨_, hleft, _⟩
  · rw [hcomplete] at he
    exact entry?_of_set h hne he
  · rw [hleft] at he
    exact entry?_of_read he

theorem keys_nodup_complete (h : jobs.keys.Nodup) :
    (jobs.complete now ttl id outcome).2.keys.Nodup := by
  rcases complete_eq jobs now ttl id outcome with ⟨old, hold, hcomplete⟩ | ⟨_, hleft, _⟩
  · rw [hcomplete]
    exact keys_nodup_set h now id _ ttl
  · rw [hleft]
    exact keys_nodup_read h now id

end Channel.Jobs

end AlertRelay
