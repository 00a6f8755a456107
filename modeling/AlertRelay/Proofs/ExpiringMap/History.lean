import AlertRelay.Proofs.Lookup.Entries
import AlertRelay.Proofs.Number.Order
import Mathlib.Data.List.Induction

/-!
Expiring maps as timed maps.

A timed map is nothing but the history of what was stored, when, and for how long: under a key
stands what was stored there last, as long as it counts (`timedValue?`), and nothing is ever
removed.  An expiring map removes entries when it is read and when it is written, and yet gives
the same answers, since an entry that has expired stays so (`Mirrors`).  After a write no other
entry has expired.  Main statement: `read_timedValue?`.
-/

namespace AlertRelay

namespace ExpiringMap

variable {α : Type}

/-- What may be done with a map: a key is read, or a value is stored under it, for a time of its
own or for the usual one. -/
inductive Operation (α : Type) where
  | get (key : String)
  | set (key : String) (value : α) (ttl : Option Double)

/-- The time of its own for which a value is stored. -/
def Operation.ttl? : Operation α → Option Double
  | .get _ => none
  | .set _ _ ttl => ttl

/-- An operation at a time. -/
structure Call (α : Type) where
  time : Double
  operation : Operation α

/-- Something stored: the value, since when, and for how long it counts. -/
structure Stored (α : Type) where
  value : α
  since : Double
  ttl : Double

/-- From when on something stored does not count any more. -/
def Stored.expiresAt (s : Stored α) : Double :=
  s.since.add s.ttl

namespace Call

/-- What a call finds. -/
def found? (m : ExpiringMap α) (c : Call α) : Option α :=
  match c.operation with
  | .get key => m.get? c.time key
  | .set .. => none

/-- The map after a call, if values usually count for a time. -/
def after (usual : Double) (m : ExpiringMap α) (c : Call α) : ExpiringMap α :=
  match c.operation with
  | .get key => (m.read c.time key).2
  | .set key value ttl => m.set c.time key value (ttl.getD usual)

/-- What a call stores under a key. -/
def stored? (usual : Double) (key : String) (c : Call α) : Option (Stored α) :=
  match c.operation with
  | .get _ => none
  | .set other value ttl => if other = key then some ⟨value, c.time, ttl.getD usual⟩ else none

end Call

/-- The map after calls to one that was empty. -/
def afterAll (usual : Double) (calls : List (Call α)) : ExpiringMap α :=
  calls.foldl (Call.after usual) empty

/-- What calls stored last under a key. -/
def lastStored? (usual : Double) (calls : List (Call α)) (key : String) : Option (Stored α) :=
  calls.reverse.findSome? (Call.stored? usual key)

/-- What stands under a key at a time: the value stored last, as long as it counts. -/
def timedValue? (usual : Double) (calls : List (Call α)) (now : Double) (key : String) :
    Option α :=
  ((lastStored? usual calls key).filter fun s => now.lt s.expiresAt).map (·.value)

/-- Calls at finite times, none of them before an earlier one, that store for times that are
numbers, infinite ones among them. -/
structure InOrder (usual : Double) (calls : List (Call α)) : Prop where
  times : calls.Pairwise fun c d => c.time.le d.time = true
  finite : ∀ c ∈ calls, c.time.isFinite = true
  usual : usual ≠ .nan
  ttl : ∀ c ∈ calls, c.operation.ttl? ≠ some .nan

theorem afterAll_concat (usual : Double) (calls : List (Call α)) (c : Call α) :
    afterAll usual (calls ++ [c]) = c.after usual (afterAll usual calls) := by
  simp only [afterAll, List.foldl_append, List.foldl_cons, List.foldl_nil]

theorem lastStored?_concat (usual : Double) (calls : List (Call α)) (c : Call α) (key : String) :
    lastStored? usual (calls ++ [c]) key =
      (c.stored? usual key).or (lastStored? usual calls key) := by
  simp only [lastStored?, List.reverse_append, List.reverse_cons, List.reverse_nil,
    List.nil_append, List.cons_append, List.findSome?_cons]
  cases c.stored? usual key <;> rfl

theorem lastStored?_get (usual : Double) (calls : List (Call α)) (time : Double)
    (key other : String) :
    lastStored? usual (calls ++ [⟨time, .get key⟩]) other = lastStored? usual calls other := by
  rw [lastStored?_concat]
  rfl

theorem lastStored?_set_self (usual : Double) (calls : List (Call α)) (time : Double)
    (key : String) (value : α) (ttl : Option Double) :
    lastStored? usual (calls ++ [⟨time, .set key value ttl⟩]) key =
      some ⟨value, time, ttl.getD usual⟩ := by
  rw [lastStored?_concat]
  simp only [Call.stored?, if_true, Option.some_or]

theorem lastStored?_set_of_ne (usual : Double) (calls : List (Call α)) (time : Double)
    {key other : String} (hne : other ≠ key) (value : α) (ttl : Option Double) :
    lastStored? usual (calls ++ [⟨time, .set key value ttl⟩]) other =
      lastStored? usual calls other := by
  rw [lastStored?_concat]
  simp only [Call.stored?, if_neg (Ne.symm hne), Option.none_or]

theorem timedValue?_of_lastStored? {usual : Double} {calls : List (Call α)} {key : String}
    {s : Stored α} (hs : lastStored? usual calls key = some s) (now : Double) :
    timedValue? usual calls now key = if now.lt s.expiresAt then some s.value else none := by
  unfold timedValue?
  rw [hs, Option.filter_some]
  by_cases hlive : now.lt s.expiresAt = true
  · rw [if_pos hlive, if_pos hlive, Option.map_some]
  · rw [if_neg hlive, if_neg hlive, Option.map_none]

namespace InOrder

variable {usual : Double} {calls : List (Call α)}

/-- What was stored last expires at some time. -/
theorem expiresAt_ne_nan (h : InOrder usual calls) {key : String} {s : Stored α}
    (hs : lastStored? usual calls key = some s) : s.expiresAt ≠ .nan := by
  obtain ⟨c, hc, hstored⟩ := List.exists_of_findSome?_eq_some hs
  rw [List.mem_reverse] at hc
  have hfinite := h.finite c hc
  have httl := h.ttl c hc
  unfold Call.stored? at hstored
  split at hstored
  · cases hstored
  · next other value ttl hoperation =>
      split at hstored
      · cases hstored
        refine Double.add_ne_nan hfinite ?_
        rw [hoperation] at httl
        cases ttl with
        | none => exact h.usual
        | some d => exact fun hd => httl (congrArg some hd)
      · cases hstored

theorem left {before after : List (Call α)} (h : InOrder usual (before ++ after)) :
    InOrder usual before where
  times := (List.pairwise_append.mp h.times).1
  finite := fun c hc => h.finite c (List.mem_append_left after hc)
  usual := h.usual
  ttl := fun c hc => h.ttl c (List.mem_append_left after hc)

theorem concat {c : Call α} (h : InOrder usual calls)
    (hpast : ∀ d ∈ calls, d.time.le c.time = true) (hfinite : c.time.isFinite = true)
    (httl : c.operation.ttl? ≠ some .nan) : InOrder usual (calls ++ [c]) where
  times := by
    refine List.pairwise_append.mpr ⟨h.times, List.pairwise_singleton _ _, ?_⟩
    intro d hd e he
    rw [List.mem_singleton.mp he]
    exact hpast d hd
  finite := by
    intro d hd
    rcases List.mem_append.mp hd with hd | hd
    · exact h.finite d hd
    · rw [List.mem_singleton.mp hd]
      exact hfinite
  usual := h.usual
  ttl := by
    intro d hd
    rcases List.mem_append.mp hd with hd | hd
    · exact h.ttl d hd
    · rw [List.mem_singleton.mp hd]
      exact httl

end InOrder

/-- Eviction loses an entry exactly if it has expired. -/
theorem evict_cases {m : ExpiringMap α} (hkeys : m.keys.Nodup) (now : Double) (key : String) :
    (∃ e, m.entry? key = some e ∧ Expired now e = true ∧ entry? (m.evict now) key = none) ∨
      entry? (m.evict now) key = m.entry? key ∧
        ∀ e, m.entry? key = some e → Expired now e = false := by
  have hevict (e : Expiring α) : entry? (m.evict now) key = some e ↔
      m.entry? key = some e ∧ Expired now e = false := by
    unfold entry?
    rw [Assoc.get?_eq_some_iff (keys_nodup_evict hkeys now), Assoc.get?_eq_some_iff hkeys]
    simp only [evict, List.mem_filter, Bool.not_eq_true']
  cases he : m.entry? key with
  | none =>
      refine .inr ⟨Option.eq_none_iff_forall_ne_some.mpr fun e hkept => ?_, nofun⟩
      have hentry := ((hevict e).mp hkept).1
      rw [he] at hentry
      cases hentry
  | some e =>
      cases hexpired : Expired now e with
      | false =>
          refine .inr ⟨(hevict e).mpr ⟨he, hexpired⟩, fun e' he' => ?_⟩
          cases he'
          exact hexpired
      | true =>
          refine .inl ⟨e, rfl, hexpired, ?_⟩
          refine Option.eq_none_iff_forall_ne_some.mpr fun e' hkept => ?_
          obtain ⟨hentry, hlive⟩ := (hevict e').mp hkept
          rw [he] at hentry
          cases hentry
          rw [hexpired] at hlive
          cases hlive

theorem exists_entry?_of_mem_keys {m : ExpiringMap α} (hkeys : m.keys.Nodup) {key : String}
    (hkey : key ∈ m.keys) : ∃ e, m.entry? key = some e := by
  obtain ⟨⟨_, e⟩, hmem, rfl⟩ := List.mem_map.mp hkey
  exact ⟨e, (Assoc.get?_eq_some_iff hkeys).mpr hmem⟩

theorem entry?_set_of_ne {m : ExpiringMap α} {key other : String} (hne : other ≠ key)
    (now : Double) (value : α) (ttl : Double) :
    entry? (m.set now key value ttl) other = entry? (m.evict now) other :=
  Assoc.get?_put_of_ne hne _ _

/-- A map holds nothing but what was stored last, and what was stored last is lost only if it
expired by the time of some call. -/
structure Mirrors (usual : Double) (calls : List (Call α)) (m : ExpiringMap α) : Prop where
  keys : m.keys.Nodup
  held : ∀ key e, m.entry? key = some e →
    ∃ s, lastStored? usual calls key = some s ∧ e = ⟨s.value, s.expiresAt⟩
  lost : ∀ key s, lastStored? usual calls key = some s → m.entry? key = none →
    ∃ c ∈ calls, s.expiresAt.le c.time = true

namespace Mirrors

variable {usual : Double} {calls : List (Call α)} {m : ExpiringMap α}

theorem empty : Mirrors usual ([] : List (Call α)) empty where
  keys := List.nodup_nil
  held := nofun
  lost := nofun

/-- What was stored last stays so with a call that stores nothing under its key, and the entry may
be dropped if it has expired by then. -/
theorem kept (h : Mirrors usual calls m) {m' : ExpiringMap α} {c : Call α} {key : String}
    (hstored : c.stored? usual key = none)
    (hentry : m'.entry? key = m.entry? key ∨
      m'.entry? key = none ∧ ∃ e, m.entry? key = some e ∧ Expired c.time e = true) :
    (∀ e, m'.entry? key = some e →
      ∃ s, lastStored? usual (calls ++ [c]) key = some s ∧ e = ⟨s.value, s.expiresAt⟩) ∧
    (∀ s, lastStored? usual (calls ++ [c]) key = some s → m'.entry? key = none →
      ∃ d ∈ calls ++ [c], s.expiresAt.le d.time = true) := by
  rw [lastStored?_concat, hstored, Option.none_or]
  rcases hentry with hsame | ⟨hnone, e, he, hexpired⟩
  · rw [hsame]
    refine ⟨h.held key, fun s hs hlost => ?_⟩
    obtain ⟨d, hd, hle⟩ := h.lost key s hs hlost
    exact ⟨d, List.mem_append_left _ hd, hle⟩
  · rw [hnone]
    refine ⟨nofun, fun s hs _ => ?_⟩
    obtain ⟨s', hs', rfl⟩ := h.held key e he
    rw [hs] at hs'
    cases hs'
    exact ⟨c, List.mem_append_right _ List.mem_cons_self, hexpired⟩

theorem read (h : Mirrors usual calls m) (now : Double) (key : String) :
    Mirrors usual (calls ++ [⟨now, .get key⟩]) (m.read now key).2 := by
  have hentry (other : String) : entry? (m.read now key).2 other = m.entry? other ∨
      entry? (m.read now key).2 other = none ∧
        ∃ e, m.entry? other = some e ∧ Expired now e = true := by
    unfold ExpiringMap.read
    cases he : m.entry? key with
    | none => exact .inl rfl
    | some e =>
        cases hexpired : Expired now e with
        | false =>
            simp only [hexpired, Bool.false_eq_true, if_false, true_or]
        | true =>
            simp only [hexpired, if_true]
            by_cases hother : other = key
            · subst hother
              exact .inr ⟨Assoc.get?_drop_self other _, e, he, hexpired⟩
            · exact .inl (Assoc.get?_drop_of_ne hother _)
  exact ⟨keys_nodup_read h.keys now key, fun other => (h.kept rfl (hentry other)).1,
    fun other => (h.kept rfl (hentry other)).2⟩

theorem set (h : Mirrors usual calls m) (now : Double) (key : String) (value : α)
    (ttl : Option Double) :
    Mirrors usual (calls ++ [⟨now, .set key value ttl⟩])
      (m.set now key value (ttl.getD usual)) := by
  -- The key has its new entry, and the other keys have theirs unless these have expired.
  have hself : lastStored? usual (calls ++ [⟨now, .set key value ttl⟩]) key =
      some ⟨value, now, ttl.getD usual⟩ :=
    lastStored?_set_self usual calls now key value ttl
  have hother {other : String} (hne : other ≠ key) :
      Call.stored? usual other (⟨now, .set key value ttl⟩ : Call α) = none := by
    simp only [Call.stored?, if_neg (Ne.symm hne)]
  have hentry {other : String} (hne : other ≠ key) :
      entry? (m.set now key value (ttl.getD usual)) other = m.entry? other ∨
        entry? (m.set now key value (ttl.getD usual)) other = none ∧
          ∃ e, m.entry? other = some e ∧ Expired now e = true := by
    rw [entry?_set_of_ne hne]
    rcases evict_cases h.keys now other with ⟨e, he, hexpired, hnone⟩ | ⟨hsame, _⟩
    · exact .inr ⟨hnone, e, he, hexpired⟩
    · exact .inl hsame
  refine ⟨keys_nodup_set h.keys now key value _, fun other e he => ?_, fun other s hs hlost => ?_⟩
  · by_cases hne : other = key
    · subst hne
      rw [entry?_set_self] at he
      cases he
      exact ⟨_, hself, rfl⟩
    · exact (h.kept (hother hne) (hentry hne)).1 e he
  · by_cases hne : other = key
    · subst hne
      rw [entry?_set_self] at hlost
      cases hlost
    · exact (h.kept (hother hne) (hentry hne)).2 s hs hlost

/-- A call leaves a map that mirrors the calls so far. -/
theorem after (h : Mirrors usual calls m) (c : Call α) :
    Mirrors usual (calls ++ [c]) (c.after usual m) := by
  obtain ⟨time, operation⟩ := c
  cases operation with
  | get key => exact h.read time key
  | set key value ttl => exact h.set time key value ttl

theorem afterAll (usual : Double) (calls : List (Call α)) :
    Mirrors usual calls (afterAll usual calls) := by
  induction calls using List.reverseRecOn with
  | nil => exact empty
  | append_singleton calls c ih =>
      rw [afterAll_concat]
      exact ih.after c

/-- At a time that is not before any call, a key is found to have the value stored last as long as
that counts. -/
theorem get?_eq (h : Mirrors usual calls m) {now : Double} (hnow : now ≠ .nan)
    (hcalls : ∀ c ∈ calls, c.time.le now = true)
    (hexpires : ∀ key s, lastStored? usual calls key = some s → s.expiresAt ≠ .nan)
    (key : String) : m.get? now key = timedValue? usual calls now key := by
  unfold get? ExpiringMap.read timedValue?
  cases he : m.entry? key with
  | none =>
      cases hs : lastStored? usual calls key with
      | none => rfl
      | some s =>
          obtain ⟨c, hc, hexpired⟩ := h.lost key s hs he
          have hle := Double.le_trans hexpired (hcalls c hc)
          simp only [Option.filter_some, Double.lt_eq_not_le hnow (hexpires key s hs), hle,
            Bool.not_true, Bool.false_eq_true, if_false, Option.map_none]
  | some e =>
      obtain ⟨s, hs, rfl⟩ := h.held key e he
      rw [hs]
      simp only [Option.filter_some, Double.lt_eq_not_le hnow (hexpires key s hs), Expired]
      by_cases hexpired : s.expiresAt.le now = true
      · simp only [hexpired, if_true, Bool.not_true, Bool.false_eq_true, if_false,
          Option.map_none]
      · simp only [hexpired, Bool.not_false, if_true, Bool.false_eq_true, if_false,
          Option.map_some]

end Mirrors

/-- Whatever is read and stored in whatever order, as time goes on: a read finds the value that
was stored last under its key as long as that counts, and nothing otherwise; and right after a
write no key but the written one has an entry that has expired. -/
theorem read_timedValue? {usual : Double} {calls before after : List (Call α)} {c : Call α}
    (h : InOrder usual calls) (hsplit : calls = before ++ c :: after) :
    (∀ key, c.operation = .get key →
      c.found? (afterAll usual before) = timedValue? usual before c.time key) ∧
    ∀ key value ttl, c.operation = .set key value ttl →
      ∀ other ∈ (afterAll usual (before ++ [c])).keys, other ≠ key →
        ∃ e, entry? (afterAll usual (before ++ [c])) other = some e ∧
          c.time.lt e.expiresAt = true := by
  subst hsplit
  have hbefore : InOrder usual before := h.left
  have hmirrors := Mirrors.afterAll usual before
  have hnow : c.time ≠ .nan := by
    have hfinite := h.finite c (List.mem_append_right _ List.mem_cons_self)
    intro hnan
    rw [hnan] at hfinite
    cases hfinite
  have hcalls : ∀ d ∈ before, d.time.le c.time = true := fun d hd =>
    (List.pairwise_append.mp h.times).2.2 d hd c List.mem_cons_self
  refine ⟨fun key hget => ?_, fun key value ttl hset other hheld hne => ?_⟩
  · simp only [Call.found?, hget]
    exact hmirrors.get?_eq hnow hcalls (fun _ _ => hbefore.expiresAt_ne_nan) key
  · have hafter : afterAll usual (before ++ [c]) =
        (afterAll usual before).set c.time key value (ttl.getD usual) := by
      rw [afterAll_concat]
      simp only [Call.after, hset]
    rw [hafter] at hheld ⊢
    obtain ⟨e, he⟩ := exists_entry?_of_mem_keys (keys_nodup_set hmirrors.keys _ _ _ _) hheld
    refine ⟨e, he, ?_⟩
    rw [entry?_set_of_ne hne] at he
    rcases evict_cases hmirrors.keys c.time other with ⟨_, _, _, hnone⟩ | ⟨hsame, hlive⟩
    · rw [hnone] at he
      cases he
    · rw [hsame] at he
      have hkept := hlive e he
      obtain ⟨s, hs, rfl⟩ := hmirrors.held other e he
      rw [Double.lt_eq_not_le hnow (hbefore.expiresAt_ne_nan hs)]
      exact congrArg Bool.not hkept

/-- One key expires just when it is read; another is stored anew, first for less than no time and
then for ever, and a last one is stored while the first is still held. -/
def renewals : List (Call Nat) :=
  [⟨3, .set "short" 1 none⟩, ⟨4, .set "long" 2 (some .posInf)⟩, ⟨8, .get "short"⟩,
    ⟨8, .set "long" 3 (some (.finite (-1)))⟩, ⟨8, .get "long"⟩,
    ⟨9, .set "long" 4 (some .posInf)⟩, ⟨9, .set "last" 5 (some 0)⟩, ⟨20, .get "long"⟩]

theorem read_timedValue?_renewals :
    InOrder 5 renewals ∧
      Call.found? (afterAll 5 (renewals.take 2)) ⟨8, .get "short"⟩ = none ∧
      Call.found? (afterAll 5 (renewals.take 7)) ⟨20, .get "long"⟩ = some 4 ∧
      ∃ e, entry? (afterAll 5 (renewals.take 7)) "long" = some e ∧
        Double.lt 9 e.expiresAt = true := by
  have hordered : InOrder 5 renewals :=
    ⟨by decide +kernel, by decide +kernel, by decide +kernel, by decide +kernel⟩
  have hshort : renewals = renewals.take 2 ++ ⟨8, .get "short"⟩ :: renewals.drop 3 := rfl
  have hlast : renewals = renewals.take 6 ++ ⟨9, .set "last" 5 (some 0)⟩ :: renewals.drop 7 := rfl
  have hlong : renewals = renewals.take 7 ++ ⟨20, .get "long"⟩ :: renewals.drop 8 := rfl
  refine ⟨hordered, ?_, ?_, ?_⟩
  · rw [(read_timedValue? hordered hshort).1 "short" rfl]
    decide +kernel
  · rw [(read_timedValue? hordered hlong).1 "long" rfl]
    decide +kernel
  · exact (read_timedValue? hordered hlast).2 "last" 5 (some 0) rfl "long" (by decide +kernel)
      (by decide)

end ExpiringMap

end AlertRelay
