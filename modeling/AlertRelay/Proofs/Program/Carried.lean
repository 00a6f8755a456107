import AlertRelay.Proofs.Program.Turns

/-!
Programs that are carried through many turns.

A cue gives a program what it waits for, in the world as it is by then: between two cues anything
may have happened to the world.  `Program.carried` tells where a program stands after its first
turn and a list of cues.  One program after another is carried as the first one and then the second
(`carried_bind`), an attempt as what is attempted (`carried_attempt`), and a result that is handed
on needs one more cue for each stage (`carried_handedOn`).  There is no other way to the end of such
programs (`exists_ends_of_carried_bind` and the lemmas after it).
-/

namespace AlertRelay

/-- Something that a program is given, and the world at that moment. -/
structure Cue where
  arrival : Arrival
  world : World

/-- The cues with which a program that gave way goes on, once in each of some worlds. -/
def Cue.turns (worlds : List World) : List Cue :=
  worlds.map (Cue.mk .turn)

namespace Stand

variable {α β : Type}

/-- Where a program stands after some cues, and the world then; nowhere if one of the cues is not
what it waited for. -/
def carried : List Cue → Stand α × World → Option (Stand α × World)
  | [], here => some here
  | cue :: later, here =>
    (here.1.resume? cue.arrival).bind fun p => carried later (p.turn cue.world)

theorem carried_cons_eq_some {cue : Cue} {later : List Cue} {here there : Stand α × World}
    (h : carried (cue :: later) here = some there) :
    ∃ p, here.1.resume? cue.arrival = some p ∧ carried later (p.turn cue.world) = some there :=
  Option.bind_eq_some_iff.mp h

theorem eq_ended_of_result? {here : Stand α × World} {r : Except Failure α}
    (h : here.1.result? = some r) : here = (.ended r, here.2) := by
  obtain ⟨st, w⟩ := here
  cases st with
  | ended r' =>
      cases h
      rfl
  | _ => cases h

/-- A program that ended stays where it is. -/
theorem carried_ended {r : Except Failure α} {w : World} {cues : List Cue}
    {there : Stand α × World} (h : carried cues (.ended r, w) = some there) :
    cues = [] ∧ there = (.ended r, w) := by
  cases cues with
  | nil => exact ⟨rfl, (Option.some.inj h).symm⟩
  | cons cue later =>
      obtain ⟨p, hp, _⟩ := carried_cons_eq_some h
      rw [resume?_ended rfl] at hp
      cases hp

/-- What is to be done next is begun in the turn in which a program ends. -/
theorem carried_andThen {cues : List Cue} {st : Stand α} {w w' : World} {r : Except Failure α}
    (h : carried cues (st, w) = some (.ended r, w')) (k : α → Program β) (later : List Cue) :
    carried (cues ++ later) (st.andThen w k) = carried later ((Stand.ended r).andThen w' k) := by
  induction cues generalizing st w with
  | nil =>
      cases h
      rfl
  | cons cue cues ih =>
      obtain ⟨p, hp, hlater⟩ := carried_cons_eq_some h
      have hwaits : st.result? = none := by
        cases hresult : st.result? with
        | none => rfl
        | some r' =>
            rw [resume?_ended hresult] at hp
            cases hp
      have hresumes : (st.andThen w k).1.resume? cue.arrival = some (p.bind k) := by
        rw [resume?_andThen hwaits, hp]
        rfl
      rw [List.cons_append, carried, hresumes, Option.bind_some, Program.turn_bind]
      exact ih hlater

/-- Where an attempt stands. -/
def attempted : Stand α → Stand (Except Failure α)
  | .ended r => .ended (.ok r)
  | .calling call next => .calling call fun r => (next r).attempt
  | .querying q next => .querying q fun r => (next r).attempt
  | .connecting next => .connecting fun r => (next r).attempt
  | .awaiting lookups next => .awaiting lookups next.attempt
  | .givingWay next => .givingWay next.attempt

theorem resume?_attempted (st : Stand α) (a : Arrival) :
    st.attempted.resume? a = (st.resume? a).map Program.attempt := by
  cases st <;> cases a <;> rfl

end Stand

namespace Program

variable {α β : Type}

/-- A turn of an attempt is a turn of what is attempted. -/
theorem turn_attempt (p : Program α) (w : World) :
    p.attempt.turn w = ((p.turn w).1.attempted, (p.turn w).2) := by
  induction p generalizing w with
  | done a => rfl
  | fail f => rfl
  | access change next ih => exact ih _ _
  | ask e next ih =>
      cases e with
      | search n =>
          cases n with
          | more s => rfl
          | _ => exact ih _ _
      | drain =>
          simp only [attempt, turn]
          split
          · exact ih _ _
          · rfl
      | query q => rfl
      | connect => rfl
      | clientQuery q => rfl
      | slack call => rfl
      | giveWay => rfl
      | _ => exact ih _ _

/-- Where a program stands after its first turn and some cues, and the world then; nowhere if one
of the cues is not what it waited for. -/
def carried (p : Program α) (w : World) (cues : List Cue) : Option (Stand α × World) :=
  Stand.carried cues (p.turn w)

/-- One program after another: the cues of the first one, then those of the second, which begins in
the turn in which the first one ends. -/
theorem carried_bind {p : Program α} {w w' : World} {cues : List Cue} {a : α}
    (h : p.carried w cues = some (.ended (.ok a), w')) (k : α → Program β) (later : List Cue) :
    (p.bind k).carried w (cues ++ later) = (k a).carried w' later := by
  rw [carried, turn_bind]
  exact Stand.carried_andThen h k later

/-- What comes after a program that failed is not begun. -/
theorem carried_bind_error {p : Program α} {w w' : World} {cues : List Cue} {f : Failure}
    (h : p.carried w cues = some (.ended (.error f), w')) (k : α → Program β) :
    (p.bind k).carried w cues = some (.ended (.error f), w') := by
  have hthen := Stand.carried_andThen h k []
  rw [List.append_nil] at hthen
  rw [carried, turn_bind]
  exact hthen

/-- An attempt ends well, with the result of what was attempted. -/
theorem carried_attempt {p : Program α} {w w' : World} {cues : List Cue} {r : Except Failure α}
    (h : p.carried w cues = some (.ended r, w')) :
    p.attempt.carried w cues = some (.ended (.ok r), w') := by
  induction cues generalizing p w with
  | nil =>
      have hended : p.turn w = (.ended r, w') := Option.some.inj h
      simp only [carried, Stand.carried, turn_attempt, hended, Stand.attempted]
  | cons cue cues ih =>
      obtain ⟨q, hq, hlater⟩ := Stand.carried_cons_eq_some h
      have hresumes : (p.attempt.turn w).1.resume? cue.arrival = some q.attempt := by
        rw [turn_attempt, Stand.resume?_attempted, hq]
        rfl
      rw [carried, Stand.carried, hresumes, Option.bind_some]
      exact ih hlater

/-- Giving way takes one cue each time. -/
theorem carried_giveWay (worlds : List World) (k : Unit → Program α) (w : World)
    (later : List Cue) :
    ((giveWay worlds.length).bind k).carried w (Cue.turns worlds ++ later) =
      (k ()).carried (worlds.getLastD w) later := by
  induction worlds generalizing w with
  | nil => rfl
  | cons v worlds ih =>
      rw [List.getLastD_cons]
      exact ih v

/-- A result that is handed on is the same result, in the world of the last stage. -/
theorem carried_handedOn {p : Program α} {w w' : World} {cues : List Cue}
    {r : Except Failure α} (h : p.carried w cues = some (.ended r, w')) (worlds : List World) :
    (handedOn worlds.length p).carried w (cues ++ Cue.turns worlds) =
      some (.ended r, worlds.getLastD w') := by
  unfold handedOn
  have hstages := carried_giveWay worlds (fun _ => ofExcept r) w' []
  rw [List.append_nil] at hstages
  rw [carried_bind (carried_attempt h), hstages]
  cases r with
  | ok a => rfl
  | error f => rfl

/-- A program that gives way, and ends, was given that many turns first. -/
theorem exists_turns_of_carried {n : Nat} {k : Unit → Program α} {w : World} {cues : List Cue}
    {r : Except Failure α} {w' : World}
    (h : ((giveWay n).bind k).carried w cues = some (.ended r, w')) :
    ∃ worlds later, worlds.length = n ∧ cues = Cue.turns worlds ++ later ∧
      (k ()).carried (worlds.getLastD w) later = some (.ended r, w') := by
  induction n generalizing w cues with
  | zero => exact ⟨[], cues, rfl, rfl, h⟩
  | succ n ih =>
      cases cues with
      | nil => cases h
      | cons cue cues =>
          obtain ⟨p, hp, hlater⟩ := Stand.carried_cons_eq_some h
          obtain ⟨arrival, v⟩ := cue
          cases arrival with
          | turn =>
              cases hp
              obtain ⟨worlds, later, hlength, hcues, hends⟩ := ih hlater
              refine ⟨v :: worlds, later, ?_, ?_, ?_⟩
              · rw [List.length_cons, hlength]
              · rw [hcues]
                rfl
              · rw [List.getLastD_cons]
                exact hends
          | _ => cases hp

/-- How a program ends when another one before it has ended: as it does with the cues that are left,
or with the failure of that other one, which leaves none. -/
def EndsAfter (k : α → Program β) (v : World) (cues : List Cue) (r : Except Failure β)
    (w' : World) : Except Failure α → Prop
  | .ok a => (k a).carried v cues = some (.ended r, w')
  | .error f => cues = [] ∧ r = .error f

/-- Where the first of two programs ends in its first turn, the second one is all that is left. -/
theorem ends_of_turn_ended {p : Program α} {k : α → Program β} {w w' : World} {cues : List Cue}
    {first : Except Failure α} {r : Except Failure β}
    (hfirst : (p.turn w).1.result? = some first)
    (h : (p.bind k).carried w cues = some (.ended r, w')) :
    ∃ v, p.carried w [] = some (.ended first, v) ∧ EndsAfter k v cues r w' first := by
  have hended := Stand.eq_ended_of_result? hfirst
  refine ⟨(p.turn w).2, congrArg some hended, ?_⟩
  rw [carried, turn_bind, hended] at h
  cases first with
  | ok a => exact h
  | error f =>
      obtain ⟨hnone, hthere⟩ := Stand.carried_ended h
      cases hthere
      exact ⟨hnone, rfl⟩

/-- Whoever ends with one program after another has ended with the first one, and then, unless that
one failed, with the second. -/
theorem exists_ends_of_carried_bind {p : Program α} {k : α → Program β} {w w' : World}
    {cues : List Cue} {r : Except Failure β}
    (h : (p.bind k).carried w cues = some (.ended r, w')) :
    ∃ before after first v, cues = before ++ after ∧
      p.carried w before = some (.ended first, v) ∧ EndsAfter k v after r w' first := by
  induction cues generalizing p w with
  | nil =>
      cases hresult : (p.turn w).1.result? with
      | some first =>
          obtain ⟨v, hbefore, hafter⟩ := ends_of_turn_ended hresult h
          exact ⟨[], [], first, v, rfl, hbefore, hafter⟩
      | none =>
          have hwaits := (Stand.result?_andThen hresult (p.turn w).2 k).1
          rw [← turn_bind, Option.some.inj h] at hwaits
          cases hwaits
  | cons cue cues ih =>
      cases hresult : (p.turn w).1.result? with
      | some first =>
          obtain ⟨v, hbefore, hafter⟩ := ends_of_turn_ended hresult h
          exact ⟨[], cue :: cues, first, v, rfl, hbefore, hafter⟩
      | none =>
          obtain ⟨next, hnext, hlater⟩ := Stand.carried_cons_eq_some h
          rw [turn_bind, Stand.resume?_andThen hresult] at hnext
          obtain ⟨q, hq, rfl⟩ := Option.map_eq_some_iff.mp hnext
          obtain ⟨before, after, first, v, rfl, hbefore, hafter⟩ := ih hlater
          refine ⟨cue :: before, after, first, v, rfl, ?_, hafter⟩
          rw [carried, Stand.carried, hq]
          exact hbefore

/-- Whoever ends with an attempt has ended with what was attempted. -/
theorem exists_end_of_carried_attempt {p : Program α} {w w' : World} {cues : List Cue}
    {r : Except Failure (Except Failure α)}
    (h : p.attempt.carried w cues = some (.ended r, w')) :
    ∃ result, r = .ok result ∧ p.carried w cues = some (.ended result, w') := by
  induction cues generalizing p w with
  | nil =>
      have hended : p.attempt.turn w = (.ended r, w') := Option.some.inj h
      rw [turn_attempt] at hended
      obtain ⟨hstand, hworld⟩ := Prod.mk.inj hended
      cases hfirst : (p.turn w).1 with
      | ended result =>
          rw [hfirst] at hstand
          cases hstand
          refine ⟨result, rfl, ?_⟩
          rw [carried, Stand.carried, ← hfirst, ← hworld]
      | _ =>
          rw [hfirst] at hstand
          cases hstand
  | cons cue cues ih =>
      obtain ⟨next, hnext, hlater⟩ := Stand.carried_cons_eq_some h
      rw [turn_attempt, Stand.resume?_attempted] at hnext
      obtain ⟨q, hq, rfl⟩ := Option.map_eq_some_iff.mp hnext
      obtain ⟨result, hresult, hends⟩ := ih hlater
      refine ⟨result, hresult, ?_⟩
      rw [carried, Stand.carried, hq]
      exact hends

/-- Whoever was handed a result was given a turn for each stage, after the result was there. -/
theorem exists_end_of_carried_handedOn {stages : Nat} {p : Program α} {w w' : World}
    {cues : List Cue} {r : Except Failure α}
    (h : (handedOn stages p).carried w cues = some (.ended r, w')) :
    ∃ before worlds v, worlds.length = stages ∧ cues = before ++ Cue.turns worlds ∧
      p.carried w before = some (.ended r, v) := by
  obtain ⟨before, after, first, v, rfl, hbefore, hafter⟩ := exists_ends_of_carried_bind h
  obtain ⟨result, rfl, hends⟩ := exists_end_of_carried_attempt hbefore
  obtain ⟨worlds, later, hlength, rfl, hlast⟩ := exists_turns_of_carried hafter
  have hsame : later = [] ∧ r = result := by
    cases result with
    | ok a =>
        obtain ⟨hnone, hthere⟩ := Stand.carried_ended hlast
        cases hthere
        exact ⟨hnone, rfl⟩
    | error f =>
        obtain ⟨hnone, hthere⟩ := Stand.carried_ended hlast
        cases hthere
        exact ⟨hnone, rfl⟩
  obtain ⟨rfl, rfl⟩ := hsame
  rw [List.append_nil]
  exact ⟨before, worlds, v, hlength, rfl, hends⟩

end Program

end AlertRelay
