import AlertRelay.Program.Turn
import AlertRelay.Proofs.Program.Within

/-!
Turns of programs, one after another.

A program waits at the end of a turn, and goes on with what it is given then (`Stand.resume?`).
A turn of one program after another is a turn of the first, and of the second if the first ends
with it (`turn_bind`).  What a program goes on with keeps within its limits
(`Within.of_resume?`).  Quiet programs leave the jobs and the look-ups in flight alone
(`keptIn_turn`).  Lone programs can be followed by themselves, from what they were given and when
(`Program.alone`, `turn_congr`).
-/

namespace AlertRelay

/-- What a program that waits may be given. -/
inductive Arrival where
  | reply (r : SlackReply)
  | rows (answer : Except Value (List Database.Row))
  | connection (answer : Except Value Unit)
  | settled
  | turn

/-- Something that was given at a time. -/
structure Given where
  arrival : Arrival
  time : Double

namespace Stand

variable {α β : Type}

/-- How a program goes on with an arrival, if that is what it waits for. -/
def resume? : Stand α → Arrival → Option (Program α)
  | .calling _ next, .reply r => some (next r)
  | .querying _ next, .rows answer => some (next answer)
  | .connecting next, .connection answer => some (next answer)
  | .awaiting _ next, .settled => some next
  | .givingWay next, .turn => some next
  | _, _ => none

/-- The result of a program that ended. -/
def result? : Stand α → Option (Except Failure α)
  | .ended r => some r
  | _ => none

/-- Where one program after another stands. -/
def andThen (st : Stand α) (w : World) (k : α → Program β) : Stand β × World :=
  match st with
  | .ended (.ok a) => (k a).turn w
  | .ended (.error f) => (.ended (.error f), w)
  | .calling call next => (.calling call fun r => (next r).bind k, w)
  | .querying q next => (.querying q fun r => (next r).bind k, w)
  | .connecting next => (.connecting fun r => (next r).bind k, w)
  | .awaiting lookups next => (.awaiting lookups (next.bind k), w)
  | .givingWay next => (.givingWay (next.bind k), w)

theorem resume?_andThen {st : Stand α} (h : st.result? = none) (w : World)
    (k : α → Program β) (a : Arrival) :
    (st.andThen w k).1.resume? a = (st.resume? a).map (·.bind k) := by
  cases st with
  | ended r => cases h
  | _ => cases a <;> rfl

theorem result?_andThen {st : Stand α} (h : st.result? = none) (w : World)
    (k : α → Program β) : (st.andThen w k).1.result? = none ∧ (st.andThen w k).2 = w := by
  cases st with
  | ended r => cases h
  | _ => exact ⟨rfl, rfl⟩

theorem resume?_ended {st : Stand α} {r : Except Failure α} (h : st.result? = some r)
    (a : Arrival) : st.resume? a = none := by
  cases st with
  | ended r => cases a <;> rfl
  | _ => cases h

end Stand

namespace Program

variable {α β : Type}

theorem afterCall_bind (s : Channel.Search) (next : Except Failure Channel.Outcome → Program α)
    (k : α → Program β) (r : SlackReply) :
    (afterCall s next r).bind k = afterCall s (fun x => (next x).bind k) r := by
  unfold afterCall
  rw [bind_assoc]
  rfl

/-- A turn of one program after another: the first one's, and the second one's if the first
ended well. -/
theorem turn_bind (p : Program α) (k : α → Program β) (w : World) :
    (p.bind k).turn w = (p.turn w).1.andThen (p.turn w).2 k := by
  induction p generalizing w with
  | done a => rfl
  | fail f => rfl
  | access change next ih => exact ih _ _
  | ask e next ih =>
      cases e with
      | search n =>
          cases n with
          | more s =>
              have hcalls := funext (afterCall_bind s next k)
              simp only [bind, turn, Stand.andThen, hcalls]
              rfl
          | _ => exact ih _ _
      | drain =>
          simp only [bind, turn]
          split
          · exact ih _ _
          · rfl
      | query q => rfl
      | connect => rfl
      | clientQuery q => rfl
      | slack call => rfl
      | giveWay => rfl
      | _ => exact ih _ _

/-- Within a turn the clock stands still. -/
theorem clock_turn (p : Program α) (w : World) : (p.turn w).2.clock = w.clock := by
  induction p generalizing w with
  | done a => rfl
  | fail f => rfl
  | access change next ih => exact ih _ _
  | ask e next ih =>
      cases e with
      | search n =>
          cases n with
          | more s => rfl
          | _ => exact ih _ _
      | drain =>
          simp only [turn]
          split
          · exact ih _ _
          · rfl
      | query q => rfl
      | connect => rfl
      | clientQuery q => rfl
      | slack call => rfl
      | giveWay => rfl
      | _ => exact ih _ _

variable {L : Limits}

/-- What a program goes on with after a turn keeps within the limits of the program, if these
allow it to give way, to look at the clock, and to search. -/
theorem Within.of_resume? {p : Program α} (hp : p.Within L) (hgive : L.asks .giveWay)
    (hnow : L.asks .now) (hsearch : ∀ n, L.asks (.search n)) {w : World} {a : Arrival}
    {q : Program α} (h : (p.turn w).1.resume? a = some q) : q.Within L := by
  induction p generalizing w with
  | done b => cases a <;> cases h
  | fail f => cases a <;> cases h
  | access change next ih => exact ih _ (hp.2 _) h
  | ask e next ih =>
      cases e with
      | search n =>
          cases n with
          | more s =>
              cases a with
              | reply r =>
                  cases h
                  exact (Within.giveWay hgive searchStages).bind fun _ =>
                    ⟨hnow, fun _ => ⟨hsearch _, hp.2⟩⟩
              | _ => cases h
          | _ => exact ih _ (hp.2 _) h
      | drain =>
          simp only [turn] at h
          split at h
          · exact ih _ (hp.2 _) h
          · cases a <;> cases h
            exact hp
      | query q =>
          cases a <;> cases h
          exact hp.2 _
      | connect =>
          cases a <;> cases h
          exact hp.2 _
      | clientQuery q =>
          cases a <;> cases h
          exact hp.2 _
      | slack call =>
          cases a <;> cases h
          exact hp.2 _
      | giveWay =>
          cases a <;> cases h
          exact hp.2 _
      | _ => exact ih _ (hp.2 _) h

/-- A program that ends with a turn fails for nothing but what its limits allow. -/
theorem Within.of_result? {p : Program α} (hp : p.Within L) {w : World} {f : Failure}
    (h : (p.turn w).1.result? = some (.error f)) : L.fails f := by
  induction p generalizing w with
  | done b => cases h
  | fail f =>
      cases h
      exact hp
  | access change next ih => exact ih _ (hp.2 _) h
  | ask e next ih =>
      cases e with
      | search n =>
          cases n with
          | more s => cases h
          | _ => exact ih _ (hp.2 _) h
      | drain =>
          simp only [turn] at h
          split at h
          · exact ih _ (hp.2 _) h
          · cases h
      | query q => cases h
      | connect => cases h
      | clientQuery q => cases h
      | slack call => cases h
      | giveWay => cases h
      | _ => exact ih _ (hp.2 _) h

end Program

/-- What a quiet program may ask for. -/
def Effect.Quiet : Effect → Prop
  | .newId => False
  | .spawn _ => False
  | .drain => False
  | _ => True

/-- A change of the memory that keeps the jobs and the look-ups in flight. -/
def Memory.Kept (change : Memory → Memory) : Prop :=
  ∀ m, (change m).jobs = m.jobs ∧ (change m).inFlight = m.inFlight

/-- Quiet programs neither make identities nor leave work nor wait for look-ups, and touch
neither the jobs nor the look-ups in flight. -/
def Limits.quiet : Limits := ⟨Effect.Quiet, Memory.Kept, fun _ => True⟩

/-- Lone programs are quiet, do without the memory, and do not fail. -/
def Limits.lone : Limits := ⟨Effect.Quiet, fun _ => False, fun _ => False⟩

/-- All that quiet programs leave as it is. -/
structure World.KeptIn (w w' : World) : Prop where
  clock : w'.clock = w.clock
  ids : w'.ids = w.ids
  lastId : w'.lastId = w.lastId
  work : w'.work = w.work
  jobs : w'.memory.jobs = w.memory.jobs
  inFlight : w'.memory.inFlight = w.memory.inFlight

namespace World.KeptIn

theorem refl (w : World) : w.KeptIn w :=
  ⟨rfl, rfl, rfl, rfl, rfl, rfl⟩

theorem note {w w' : World} (h : w.KeptIn w') (e : Event) : w.KeptIn (w'.note e) :=
  ⟨h.clock, h.ids, h.lastId, h.work, h.jobs, h.inFlight⟩

theorem change {w w' : World} (h : w.KeptIn w') {change : Memory → Memory}
    (hc : Memory.Kept change) : w.KeptIn { w' with memory := change w'.memory } :=
  ⟨h.clock, h.ids, h.lastId, h.work, (hc w'.memory).1.trans h.jobs,
    (hc w'.memory).2.trans h.inFlight⟩

end World.KeptIn

namespace Program

variable {α : Type}

/-- A turn of a quiet program. -/
theorem keptIn_turn {p : Program α} (hp : p.Within .quiet) {w₀ w : World} (h : w₀.KeptIn w) :
    w₀.KeptIn (p.turn w).2 := by
  induction p generalizing w with
  | done a => exact h
  | fail f => exact h
  | access change next ih => exact ih _ (hp.2 _) (h.change hp.1)
  | ask e next ih =>
      cases e with
      | newId => exact hp.1.elim
      | spawn work => exact hp.1.elim
      | drain => exact hp.1.elim
      | now => exact ih _ (hp.2 _) h
      | search n =>
          cases n with
          | ended o => exact ih _ (hp.2 _) h
          | failed f => exact ih _ (hp.2 _) h
          | gaveUp o why => exact ih _ (hp.2 _) (h.note _)
          | more s => exact h
      | query q => exact h
      | connect => exact h
      | clientQuery q => exact h
      | slack call => exact h
      | giveWay => exact h
      | _ => exact ih _ (hp.2 _) (h.note _)

/-- Where a lone program stands depends on nothing but the clock. -/
theorem turn_congr {p : Program α} (hp : p.Within .lone) {w w' : World}
    (h : w.clock = w'.clock) : (p.turn w).1 = (p.turn w').1 := by
  induction p generalizing w w' with
  | done a => rfl
  | fail f => rfl
  | access change next ih => exact hp.1.elim
  | ask e next ih =>
      cases e with
      | newId => exact hp.1.elim
      | spawn work => exact hp.1.elim
      | drain => exact hp.1.elim
      | now =>
          simp only [turn, h]
          exact ih _ (hp.2 _) h
      | search n =>
          cases n with
          | more s => rfl
          | _ => exact ih _ (hp.2 _) h
      | query q => rfl
      | connect => rfl
      | clientQuery q => rfl
      | slack call => rfl
      | giveWay => rfl
      | _ => exact ih _ (hp.2 _) h

end Program

/-- A world at a time in which nothing is remembered. -/
def World.blank (time : Double) : World :=
  ⟨time, fun _ => "", 0, .empty, [], []⟩

namespace Stand

variable {α : Type}

/-- Where a program stands by itself after it was given something. -/
def given (st : Stand α) (g : Given) : Stand α :=
  match st.resume? g.arrival with
  | some p => (p.turn (.blank g.time)).1
  | none => st

end Stand

/-- Where a program stands by itself after all that it was given, from the first to the last. -/
def Program.alone {α : Type} (p : Program α) (given : List Given) : Stand α :=
  given.foldl Stand.given (.givingWay p)

end AlertRelay
