import AlertRelay.Attachment.Assembly
import AlertRelay.Proofs.Lookup.Steps
import AlertRelay.Proofs.Number.Rounding

/-!
Scenes of callers who ask whether projects have releases.

A scene holds the world that the callers share, where each of them stands, and what the database
replied to their queries, and when.  A move lets somebody ask, lets time pass, lets the database
reply to a query or fail it, or lets anything else happen on the server; moves may come in any
order.  A caller is told what is remembered, or queries the database (`turn_hasReleases`), and then
remembers what the rows of the reply say (`onward`).
-/

namespace AlertRelay.Attachment

open Program Database
open Channel (place)

/-- Whether the rows of a reply say that there are releases. -/
def tellsReleases (rows : List Row) : Bool :=
  match rows.head?.map (Value.get · "exists") with
  | some (.bool b) => b
  | _ => false

/-- Remembers whether a project has releases, and tells it. -/
def remembering (projectId : String) (b : Bool) : Program Bool := do
  let time ← now
  update fun m =>
    ((), { m with releases := m.releases.set time (releasesKey projectId) b (releasesTtl b) })
  return b

/-- How a caller goes on with the database's reply. -/
def onward (projectId : String) : Except Value (List Row) → Program Bool
  | .error thrown => .fail (.foreign thrown)
  | .ok rows => remembering projectId (tellsReleases rows)

theorem get_of_not_isTruthy {v : Value} (h : v.isTruthy = false) (name : String) :
    v.get name = .undefined := by
  cases v with
  | record id fields => cases h
  | error id kind fields => cases h
  | _ => rfl

/-- How the first row of a reply is read. -/
def reading : Option Row → Program Bool
  | some row =>
    match row.get "exists" with
    | .bool b => .done b
    | _ => .done false
  | none => .done false

/-- An empty value has no columns, so that it makes no difference that it is left out. -/
theorem reading_head (rows : List Row) :
    reading (rows.head?.filter Value.isTruthy) = .done (tellsReleases rows) := by
  unfold tellsReleases
  cases rows with
  | nil => rfl
  | cons row rest =>
      simp only [List.head?_cons, Option.filter_some, Option.map_some]
      cases htruthy : row.isTruthy with
      | true =>
          simp only [if_true, reading]
          cases row.get "exists" <;> rfl
      | false =>
          rw [get_of_not_isTruthy htruthy]
          rfl

/-- A caller who has to query opens the pool of connections first, unless it is open. -/
theorem hasReleases_remembering (config : Config) (projectId : String) :
    (Integration.hasReleases config projectId).bind (remembering projectId) =
      (openPool config).bind fun _ =>
        .ask (.query (Integration.releasesQuery projectId)) (onward projectId) := by
  change ((((openPool config).bind fun _ => .ask (.query (Integration.releasesQuery projectId))
    fun answer => received answer).bind fun rows =>
      .done (rows.head?.filter Value.isTruthy)).bind reading).bind (remembering projectId) = _
  rw [bind_assoc, bind_assoc, bind_assoc]
  congr 1
  funext _
  change Program.ask _ _ = Program.ask _ _
  congr 1
  funext answer
  cases answer with
  | error thrown => rfl
  | ok rows =>
      change (reading (rows.head?.filter Value.isTruthy)).bind (remembering projectId) = _
      rw [reading_head]
      rfl

/-- How a caller goes on with what is remembered. -/
def goingOn (config : Config) (projectId : String) : Option Bool → Program Bool
  | some b => .done b
  | none => (Integration.hasReleases config projectId).bind (remembering projectId)

/-- What opening the pool of connections leaves as it was. -/
theorem turn_openPool (config : Config) (w : World) : ∃ w',
    (openPool config).turn w = (.ended (.ok ()), w') ∧ w'.clock = w.clock ∧
      w'.memory.releases = w.memory.releases := by
  have hopens : (openPool config).turn w = (do
      unless w.memory.poolOpen do perform (.openPool config.databaseUrl) : Program Unit).turn
        { w with memory := { w.memory with poolOpen := true } } := rfl
  rw [hopens]
  cases w.memory.poolOpen with
  | true => exact ⟨_, rfl, rfl, rfl⟩
  | false => exact ⟨_, rfl, rfl, rfl⟩

/-- A caller is told what is remembered, or queries the database. -/
theorem turn_hasReleases (config : Config) (projectId : String) (w : World) :
    (∃ e, w.memory.releases.entry? (releasesKey projectId) = some e ∧
        ExpiringMap.Expired w.clock e = false ∧
        (hasReleases config projectId).turn w = (.ended (.ok e.value), w)) ∨
      w.memory.releases.get? w.clock (releasesKey projectId) = none ∧
        ∃ w', (hasReleases config projectId).turn w =
            (.querying (Integration.releasesQuery projectId) (onward projectId), w') ∧
          w'.clock = w.clock ∧
          w'.memory.releases = (w.memory.releases.read w.clock (releasesKey projectId)).2 := by
  have hreads : (hasReleases config projectId).turn w =
      (goingOn config projectId
        (w.memory.releases.read w.clock (releasesKey projectId)).1).turn
          { w with memory := { w.memory with
            releases := (w.memory.releases.read w.clock (releasesKey projectId)).2 } } := rfl
  unfold ExpiringMap.get?
  rw [hreads]
  rcases ExpiringMap.read_cases w.memory.releases w.clock (releasesKey projectId) with
    ⟨e, hentry, hlive, hread⟩ | ⟨left, hread, _, _⟩
  · refine Or.inl ⟨e, hentry, hlive, ?_⟩
    rw [hread]
    rfl
  · rw [hread]
    refine Or.inr ⟨rfl, ?_⟩
    simp only [goingOn, hasReleases_remembering, turn_bind]
    obtain ⟨w', hturn, hclock, hreleases⟩ :=
      turn_openPool config { w with memory := { w.memory with releases := left } }
    rw [hturn]
    exact ⟨w', rfl, hclock, hreleases⟩

/-- Of all that is remembered, no more matters to a caller than the entry of his project. -/
theorem stand_hasReleases_congr (config : Config) (projectId : String) {w₁ w₂ : World}
    (hclock : w₁.clock = w₂.clock)
    (hentry : w₁.memory.releases.entry? (releasesKey projectId) =
      w₂.memory.releases.entry? (releasesKey projectId)) :
    ((hasReleases config projectId).turn w₁).1 = ((hasReleases config projectId).turn w₂).1 := by
  have hget {w : World} {e : Expiring Bool}
      (he : w.memory.releases.entry? (releasesKey projectId) = some e)
      (hlive : ExpiringMap.Expired w.clock e = false) :
      w.memory.releases.get? w.clock (releasesKey projectId) = some e.value := by
    simp only [ExpiringMap.get?, ExpiringMap.read, he, hlive, Bool.false_eq_true, if_false]
  rcases turn_hasReleases config projectId w₁ with
    ⟨e₁, he₁, hlive₁, hturn₁⟩ | ⟨hnone₁, _, hturn₁, _⟩
  · rcases turn_hasReleases config projectId w₂ with
      ⟨e₂, he₂, _, hturn₂⟩ | ⟨hnone₂, _⟩
    · rw [hentry, he₂] at he₁
      cases he₁
      rw [hturn₁, hturn₂]
    · rw [hclock] at hlive₁
      rw [hget (hentry.symm.trans he₁) hlive₁] at hnone₂
      cases hnone₂
  · rcases turn_hasReleases config projectId w₂ with
      ⟨e₂, he₂, hlive₂, _⟩ | ⟨_, _, hturn₂, _⟩
    · rw [← hclock] at hlive₂
      rw [hget (hentry.trans he₂) hlive₂] at hnone₁
      cases hnone₁
    · rw [hturn₁, hturn₂]

namespace Releases

/-- A caller: the project that he asks about, and where his program stands. -/
structure Caller where
  projectId : String
  stand : Stand Bool

/-- What a caller is told, if he is told something. -/
def Caller.told? (c : Caller) : Option Bool :=
  match c.stand with
  | .ended (.ok b) => some b
  | _ => none

/-- What the database replied to the query of the caller at a place, and when. -/
structure Reply where
  caller : Nat
  query : Query
  answer : Except Value (List Row)
  time : Double

/-- All that goes on around the callers. -/
structure Scene where
  world : World
  callers : List Caller
  replies : List Reply

/-- What may happen next. -/
inductive Move where
  | ask (projectId : String)
  | clock (time : Double)
  | reply (i : Nat) (answer : Except Value (List Row))
  | elsewhere (w : World)

/-- The time after a move. -/
def Move.time (now : Double) : Move → Double
  | .clock time => time
  | _ => now

/-- Whether time goes on with moves from a time, and never back.  The clock shows no numbers but
those that binary64 can hold. -/
def forward (now : Double) : List Move → Bool
  | [] => now.isExact
  | m :: later => now.isExact && now.le (m.time now) && forward (m.time now) later

namespace Scene

/-- A scene in which nobody has asked yet. -/
def start (w : World) : Scene :=
  ⟨{ w with memory := { w.memory with releases := .empty } }, [], []⟩

/-- The scene after a move.  What cannot happen changes nothing. -/
def step (config : Config) (s : Scene) : Move → Scene
  | .ask projectId =>
    let t := (hasReleases config projectId).turn s.world
    { s with world := t.2, callers := place s.callers.length ⟨projectId, t.1⟩ s.callers }
  | .clock time => { s with world := { s.world with clock := time } }
  | .reply i answer =>
    match s.callers[i]? with
    | some ⟨projectId, .querying q next⟩ =>
      let t := (next answer).turn s.world
      ⟨t.2, place i ⟨projectId, t.1⟩ s.callers, s.replies ++ [⟨i, q, answer, s.world.clock⟩]⟩
    | _ => s
  | .elsewhere w =>
    { s with world := { w with
      clock := s.world.clock
      memory := { w.memory with releases := s.world.memory.releases } } }

/-- What the caller at a place is told, and about which project. -/
def told? (s : Scene) (i : Nat) : Option (String × Bool) :=
  s.callers[i]?.bind fun c => c.told?.map (c.projectId, ·)

/-- The scene after some moves. -/
def play (config : Config) (s : Scene) (moves : List Move) : Scene :=
  moves.foldl (step config) s

end Scene

end Releases

end AlertRelay.Attachment
