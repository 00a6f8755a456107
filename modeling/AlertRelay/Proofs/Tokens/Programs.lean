import AlertRelay.Proofs.Program.Within
import AlertRelay.Proofs.Tokens.Alike
import Mathlib.Data.List.Forall2

/-!
Programs that look at no token.

Two programs are alike if they ask for the same things, but for tokens, and go on alike whenever
what they are answered is alike (`Program.Alike`).  A program that asks for no workspace is like
itself (`Program.Alike.refl`), and programs that are put together from alike programs are alike.
Two alike programs in alike surroundings have alike turns (`Program.Alike.turn`).
-/

namespace AlertRelay

/-- The same failure, or results that belong together. -/
inductive Agree {ε α β : Type} (R : α → β → Prop) : Except ε α → Except ε β → Prop
  | ok {a : α} {b : β} (h : R a b) : Agree R (.ok a) (.ok b)
  | error (e : ε) : Agree R (.error e) (.error e)

theorem Agree.eq {ε α : Type} {r r' : Except ε α} (h : Agree Eq r r') : r = r' := by
  cases h with
  | ok h => rw [h]
  | error e => rfl

theorem Agree.refl {ε α : Type} {R : α → α → Prop} (hR : ∀ a, R a a) (r : Except ε α) :
    Agree R r r := by
  cases r with
  | ok a => exact .ok (hR a)
  | error e => exact .error e

/-- Two answers to a query: the same one, or, if workspaces were asked for, alike rows. -/
def Database.Query.Answered (q : Database.Query)
    (x y : Except Value (List Database.Row)) : Prop :=
  x = y ∨ q.ForWorkspace ∧ Agree (List.Forall₂ Database.Row.Alike) x y

/-- Two answers to one effect that are alike. -/
def Effect.Answered : (e : Effect) → e.Answer → e.Answer → Prop
  | .query q, x, y => q.Answered x y
  | .clientQuery q, x, y => q.Answered x y
  | _, x, y => x = y

theorem Effect.answered_refl (e : Effect) (x : e.Answer) : e.Answered x x := by
  cases e with
  | query q => exact .inl rfl
  | clientQuery q => exact .inl rfl
  | _ => exact rfl

/-- Programs that do the same but for tokens, and whose results belong together. -/
inductive Program.Alike {α β : Type} (R : α → β → Prop) : Program α → Program β → Prop
  | done {a : α} {b : β} (h : R a b) : Alike R (.done a) (.done b)
  | fail (f : Failure) : Alike R (.fail f) (.fail f)
  | access {change : Memory → Memory} {next : Memory → Program α} {next' : Memory → Program β}
      (h : ∀ m, Alike R (next m) (next' m)) : Alike R (.access change next) (.access change next')
  | ask {e : Effect} {next : e.Answer → Program α} {next' : e.Answer → Program β}
      (h : ∀ x y, e.Answered x y → Alike R (next x) (next' y)) :
      Alike R (.ask e next) (.ask e next')
  | slack {c c' : SlackCall} (hc : c.tokenless = c'.tokenless) {next : SlackReply → Program α}
      {next' : SlackReply → Program β} (h : ∀ r, Alike R (next r) (next' r)) :
      Alike R (.ask (.slack c) next) (.ask (.slack c') next')
  | search {n n' : Channel.Next} (hn : n.tokenless = n'.tokenless)
      {next : Except Failure Channel.Outcome → Program α}
      {next' : Except Failure Channel.Outcome → Program β}
      (h : ∀ r, Alike R (next r) (next' r)) :
      Alike R (.ask (.search n) next) (.ask (.search n') next')
  | spawn {w w' : Background} (hw : w.tokenless = w'.tokenless) {next : Unit → Program α}
      {next' : Unit → Program β} (h : Alike R (next ()) (next' ())) :
      Alike R (.ask (.spawn w) next) (.ask (.spawn w') next')

/-- What may be asked for without asking for workspaces. -/
def Effect.Unconcerned : Effect → Prop
  | .query q => ¬ q.ForWorkspace
  | .clientQuery q => ¬ q.ForWorkspace
  | _ => True

/-- Programs within these limits ask for no workspace. -/
def Limits.unconcerned : Limits := ⟨Effect.Unconcerned, fun _ => True, fun _ => True⟩

namespace Program

variable {α β γ δ : Type} {R : α → β → Prop} {S : γ → δ → Prop}

namespace Alike

/-- A program that asks for no workspace is like itself. -/
theorem refl {R : α → α → Prop} {p : Program α} (hp : p.Within .unconcerned)
    (hR : ∀ a, R a a) : p.Alike R p := by
  induction p with
  | done a => exact .done (hR a)
  | fail f => exact .fail f
  | access change next ih => exact .access fun m => ih m (hp.2 m)
  | ask e next ih =>
      refine .ask fun x y hxy => ?_
      obtain rfl : x = y := by
        cases e with
        | query q => exact hxy.resolve_right fun h => hp.1 h.1
        | clientQuery q => exact hxy.resolve_right fun h => hp.1 h.1
        | _ => exact hxy
      exact ih x (hp.2 x)

theorem bind {p : Program α} {q : Program β} (h : p.Alike R q) {k : α → Program γ}
    {l : β → Program δ} (hk : ∀ a b, R a b → (k a).Alike S (l b)) :
    (p.bind k).Alike S (q.bind l) := by
  induction h with
  | done h => exact hk _ _ h
  | fail f => exact .fail f
  | access _ ih => exact .access ih
  | ask _ ih => exact .ask ih
  | slack hc _ ih => exact .slack hc ih
  | search hn _ ih => exact .search hn ih
  | spawn hw _ ih => exact .spawn hw ih

/-- One program after another that asks for no workspace. -/
theorem after {p : Program α} (hp : p.Within .unconcerned) {k : α → Program γ}
    {l : α → Program δ} (hk : ∀ a, (k a).Alike S (l a)) : (p.bind k).Alike S (p.bind l) :=
  (refl hp fun _ => rfl).bind fun a _ h => h ▸ hk a

theorem attempt {p : Program α} {q : Program β} (h : p.Alike R q) :
    p.attempt.Alike (Agree R) q.attempt := by
  induction h with
  | done h => exact .done (.ok h)
  | fail f => exact .done (.error f)
  | access _ ih => exact .access ih
  | ask _ ih => exact .ask ih
  | slack hc _ ih => exact .slack hc ih
  | search hn _ ih => exact .search hn ih
  | spawn hw _ ih => exact .spawn hw ih

theorem ofExcept {r : Except Failure α} {r' : Except Failure β} (h : Agree R r r') :
    (Program.ofExcept r).Alike R (Program.ofExcept r') := by
  cases h with
  | ok h => exact .done h
  | error f => exact .fail f

theorem handedOn (stages : Nat) {p : Program α} {q : Program β} (h : p.Alike R q) :
    (Program.handedOn stages p).Alike R (Program.handedOn stages q) := by
  unfold Program.handedOn
  refine h.attempt.bind fun r r' hr => ?_
  exact after (Within.giveWay trivial stages) fun _ => ofExcept hr

end Alike

end Program

/-- Where two alike programs stand at the end of a turn. -/
inductive Stand.Alike {α β : Type} (R : α → β → Prop) : Stand α → Stand β → Prop
  | ended {r : Except Failure α} {r' : Except Failure β} (h : Agree R r r') :
      Alike R (.ended r) (.ended r')
  | calling {c c' : SlackCall} (hc : c.tokenless = c'.tokenless) {next : SlackReply → Program α}
      {next' : SlackReply → Program β} (h : ∀ r, (next r).Alike R (next' r)) :
      Alike R (.calling c next) (.calling c' next')
  | querying {q : Database.Query} {next : Except Value (List Database.Row) → Program α}
      {next' : Except Value (List Database.Row) → Program β}
      (h : ∀ x y, q.Answered x y → (next x).Alike R (next' y)) :
      Alike R (.querying q next) (.querying q next')
  | connecting {next : Except Value Unit → Program α} {next' : Except Value Unit → Program β}
      (h : ∀ r, (next r).Alike R (next' r)) : Alike R (.connecting next) (.connecting next')
  | awaiting {lookups : List String} {next : Program α} {next' : Program β}
      (h : next.Alike R next') : Alike R (.awaiting lookups next) (.awaiting lookups next')
  | givingWay {next : Program α} {next' : Program β} (h : next.Alike R next') :
      Alike R (.givingWay next) (.givingWay next')

/-- Surroundings that are the same but for tokens. -/
structure World.Alike (w w' : World) : Prop where
  clock : w.clock = w'.clock
  ids : w.ids = w'.ids
  lastId : w.lastId = w'.lastId
  memory : w.memory = w'.memory
  events : w.events.map Event.tokenless = w'.events.map Event.tokenless
  work : List.Forall₂ (fun x y => Background.tokenless x = y.tokenless) w.work w'.work

namespace World.Alike

theorem refl (w : World) : w.Alike w :=
  ⟨rfl, rfl, rfl, rfl, rfl, List.forall₂_same.mpr fun _ _ => rfl⟩

theorem note {w w' : World} (h : w.Alike w') {e e' : Event} (he : e.tokenless = e'.tokenless) :
    (w.note e).Alike (w'.note e') where
  clock := h.clock
  ids := h.ids
  lastId := h.lastId
  memory := h.memory
  events := by
    simp only [World.note, List.map_cons, he, h.events]
  work := h.work

theorem noteLog {w w' : World} (h : w.Alike w') (level : Log.Level) (message : String)
    (context : List Value) :
    (w.noteLog level message context).Alike (w'.noteLog level message context) := by
  unfold World.noteLog
  rw [h.clock]
  exact h.note rfl

end World.Alike

/-- Searches that are the same but for tokens make the same of what comes back. -/
theorem Program.afterCall_alike {α β : Type} {R : α → β → Prop} {s s' : Channel.Search}
    (hs : s.tokenless = s'.tokenless) {next : Except Failure Channel.Outcome → Program α}
    {next' : Except Failure Channel.Outcome → Program β}
    (h : ∀ r, (next r).Alike R (next' r)) (reply : SlackReply) :
    (afterCall s next reply).Alike R (afterCall s' next' reply) := by
  have hresume : ∀ time, (s.resume reply time).tokenless = (s'.resume reply time).tokenless := by
    intro time
    rw [← Channel.Search.resume_tokenless, ← Channel.Search.resume_tokenless, hs]
  unfold afterCall
  refine Alike.after (Within.giveWay trivial searchStages) fun _ => ?_
  refine .ask fun time time' htime => ?_
  obtain rfl : time = time' := htime
  exact .search (hresume time) h

/-- Alike programs in alike surroundings have alike turns. -/
theorem Program.Alike.turn {α β : Type} {R : α → β → Prop} {p : Program α} {q : Program β}
    (h : p.Alike R q) {w w' : World} (hw : w.Alike w') :
    (p.turn w).1.Alike R (q.turn w').1 ∧ (p.turn w).2.Alike (q.turn w').2 := by
  induction h generalizing w w' with
  | done h => exact ⟨.ended (.ok h), hw⟩
  | fail f => exact ⟨.ended (.error f), hw⟩
  | @access change _ _ h ih =>
      simp only [Program.turn, hw.memory]
      exact ih _ ⟨hw.clock, hw.ids, hw.lastId, rfl, hw.events, hw.work⟩
  | slack hc h ih => exact ⟨.calling hc h, hw⟩
  | spawn hwork h ih =>
      exact ih ⟨hw.clock, hw.ids, hw.lastId, hw.memory, hw.events, .cons hwork hw.work⟩
  | @search n n' hn next next' h ih =>
      -- What two searches that are alike have come to is told by what they are without tokens.
      cases n with
      | more s =>
          cases n' with
          | more s' =>
              have hs : s.tokenless = s'.tokenless := Channel.Next.more.inj hn
              refine ⟨.calling ?_ fun r => afterCall_alike hs h r, hw⟩
              rw [← Channel.Search.call_tokenless, ← Channel.Search.call_tokenless, hs]
          | _ => cases hn
      | ended o =>
          cases n' with
          | ended o' =>
              cases hn
              exact ih _ hw
          | _ => cases hn
      | gaveUp o why =>
          cases n' with
          | gaveUp o' why' =>
              cases hn
              exact ih _ (hw.noteLog _ _ _)
          | _ => cases hn
      | failed f =>
          cases n' with
          | failed f' =>
              cases hn
              exact ih _ hw
          | _ => cases hn
  | @ask e next next' h ih =>
      -- Whatever is answered within the turn is answered the same in both.
      have hsame : ∀ x {w w' : World}, w.Alike w' →
          ((next x).turn w).1.Alike R ((next' x).turn w').1 ∧
            ((next x).turn w).2.Alike ((next' x).turn w').2 :=
        fun x => ih x x (e.answered_refl x)
      cases e with
      | now =>
          simp only [Program.turn, hw.clock]
          exact hsame _ hw
      | newId =>
          simp only [Program.turn, hw.ids, hw.lastId]
          exact hsame _ ⟨hw.clock, rfl, rfl, hw.memory, hw.events, hw.work⟩
      | log level message context => exact hsame _ (hw.noteLog level message context)
      | notice level message context => exact hsame _ (hw.note rfl)
      | openPool url => exact hsame _ (hw.note rfl)
      | closePool => exact hsame _ (hw.note rfl)
      | release reason => exact hsame _ (hw.note rfl)
      | query q => exact ⟨.querying h, hw⟩
      | clientQuery q => exact ⟨.querying h, hw⟩
      | connect => exact ⟨.connecting fun r => h r r rfl, hw⟩
      | slack c => exact ⟨.calling rfl fun r => h r r rfl, hw⟩
      | search n =>
          cases n with
          | more s =>
              exact ⟨.calling rfl (afterCall_alike rfl fun r => h r r rfl), hw⟩
          | ended o => exact hsame _ hw
          | gaveUp o why => exact hsame _ (hw.noteLog _ _ _)
          | failed f => exact hsame _ hw
      | spawn work =>
          exact hsame _ ⟨hw.clock, hw.ids, hw.lastId, hw.memory, hw.events, .cons rfl hw.work⟩
      | drain =>
          simp only [Program.turn, hw.memory]
          split
          · exact hsame _ hw
          · exact ⟨.awaiting (.ask h), hw⟩
      | giveWay => exact ⟨.givingWay (h _ _ rfl), hw⟩

end AlertRelay
