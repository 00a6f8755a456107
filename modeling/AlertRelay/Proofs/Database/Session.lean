import AlertRelay.Proofs.Database.Tables
import AlertRelay.Proofs.Database.Transaction

/-!
Programs in surroundings with a database.

Surroundings may do anything, so what is known of a database is a property of them: they
`Serves` some commands if they take each of them by its meaning, within a transaction or outside
of one, and change the contents for no other reason.  There are such surroundings
(`serving_serves`).

`Ends` says of a program where it leads from where the database stands.  Main statement: a
transaction leaves what its body leaves, and nothing is seen of it before (`Serves.transaction`).
-/

namespace AlertRelay.Database

open Program

variable {α β σ : Type}

/-- Where a database stands: what is committed, and what the transaction sees that is going on,
if there is one. -/
structure Session where
  committed : Contents
  working : Option Contents

/-- Whether something is asked of the database. -/
def isStatement : Effect → Bool
  | .query _ => true
  | .clientQuery _ => true
  | _ => false

/-- Surroundings with a database of which nothing is known but what it makes of some commands. -/
structure Serves (o : Surroundings σ) (session : σ → Session) (commands : List Command) :
    Prop where
  answer : ∀ s e, isStatement e = false → session (o.answer s e).2 = session s
  access : ∀ s change, session (o.access s change).2 = session s
  connect : ∀ s, (o.answer s .connect).1 = .ok ()
  begins : ∀ s contents, session s = ⟨contents, none⟩ →
    (∃ rows, (o.answer s (.clientQuery (.plain "BEGIN"))).1 = .ok rows) ∧
      session (o.answer s (.clientQuery (.plain "BEGIN"))).2 = ⟨contents, some contents⟩
  commits : ∀ s contents working, session s = ⟨contents, some working⟩ →
    (∃ rows, (o.answer s (.clientQuery (.plain "COMMIT"))).1 = .ok rows) ∧
      session (o.answer s (.clientQuery (.plain "COMMIT"))).2 = ⟨working, none⟩
  within : ∀ s contents working, session s = ⟨contents, some working⟩ →
    ∀ command ∈ commands, ∀ params m, command.meaning? params working = some m →
      (∃ rows, (o.answer s (.clientQuery ⟨command.text, some params⟩)).1 = .ok rows ∧
        m.Gives rows) ∧
      session (o.answer s (.clientQuery ⟨command.text, some params⟩)).2 =
        ⟨contents, some m.after⟩
  outside : ∀ s contents, session s = ⟨contents, none⟩ →
    ∀ command ∈ commands, ∀ params m, command.meaning? params contents = some m →
      (∃ rows, (o.answer s (.query ⟨command.text, some params⟩)).1 = .ok rows ∧
        m.Gives rows) ∧
      session (o.answer s (.query ⟨command.text, some params⟩)).2 = ⟨m.after, none⟩

/-- Wherever the database stands at `before`, a program ends well, with a result and with the
database at a place of which `post` holds. -/
def Ends (o : Surroundings σ) (session : σ → Session) (before : Session) (p : Program α)
    (post : α → Session → Prop) : Prop :=
  ∀ s, session s = before →
    ∃ a, (p.execute o s).result = .ok a ∧ post a (session (p.execute o s).state)

section Rules

variable {o : Surroundings σ} {session : σ → Session} {before : Session}

theorem ends_done (a : α) {post : α → Session → Prop} (h : post a before) :
    Ends o session before (.done a) post := by
  intro s hs
  exact ⟨a, rfl, hs.symm ▸ h⟩

theorem Ends.bind {p : Program α} {k : α → Program β} {mid : α → Session → Prop}
    {post : β → Session → Prop} (hp : Ends o session before p mid)
    (hk : ∀ a after, mid a after → Ends o session after (k a) post) :
    Ends o session before (p.bind k) post := by
  intro s hs
  obtain ⟨a, hresult, hmid⟩ := hp s hs
  rw [execute_bind, Execution.andThen_ok hresult]
  exact hk a _ hmid _ rfl

/-- What is asked for and answered well. -/
theorem ends_ask {e : Effect} {next : e.Answer → Program α} {post : α → Session → Prop}
    (h : ∀ s, session s = before →
      Ends o session (session (o.answer s e).2) (next (o.answer s e).1) post) :
    Ends o session before (.ask e next) post := by
  intro s hs
  exact h s hs _ rfl

end Rules

namespace Serves

variable {o : Surroundings σ} {session : σ → Session} {commands : List Command}

/-- Whatever is no statement leaves the database where it stands. -/
theorem perform (h : Serves o session commands) (before : Session) {e : Effect}
    (he : isStatement e = false) :
    Ends o session before (Program.perform e) fun _ after => after = before := by
  intro s hs
  exact ⟨_, rfl, (h.answer s e he).trans hs⟩

theorem openPool (h : Serves o session commands) (before : Session) (config : Config) :
    Ends o session before (openPool config) fun _ after => after = before := by
  have hupdate : Ends o session before
      (Program.update fun m => (m.poolOpen, { m with poolOpen := true }))
      fun _ after => after = before := by
    intro s hs
    exact ⟨_, rfl, (h.access s _).trans hs⟩
  refine hupdate.bind ?_
  rintro wasOpen _ rfl
  cases wasOpen with
  | true => exact ends_done () rfl
  | false => exact h.perform _ rfl

/-- A command outside of transactions. -/
theorem query (h : Serves o session commands) (config : Config) {command : Command}
    (hcommand : command ∈ commands) {params : List Value} {contents : Contents} {m : Meaning}
    (hm : command.meaning? params contents = some m) :
    Ends o session ⟨contents, none⟩ (query config ⟨command.text, some params⟩)
      fun rows after => m.Gives rows ∧ after = ⟨m.after, none⟩ := by
  refine (h.openPool _ config).bind ?_
  rintro _ _ rfl
  refine ends_ask fun s hs => ?_
  obtain ⟨⟨rows, hanswer, hgives⟩, hafter⟩ := h.outside s contents hs command hcommand params m hm
  rw [hafter, hanswer]
  exact ends_done rows ⟨hgives, rfl⟩

/-- A command within a transaction. -/
theorem clientQuery (h : Serves o session commands) {command : Command}
    (hcommand : command ∈ commands) {params : List Value} {contents working : Contents}
    {m : Meaning} (hm : command.meaning? params working = some m) :
    Ends o session ⟨contents, some working⟩ (clientQuery ⟨command.text, some params⟩)
      fun rows after => m.Gives rows ∧ after = ⟨contents, some m.after⟩ := by
  refine ends_ask fun s hs => ?_
  obtain ⟨⟨rows, hanswer, hgives⟩, hafter⟩ :=
    h.within s contents working hs command hcommand params m hm
  rw [hafter, hanswer]
  exact ends_done rows ⟨hgives, rfl⟩

theorem steer_begin (h : Serves o session commands) (contents : Contents) :
    Ends o session ⟨contents, none⟩ (steer "BEGIN")
      fun _ after => after = ⟨contents, some contents⟩ := by
  intro s hs
  obtain ⟨⟨rows, hanswer⟩, hafter⟩ := h.begins s contents hs
  rw [execute_steer, hanswer]
  exact ⟨(), rfl, hafter⟩

theorem steer_commit (h : Serves o session commands) (contents working : Contents) :
    Ends o session ⟨contents, some working⟩ (steer "COMMIT")
      fun _ after => after = ⟨working, none⟩ := by
  intro s hs
  obtain ⟨⟨rows, hanswer⟩, hafter⟩ := h.commits s contents working hs
  rw [execute_steer, hanswer]
  exact ⟨(), rfl, hafter⟩

/-- A transaction commits what its body leaves. -/
theorem transaction (h : Serves o session commands) (config : Config) {body : Program α}
    {contents : Contents} {post : α → Contents → Prop}
    (hbody : Ends o session ⟨contents, some contents⟩ body fun a after =>
      ∃ working, after = ⟨contents, some working⟩ ∧ post a working) :
    Ends o session ⟨contents, none⟩ (transaction config body) fun a after =>
      ∃ working, after = ⟨working, none⟩ ∧ post a working := by
  have hinside : Ends o session ⟨contents, none⟩ (inside body) fun a after =>
      ∃ working, after = ⟨working, none⟩ ∧ post a working := by
    refine (h.steer_begin contents).bind ?_
    rintro _ _ rfl
    refine hbody.bind ?_
    rintro a _ ⟨working, rfl, hpost⟩
    refine (h.steer_commit contents working).bind ?_
    rintro _ _ rfl
    exact ends_done a ⟨working, rfl, hpost⟩
  rw [transaction_eq]
  refine (h.openPool _ config).bind ?_
  rintro _ _ rfl
  refine ends_ask fun s hs => ?_
  rw [h.connect s, h.answer s .connect rfl, hs]
  intro s' hs'
  obtain ⟨a, hresult, hpost⟩ := hinside s' hs'
  have hreceived : (received (.ok ())).bind (fun _ => (inside body).attempt.bind closing) =
      (inside body).attempt.bind closing := rfl
  rw [hreceived, execute_bind, execute_attempt, Execution.andThen_ok rfl, hresult]
  -- The connection is released, and the result is handed on.
  have hclosing : Ends o session (session ((inside body).execute o s').state)
      (closing (.ok a)) fun a after => ∃ working, after = ⟨working, none⟩ ∧ post a working := by
    refine (h.perform _ rfl).bind ?_
    rintro _ _ rfl
    exact ends_done a hpost
  exact hclosing _ rfl

end Serves

section Serving

/-- Where a database stands after a statement that steers a transaction. -/
def Session.steered? (s : Session) (text : String) : Option Session :=
  if text = "BEGIN" then some ⟨s.committed, some s.committed⟩
  else if text = "COMMIT" then some ⟨s.working.getD s.committed, none⟩
  else if text = "ROLLBACK" then some ⟨s.committed, none⟩
  else none

/-- What a statement comes to that is one of the commands. -/
def meaningOf? (commands : List Command) (q : Query) (contents : Contents) : Option Meaning :=
  (commands.find? (·.text == q.text)).bind fun command =>
    command.meaning? (q.params.getD []) contents

/-- What is found, in the order in which it is stored. -/
def Meaning.rows (m : Meaning) : List Row :=
  m.limit.elim m.found m.found.take

/-- Surroundings in which nothing is at work but a database, which makes of commands what they
mean and fails for everything else. -/
def serving (commands : List Command) : Surroundings (Memory × Session) where
  answer s
    | .query q =>
      match meaningOf? commands q s.2.committed with
      | some m => (.ok m.rows, s.1, ⟨m.after, none⟩)
      | none => (.error .undefined, s)
    | .clientQuery q =>
      match s.2.steered? q.text, meaningOf? commands q (s.2.working.getD s.2.committed) with
      | some there, _ => (.ok [], s.1, there)
      | none, some m => (.ok m.rows, s.1, ⟨s.2.committed, some m.after⟩)
      | none, none => (.error .undefined, s)
    | .connect => (.ok (), s)
    | .now => ((0 : Double), s)
    | .newId => ("", s)
    | .log .. => ((), s)
    | .notice .. => ((), s)
    | .openPool _ => ((), s)
    | .closePool => ((), s)
    | .release _ => ((), s)
    | .slack _ => (.threw .undefined, s)
    | .search _ => (.error (.foreign .undefined), s)
    | .spawn _ => ((), s)
    | .drain => ((), s)
    | .giveWay => ((), s)
  access s change := (s.1, change s.1, s.2)

variable {commands : List Command}

/-- A command is known by its text. -/
theorem meaningOf?_text (hdistinct : (commands.map Command.text).Nodup) {command : Command}
    (hcommand : command ∈ commands) (params : List Value) (contents : Contents) :
    meaningOf? commands ⟨command.text, some params⟩ contents =
      command.meaning? params contents := by
  have hfind : commands.find? (·.text == command.text) = some command := by
    cases hfound : commands.find? (·.text == command.text) with
    | none =>
        have hnone := List.find?_eq_none.mp hfound command hcommand
        exact absurd (beq_self_eq_true _) hnone
    | some other =>
        have htext := List.find?_some hfound
        have hother := List.mem_of_find?_eq_some hfound
        rw [List.inj_on_of_nodup_map hdistinct hother hcommand (beq_iff_eq.mp htext)]
  rw [meaningOf?, hfind, Option.bind_some, Option.getD_some]

/-- Commands of different texts, none of which steers a transaction, can be served. -/
theorem serving_serves (hdistinct : (commands.map Command.text).Nodup)
    (hsteers : ∀ command ∈ commands, command.text ∉ ["BEGIN", "COMMIT", "ROLLBACK"]) :
    Serves (serving commands) Prod.snd commands where
  answer := by
    intro s e he
    cases e with
    | query q => cases he
    | clientQuery q => cases he
    | _ => rfl
  access _ _ := rfl
  connect _ := rfl
  begins := by
    rintro ⟨memory, _⟩ contents rfl
    exact ⟨⟨[], rfl⟩, rfl⟩
  commits := by
    rintro ⟨memory, _⟩ contents working rfl
    exact ⟨⟨[], rfl⟩, rfl⟩
  within := by
    rintro ⟨memory, _⟩ contents working rfl command hcommand params m hm
    have hsteered : Session.steered? ⟨contents, some working⟩ command.text = none := by
      have hnot := hsteers command hcommand
      simp only [List.mem_cons, List.not_mem_nil, or_false, not_or] at hnot
      simp [Session.steered?, hnot]
    have hmeaning : meaningOf? commands ⟨command.text, some params⟩ working = some m :=
      (meaningOf?_text hdistinct hcommand params working).trans hm
    simp only [serving, hsteered, Option.getD_some, hmeaning]
    exact ⟨⟨m.rows, rfl, m.found, .refl _, rfl⟩, trivial⟩
  outside := by
    rintro ⟨memory, _⟩ contents rfl command hcommand params m hm
    have hmeaning : meaningOf? commands ⟨command.text, some params⟩ contents = some m :=
      (meaningOf?_text hdistinct hcommand params contents).trans hm
    simp only [serving, hmeaning]
    exact ⟨⟨m.rows, rfl, m.found, .refl _, rfl⟩, trivial⟩

end Serving

end AlertRelay.Database
