import AlertRelay.Channel.Resolution
import AlertRelay.Proofs.Program.Carried
import AlertRelay.Proofs.Search.Fetches

/-!
The fetches of a search that is carried through many turns.

Each reply of Slack is handed on in some turns, and the page that is read from it counts at the time
of the last one; `Handed` makes the fetches of a search out of its cues that way.  A search that was
carried to its end has gone through these fetches (`exists_course_of_carried`), and so has the
resolution of a name (`exists_course_of_resolveName`).
-/

namespace AlertRelay.Channel

open Program

/-- What arrives for a search when Slack replies to its call. -/
def replyOf (kind : Kind) (reply : SlackReply) : Reply :=
  match pageOf kind reply with
  | .ok page => .page page
  | .error f => .failed f

theorem Search.resume_eq (s : Search) (reply : SlackReply) (time : Double) :
    s.resume reply time = s.receive (replyOf s.kind reply) time := by
  unfold resume replyOf
  cases pageOf s.kind reply <;> rfl

/-- The fetches that cues make: each reply is handed on in its turns, and nothing else is left than
turns. -/
inductive Handed : List Cue → List Fetch → Prop
  | rest (worlds : List World) : Handed (Cue.turns worlds) []
  | fetch {f : Fetch} {reply : SlackReply} {v : World} {worlds : List World} {cues : List Cue}
      {fs : List Fetch} (hreply : f.reply = replyOf f.kind reply)
      (hlength : worlds.length = searchStages) (htime : f.time = (worlds.getLastD v).clock)
      (h : Handed cues fs) : Handed (⟨.reply reply, v⟩ :: (Cue.turns worlds ++ cues)) (f :: fs)

namespace Handed

/-- Turns at the end make no fetches. -/
theorem append_turns {cues : List Cue} {fs : List Fetch} (h : Handed cues fs)
    (worlds : List World) : Handed (cues ++ Cue.turns worlds) fs := by
  induction h with
  | rest before =>
      have happend : Cue.turns before ++ Cue.turns worlds = Cue.turns (before ++ worlds) :=
        List.map_append.symm
      rw [happend]
      exact .rest _
  | fetch hreply hlength htime _ ih =>
      rw [List.cons_append, List.append_assoc]
      exact .fetch hreply hlength htime ih

/-- Every fetch brought what is made of a reply. -/
theorem exists_reply {cues : List Cue} {fs : List Fetch} (h : Handed cues fs) :
    ∀ f ∈ fs, ∃ reply, f.reply = replyOf f.kind reply := by
  induction h with
  | rest worlds =>
      intro f hf
      cases hf
  | fetch hreply _ _ _ ih =>
      intro f hf
      rcases List.mem_cons.mp hf with rfl | hf
      · exact ⟨_, hreply⟩
      · exact ih f hf

end Handed

/-- A search that was carried to its end has gone through the fetches that its cues make. -/
theorem exists_course_of_carried {n : Next} {w w' : World} {cues : List Cue}
    {r : Except Failure Outcome}
    (h : (Program.ask (.search n) ofExcept).carried w cues = some (.ended r, w')) :
    ∃ fs e, Handed cues fs ∧ Course n fs e ∧ e.result? = some r := by
  -- A reply and the turns that hand it on are used up at once, so the induction is on the length.
  induction hlength : cues.length using Nat.strongRecOn generalizing n w cues with
  | ind length ih =>
      cases n with
      | ended o =>
          obtain ⟨rfl, hthere⟩ := Stand.carried_ended h
          cases hthere
          exact ⟨[], .ended o, .rest [], .rest _, rfl⟩
      | gaveUp o why =>
          obtain ⟨rfl, hthere⟩ := Stand.carried_ended h
          cases hthere
          exact ⟨[], .gaveUp o why, .rest [], .rest _, rfl⟩
      | failed f =>
          obtain ⟨rfl, hthere⟩ := Stand.carried_ended h
          cases hthere
          exact ⟨[], .failed f, .rest [], .rest _, rfl⟩
      | more s =>
          cases cues with
          | nil => cases h
          | cons cue rest =>
              obtain ⟨p, hp, hlater⟩ := Stand.carried_cons_eq_some h
              obtain ⟨arrival, v⟩ := cue
              cases arrival with
              | reply reply =>
                  cases hp
                  obtain ⟨worlds, later, hworlds, hrest, hends⟩ := exists_turns_of_carried hlater
                  have hshorter : later.length < length := by
                    rw [← hlength, hrest, List.length_cons, List.length_append]
                    omega
                  let time := (worlds.getLastD v).clock
                  obtain ⟨fs, e, hhanded, hcourse, hresult⟩ := ih later.length hshorter
                    (n := s.resume reply time) hends rfl
                  let f : Fetch := ⟨s.kind, s.cursor, replyOf s.kind reply, time⟩
                  refine ⟨f :: fs, e, ?_, ?_, hresult⟩
                  · rw [hrest]
                    exact .fetch (f := f) rfl hworlds rfl hhanded
                  · rw [Search.resume_eq] at hcourse
                    exact .fetch s f rfl hcourse
              | _ => cases hp

/-- What is searched for when a name is resolved. -/
def resolutionQuery (config : Config) (name token : String) (p : Patience) (start : Double) :
    Query :=
  ⟨bareName name, start.add (p.budget config), token⟩

/-- The resolution of a name that was carried to its end has gone through all lists, until it had a
result. -/
theorem exists_course_of_resolveName {config : Config} {name token : String} {p : Patience}
    {w w' : World} {cues : List Cue} {r : Except Failure Outcome}
    (h : (resolveName config name token p).carried w cues = some (.ended r, w')) :
    ∃ fs e, Handed cues fs ∧
      Course (Search.start (resolutionQuery config name token p w.clock) Kind.searchOrder) fs e ∧
      e.result? = some r :=
  exists_course_of_carried h

/-- What every reply of Slack keeps true of a search, and holds of it at first, is true of its end. -/
theorem Course.keeps_to_end {P : Next → Prop}
    (hstep : ∀ (s : Search) (reply : SlackReply) (time : Double),
      P (.more s) → P (s.resume reply time))
    {n e : Next} {fs : List Fetch} (hn : P n) (h : Course n fs e)
    (hreplies : ∀ f ∈ fs, ∃ reply, f.reply = replyOf f.kind reply) : P e := by
  induction h with
  | rest n => exact hn
  | fetch s f hrequest _ ih =>
      obtain ⟨reply, hreply⟩ := hreplies f List.mem_cons_self
      have hkind : f.kind = s.kind := congrArg Prod.fst hrequest
      apply ih
      · rw [hreply, hkind, ← Search.resume_eq]
        exact hstep s reply f.time hn
      · intro g hg
        exact hreplies g (List.mem_cons_of_mem f hg)

end AlertRelay.Channel
