import AlertRelay.Proofs.Program.Within

/-!
Programs carried out in surroundings.

Surroundings answer whatever a program asks for, and what they answer may depend on a state of
any kind; so every reply and every failure at every place is an answer of some surroundings.
Others may be at work between two steps of a program: they are part of the surroundings, which
therefore also hand out the memory.  `Program.execute` carries a program out to its end and
keeps a record of what it asked for.
-/

namespace AlertRelay

/-- Something that was asked for, with its answer. -/
structure Asked where
  effect : Effect
  answer : effect.Answer

/-- What a program is carried out in. -/
structure Surroundings (σ : Type) where
  answer : σ → (e : Effect) → e.Answer × σ
  access : σ → (Memory → Memory) → Memory × σ

/-- How a program went: its result, the state it leaves, and all that it asked for, from the
first to the last. -/
structure Execution (α σ : Type) where
  result : Except Failure α
  state : σ
  asked : List Asked

namespace Execution

variable {α β σ : Type}

/-- An execution and, unless it failed, another one after it. -/
def andThen (r : Execution α σ) (k : α → σ → Execution β σ) : Execution β σ :=
  match r.result with
  | .error f => ⟨.error f, r.state, r.asked⟩
  | .ok a => ⟨(k a r.state).result, (k a r.state).state, r.asked ++ (k a r.state).asked⟩

theorem andThen_ok {r : Execution α σ} {a : α} (h : r.result = .ok a)
    (k : α → σ → Execution β σ) :
    r.andThen k =
      ⟨(k a r.state).result, (k a r.state).state, r.asked ++ (k a r.state).asked⟩ := by
  simp only [andThen, h]

end Execution

namespace Program

variable {α β σ : Type} (o : Surroundings σ)

/-- Carries a program out. -/
def execute : Program α → σ → Execution α σ
  | .done a, s => ⟨.ok a, s, []⟩
  | .fail f, s => ⟨.error f, s, []⟩
  | .access change next, s => (next (o.access s change).1).execute (o.access s change).2
  | .ask e next, s =>
    let rest := (next (o.answer s e).1).execute (o.answer s e).2
    ⟨rest.result, rest.state, ⟨e, (o.answer s e).1⟩ :: rest.asked⟩

theorem execute_bind (p : Program α) (k : α → Program β) (s : σ) :
    (p.bind k).execute o s = (p.execute o s).andThen fun a s' => (k a).execute o s' := by
  induction p generalizing s with
  | done a => rfl
  | fail f => rfl
  | access change next ih => exact ih _ _
  | ask e next ih =>
      simp only [bind, execute, ih]
      cases hresult : ((next (o.answer s e).1).execute o (o.answer s e).2).result with
      | error f => simp only [Execution.andThen, hresult]
      | ok a => simp only [Execution.andThen, hresult, List.cons_append]

theorem execute_attempt (p : Program α) (s : σ) :
    p.attempt.execute o s =
      ⟨.ok (p.execute o s).result, (p.execute o s).state, (p.execute o s).asked⟩ := by
  induction p generalizing s with
  | done a => rfl
  | fail f => rfl
  | access change next ih => exact ih _ _
  | ask e next ih => simp only [attempt, execute, ih]

/-- A program asks for nothing but what its limits allow. -/
theorem Within.of_mem_asked {L : Limits} {p : Program α} (h : p.Within L) (s : σ) {a : Asked}
    (ha : a ∈ (p.execute o s).asked) : L.asks a.effect := by
  induction p generalizing s with
  | done a => exact absurd ha List.not_mem_nil
  | fail f => exact absurd ha List.not_mem_nil
  | access change next ih => exact ih _ (h.2 _) _ ha
  | ask e next ih =>
      rcases List.mem_cons.mp ha with rfl | ha
      · exact h.1
      · exact ih _ (h.2 _) _ ha

theorem result_giveWay (n : Nat) (s : σ) : ((giveWay n).execute o s).result = .ok () := by
  induction n generalizing s with
  | zero => rfl
  | succ n ih => exact ih _

/-- A result that is handed on stays the same. -/
theorem result_handedOn (stages : Nat) (p : Program α) (s : σ) :
    ((handedOn stages p).execute o s).result = (p.execute o s).result := by
  unfold handedOn
  rw [execute_bind, execute_attempt, Execution.andThen_ok rfl]
  simp only [execute_bind, Execution.andThen, result_giveWay]
  cases (p.execute o s).result <;> rfl

theorem asked_giveWay (n : Nat) (s : σ) :
    ((giveWay n).execute o s).asked = List.replicate n ⟨.giveWay, ()⟩ := by
  induction n generalizing s with
  | zero => rfl
  | succ n ih =>
      rw [List.replicate_succ, ← ih]
      rfl

/-- What is handed on asks for nothing but turns. -/
theorem asked_handedOn (stages : Nat) (p : Program α) (s : σ) :
    ((handedOn stages p).execute o s).asked =
      (p.execute o s).asked ++ List.replicate stages ⟨.giveWay, ()⟩ := by
  unfold handedOn
  rw [execute_bind, execute_attempt, Execution.andThen_ok rfl]
  simp only [execute_bind]
  rw [Execution.andThen_ok (result_giveWay o stages _), asked_giveWay]
  cases (p.execute o s).result <;> simp only [ofExcept, execute, List.append_nil]

/-- From wherever it starts, a program ends well, with a result of which `post` holds. -/
def Yields (p : Program α) (post : α → Prop) : Prop :=
  ∀ s, ∃ a, (p.execute o s).result = .ok a ∧ post a

section Yields

variable {o} {p : Program α} {mid post : α → Prop} {k : α → Program β} {last : β → Prop}

theorem yields_done {a : α} (h : post a) : Yields o (.done a) post :=
  fun _ => ⟨a, rfl, h⟩

theorem Yields.bind (hp : Yields o p mid) (hk : ∀ a, mid a → Yields o (k a) last) :
    Yields o (p.bind k) last := by
  intro s
  obtain ⟨a, hresult, hmid⟩ := hp s
  rw [execute_bind, Execution.andThen_ok hresult]
  exact hk a hmid _

theorem Yields.mono (hp : Yields o p mid) (h : ∀ a, mid a → post a) : Yields o p post := by
  intro s
  obtain ⟨a, hresult, hmid⟩ := hp s
  exact ⟨a, hresult, h a hmid⟩

theorem Yields.attempt (hp : Yields o p post) :
    Yields o p.attempt fun r => ∃ a, r = .ok a ∧ post a := by
  intro s
  obtain ⟨a, hresult, hpost⟩ := hp s
  exact ⟨.ok a, by rw [execute_attempt, hresult], a, rfl, hpost⟩

theorem yields_update (step : Memory → α × Memory) : Yields o (update step) fun _ => True :=
  fun _ => ⟨_, rfl, trivial⟩

theorem yields_perform {e : Effect} {post : e.Answer → Prop} (h : ∀ s, post (o.answer s e).1) :
    Yields o (perform e) post :=
  fun s => ⟨_, rfl, h s⟩

end Yields

end Program

end AlertRelay
