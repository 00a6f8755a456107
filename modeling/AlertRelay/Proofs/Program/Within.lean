import AlertRelay.Program.Basic

/-!
Limits of programs.

`p.Within L` says that whatever `p` is answered, it asks for nothing, changes the memory in no
way, and fails for nothing but what the limits `L` allow.
-/

namespace AlertRelay

/-- What a program may ask for, how it may change the memory, and what it may fail for. -/
structure Limits where
  asks : Effect → Prop
  changes : (Memory → Memory) → Prop
  fails : Failure → Prop

/-- The limits with all failures allowed. -/
def Limits.mayFail (L : Limits) : Limits :=
  { L with fails := fun _ => True }

namespace Program

variable {α β : Type} {L : Limits}

/-- Whether a program keeps within limits. -/
def Within (L : Limits) : Program α → Prop
  | .done _ => True
  | .fail f => L.fails f
  | .access change next => L.changes change ∧ ∀ m, (next m).Within L
  | .ask e next => L.asks e ∧ ∀ x, (next x).Within L

namespace Within

theorem mono {L' : Limits} {p : Program α} (hp : p.Within L) (hasks : ∀ e, L.asks e → L'.asks e)
    (hchanges : ∀ c, L.changes c → L'.changes c) (hfails : ∀ f, L.fails f → L'.fails f) :
    p.Within L' := by
  induction p with
  | done a => trivial
  | fail f => exact hfails f hp
  | access change next ih => exact ⟨hchanges change hp.1, fun m => ih m (hp.2 m)⟩
  | ask e next ih => exact ⟨hasks e hp.1, fun x => ih x (hp.2 x)⟩

theorem bind {p : Program α} {k : α → Program β} (hp : p.Within L)
    (hk : ∀ a, (k a).Within L) : (p.bind k).Within L := by
  induction p with
  | done a => exact hk a
  | fail f => exact hp
  | access change next ih => exact ⟨hp.1, fun m => ih m (hp.2 m)⟩
  | ask e next ih => exact ⟨hp.1, fun x => ih x (hp.2 x)⟩

/-- A program whose failures become results fails for nothing. -/
theorem attempt {p : Program α} (hp : p.Within L.mayFail) : p.attempt.Within L := by
  induction p with
  | done a => trivial
  | fail f => trivial
  | access change next ih => exact ⟨hp.1, fun m => ih m (hp.2 m)⟩
  | ask e next ih => exact ⟨hp.1, fun x => ih x (hp.2 x)⟩

theorem perform {e : Effect} (he : L.asks e) : (Program.perform e).Within L :=
  ⟨he, fun _ => trivial⟩

theorem giveWay (h : L.asks .giveWay) (n : Nat) : (Program.giveWay n).Within L := by
  induction n with
  | zero => trivial
  | succ n ih => exact ⟨h, fun _ => ih⟩

theorem ofExcept (h : ∀ f, L.fails f) (r : Except Failure α) : (Program.ofExcept r).Within L := by
  cases r with
  | ok a => trivial
  | error f => exact h f

theorem handedOn (hgive : L.asks .giveWay) (hfails : ∀ f, L.fails f) (stages : Nat)
    {p : Program α} (hp : p.Within L) : (Program.handedOn stages p).Within L := by
  have hmayFail : p.Within L.mayFail :=
    hp.mono (fun _ h => h) (fun _ h => h) fun _ _ => trivial
  exact hmayFail.attempt.bind fun r => (giveWay hgive stages).bind fun _ => ofExcept hfails r

end Within

end Program

end AlertRelay
