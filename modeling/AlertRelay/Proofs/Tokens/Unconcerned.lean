import AlertRelay.Proofs.Preference.Transacting
import AlertRelay.Proofs.Tokens.Programs

/-!
Programs that ask for no workspace.

Whatever is done for preferences keeps within these limits: the texts of its statements are other
ones than those of the queries for workspaces (`Statement.not_forWorkspace`).
-/

namespace AlertRelay

open Program

theorem Program.log_unconcerned (level : Log.Level) (message : String)
    (fields : List (String × Value)) : (log level message fields).Within .unconcerned :=
  Within.perform trivial

namespace Database

variable {α : Type}

theorem Query.not_forWorkspace {text : String} (h : text ∉ Integration.workspaceTexts)
    (params : Option (List Value)) : ¬ (Query.mk text params).ForWorkspace :=
  h

theorem openPool_unconcerned (config : Config) : (openPool config).Within .unconcerned :=
  within_openPool (fun _ => trivial) trivial config

theorem queryRow?_unconcerned (config : Config) {q : Query} (hq : ¬ q.ForWorkspace) :
    (queryRow? config q).Within .unconcerned :=
  within_queryRow? (openPool_unconcerned config) (fun _ => trivial) hq

/-- A transaction asks for no workspace if what is done in it asks for none. -/
theorem transaction_unconcerned (config : Config) {body : Program α}
    (hbody : body.Within .unconcerned) : (transaction config body).Within .unconcerned := by
  have hsteering : Steering .unconcerned :=
    ⟨trivial, Query.not_forWorkspace (by decide +kernel) none,
      Query.not_forWorkspace (by decide +kernel) none,
      Query.not_forWorkspace (by decide +kernel) none, fun _ _ _ => trivial, fun _ => trivial⟩
  exact within_transaction hsteering (openPool_unconcerned config) (fun _ => trivial) hbody

end Database

namespace Preference

open Database

theorem Statement.not_forWorkspace (s : Statement) : ¬ s.query.ForWorkspace := by
  cases s with
  | deleteSettingsOf target topics =>
      cases topics with
      | every => exact Query.not_forWorkspace (by decide +kernel) _
      | one topic => exact Query.not_forWorkspace (by decide +kernel) _
      | none => exact Query.not_forWorkspace (by decide +kernel) _
  | _ => exact Query.not_forWorkspace (by decide +kernel) _

namespace Store

theorem transact_unconcerned {α : Type} (store : Store) (config : Config) (writes : List Write)
    (ending : Except Failure α) : (store.transact config writes ending).Within .unconcerned := by
  cases store with
  | memory => exact ⟨trivial, fun _ => Within.ofExcept (fun _ => trivial) _⟩
  | database =>
      have hbody := within_runStatements (L := .unconcerned) (fun _ => trivial)
        (writes.flatMap Write.statements) fun s _ => s.not_forWorkspace
      exact transaction_unconcerned config (hbody.bind fun _ =>
        Within.ofExcept (fun _ => trivial) ending)

theorem orRefused_unconcerned {α : Type} (r : Except Refusal α) :
    (orRefused r).Within .unconcerned :=
  Within.ofExcept (fun _ => trivial) _

theorem choice?_unconcerned (store : Store) (config : Config) (key : Key) :
    (store.choice? config key).Within .unconcerned := by
  cases store with
  | memory => exact ⟨trivial, fun _ => trivial⟩
  | database =>
      exact (within_query (openPool_unconcerned config) (fun _ => trivial)
        (Statement.not_forWorkspace _)).bind fun _ => trivial

theorem choiceFor_unconcerned (store : Store) (config : Config) (provider : Provider)
    (topic : Topic) (c : Coordinates) :
    (store.choiceFor config provider topic c).Within .unconcerned :=
  (orRefused_unconcerned _).bind fun key =>
    (choice?_unconcerned store config key).bind fun _ => trivial

theorem remove_unconcerned (store : Store) (config : Config) (provider : Provider) (topic : Topic)
    (c : Coordinates) : (store.remove config provider topic c).Within .unconcerned :=
  (orRefused_unconcerned _).bind fun writes => transact_unconcerned store config writes (.ok ())

theorem set_unconcerned (store : Store) (config : Config) (provider : Provider) (topic : Topic)
    (choice : Choice) (c : Coordinates) :
    (store.set config provider topic choice c).Within .unconcerned := by
  refine (orRefused_unconcerned _).bind fun updated => ?_
  cases updated with
  | removed writes => exact transact_unconcerned store config writes (.ok ())
  | stored key writes =>
      refine (transact_unconcerned store config writes (.ok ())).bind fun _ => ?_
      exact ⟨trivial, fun _ => trivial⟩

end Store

end Preference

end AlertRelay
