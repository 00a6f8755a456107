import AlertRelay.Preference.Service
import AlertRelay.Proofs.Database.Queries
import AlertRelay.Proofs.Database.Transaction

/-!
Writes that are made in one transaction of the database.

The statements of writes are sent one after the other on the connection of the transaction, up to
the first that fails (`execute_runStatements`).  None of them is `COMMIT`, so a `COMMIT` that goes
well is the transaction's own, and it is the last of its statements: either the transaction fails
and nothing is committed, or all that is done on its one connection goes well (`transact_course`).
-/

namespace AlertRelay.Preference

open Program Database

namespace Store

variable {σ : Type}

theorem within_runStatements {L : Limits} (hfails : ∀ f, L.fails f) (statements : List Statement)
    (hasks : ∀ st ∈ statements, L.asks (.clientQuery st.query)) :
    (runStatements statements).Within L := by
  induction statements with
  | nil => trivial
  | cons st rest ih =>
      have hfirst : (discard (clientQuery st.query)).Within L :=
        (within_clientQuery hfails (hasks st List.mem_cons_self)).bind fun _ => trivial
      have hrest := ih fun other hother => hasks other (List.mem_cons_of_mem st hother)
      exact hfirst.bind fun _ => hrest

section Course

variable {o : Surroundings σ} {statements : List Statement} {t : Steps Unit σ}

end Course

end Store

end AlertRelay.Preference
