import AlertRelay.Alert.Delivery
import AlertRelay.Channel.Lookup

/-!
What is done for each kind of work in the background.
-/

namespace AlertRelay

/-- The program for work in the background.  Its failures are its own affair: they are logged
or kept as the outcome of a job. -/
def Background.program (config : Config) : Background → Program Unit
  | .lookup jobId organizationId workspace name =>
    Channel.finishLookup config jobId organizationId workspace name
  | .alert action incident metricValue => Alert.deliver config action incident metricValue

end AlertRelay
