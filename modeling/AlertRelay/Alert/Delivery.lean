import AlertRelay.Integration.Stored
import AlertRelay.Slack.Call

/-!
Alerts about incidents, posted to Slack.

An alert is posted at most once.  That Slack does not take it is logged, and is no failure.
-/

namespace AlertRelay.Alert

open Program Attachment

/-- What became of an alert. -/
inductive Delivery where
  | sent
  | noIntegration
  | failed
deriving DecidableEq, Repr

def Delivery.name : Delivery → String
  | .sent => "sent"
  | .noIntegration => "integration_missing"
  | .failed => "failed"

/-- The call that posts an attachment to a channel. -/
def postCall (config : Config) (workspace : Integration.Workspace) (channel : String)
    (payload : Payload) : SlackCall :=
  { token := workspace.metadata.accessToken
    timeout := .number config.postTimeout
    method := "chat.postMessage"
    params :=
      .ofFields [("channel", .text channel),
        ("attachments", .text (Value.ofList [payload.toValue]).json)] }

/-- Posts the alert about an incident. -/
def send (config : Config) (action : AlertAction) (incident : Incident)
    (metricValue : Option Double) : Program Delivery := do
  match ← Integration.findActive? config incident.organizationId action.integrationId with
  | none => return .noIntegration
  | some workspace =>
    let payload := incidentAttachment ⟨config.appBaseUrl⟩ action incident metricValue
    match ← attempt (Slack.call (postCall config workspace action.channel payload)) with
    | .ok _ => return .sent
    | .error f =>
      if f.isApiError then
        let error := f.toValue
        log .info "rule.fail.slack_post"
          [("error", error.get "message"), ("code", error.get "code"),
            ("incidentId", .text incident.id)]
        return .failed
      else .fail f

/-- Posts the alert about an incident in the background. -/
def dispatch (action : AlertAction) (incident : Incident) (metricValue : Option Double) :
    Program Unit :=
  perform (.spawn (.alert action incident metricValue))

/-- What is done in the background for an alert: whatever fails is logged. -/
def deliver (config : Config) (action : AlertAction) (incident : Incident)
    (metricValue : Option Double) : Program Unit := do
  match ← attempt (handedOn 1 (send config action incident metricValue)) with
  | .ok _ => return ()
  | .error f =>
    log .error "rule.fail.slack_dispatch"
      [("error", f.toValue), ("incidentId", .text incident.id)]

end AlertRelay.Alert
