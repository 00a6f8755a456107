import AlertRelay.Attachment.IssueAttachment

/-!
Attachments about incidents of metric alerts.
-/

namespace AlertRelay.Attachment

/-- What is to be done when an incident changes: where it is told of, and how serious the
trigger was. -/
structure AlertAction where
  integrationId : String
  channel : String
  critical : Bool
deriving DecidableEq, Repr

/-- An incident of a metric alert.  Its number and its values may be any numbers. -/
structure Incident where
  id : String
  number : Double
  organizationId : String
  organizationSlug : String
  closed : Bool
  started : Double
  ruleId : String
  ruleName : String
  aggregate : String
  windowMinutes : Double
  currentValue : Option Double
deriving DecidableEq, Repr

/-- How an incident stands. -/
inductive IncidentStatus where
  | resolved
  | warning
  | critical
deriving DecidableEq, Repr

namespace IncidentStatus

def label : IncidentStatus → String
  | .resolved => "Resolved"
  | .warning => "Warning"
  | .critical => "Critical"

def color : IncidentStatus → String
  | .resolved => Theme.resolvedColor
  | .warning => Theme.warningColor
  | .critical => Theme.fatalColor

end IncidentStatus

/-- How an incident stands for an action: it is over, or as serious as the trigger. -/
def incidentStatus (incident : Incident) (action : AlertAction) : IncidentStatus :=
  if incident.closed then .resolved
  else if action.critical then .critical
  else .warning

/-- A measured value: whole numbers as they are, others with two places. -/
def metricText (value : Option Double) : String :=
  match value with
  | none => "-"
  | some n => if n.isInteger then n.text else n.fixedText

/-- What is told about an incident. -/
structure IncidentInfo where
  title : String
  titleLink : String
  text : String
  started : Double
  logoUrl : String
  status : IncidentStatus
deriving DecidableEq, Repr

/-- What is told about an incident, with a value measured now or the last one known. -/
def incidentInfo (theme : Theme) (action : AlertAction) (incident : Incident)
    (metricValue : Option Double) : IncidentInfo :=
  let status := incidentStatus incident action
  { title := status.label ++ ": " ++ incident.ruleName
    titleLink :=
      theme.baseUrl ++ "/organizations/" ++ incident.organizationSlug ++
        "/alerts/rules/details/" ++ incident.ruleId ++ "/?" ++
        queryText [("alert", incident.number.text), ("referrer", "slack")]
    text :=
      metricText (metricValue.or incident.currentValue) ++ " " ++ incident.aggregate ++
        " in the last " ++ incident.windowMinutes.text ++ " minutes"
    started := incident.started
    logoUrl := theme.logoUrl
    status }

/-- The footer: when the incident started, as a date that each reader sees in local time. -/
def incidentFooter (started : Double) : String :=
  "<!date^" ++ (started.divNat 1000).roundHalfUp.text ++
    "^Incident - Started \x7bdate_pretty\x7d at \x7btime\x7d | Incident>"

/-- The attachment about an incident. -/
def incidentAttachment (theme : Theme) (action : AlertAction) (incident : Incident)
    (metricValue : Option Double) : Payload :=
  let info := incidentInfo theme action incident metricValue
  { fallback := info.title
    title := info.title
    titleLink := info.titleLink
    text := info.text
    fields := []
    callbackId := none
    footerIcon := info.logoUrl
    footer := incidentFooter info.started
    time := none
    color := info.status.color
    controls := [] }

end AlertRelay.Attachment
