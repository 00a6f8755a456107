import AlertRelay.Attachment.Action
import AlertRelay.Attachment.Event
import AlertRelay.Attachment.Payload
import AlertRelay.Web.FormQuery

/-!
Attachments about issues.

An attachment shows the issue with buttons, a picker for the assignee, the color of its level
and selected tags.  Once somebody acted on the message, the controls give way to lines that
say what was done.
-/

namespace AlertRelay.Attachment

open AlertRelay.Text

/-- An alert rule that a message was sent for. -/
structure AlertRule where
  id : String
  label : String
deriving DecidableEq, Repr

/-- Who can be picked as assignee, and who is. -/
structure AssigneeChoices where
  teams : List PickerOption
  members : List PickerOption
  assignee : Option PickerOption

/-- What an attachment about an issue is made for. -/
structure IssueOptions where
  event : Option Event
  tags : Option (List String)
  identity : Option SlackIdentity
  actions : List MessageAction
  rules : List AlertRule
  linkToEvent : Bool
deriving DecidableEq, Repr

/-- The name of a tag without the mark of reserved ones. -/
def standardTagKey (key : String) : String :=
  match dropBeginning? "internal:".toList key.toList with
  | some rest => String.ofList rest
  | none => key

/-- Kinds of user identities that stand before the value of a user tag. -/
def userTagKinds : List String := ["id:", "email:", "username:", "ip:"]

/-- The value of a tag as it is shown: for users without the kind of identity. -/
def tagValueLabel (key value : String) : String :=
  if standardTagKey key = "user" then
    match userTagKinds.findSome? fun kind => dropBeginning? kind.toList value.toList with
    | some rest => String.ofList rest
    | none => value
  else value

/-- The address of a rule's page. -/
def ruleUrl (baseUrl : String) (rule : AlertRule) (issue : Issue) : String :=
  baseUrl ++ "/organizations/" ++ issue.organizationSlug ++ "/alerts/rules/" ++
    issue.projectSlug ++ "/" ++ rule.id ++ "/"

/-- A query in form encoding. -/
def queryText (pairs : List (String × String)) : String :=
  String.ofList (Web.Form.text (pairs.map fun p => (p.1.toList, p.2.toList)))

/-- The address of an issue's page, or of one event of it. -/
def issueUrl (baseUrl : String) (issue : Issue) (eventId : Option String) : String :=
  let path := baseUrl ++ "/organizations/" ++ issue.organizationSlug ++ "/issues/" ++ issue.id ++
    "/"
  let path :=
    match nonEmpty? eventId with
    | some id => path ++ "events/" ++ id ++ "/"
    | none => path
  path ++ "?" ++ queryText [("referrer", "slack")]

/-- The color of an event: that of its level, if the level has one. -/
def levelColor (event : Option Event) : String :=
  let level := event.bind fun e => e.tags.lookup "level"
  (level.bind fun name => Theme.levelColors.lookup name).getD Theme.errorColor

/-- The button that resolves an issue, or opens it again.  Without releases there is nothing
to choose from in a dialog. -/
def resolveButton (issue : Issue) (hasReleases : Bool) : Control :=
  match issue.status, hasReleases with
  | .resolved, _ => .button "status" "unresolved" "Unresolve"
  | _, true => .button "resolve_dialog" "resolve_dialog" "Resolve..."
  | _, false => .button "status" "resolved" "Resolve"

/-- The button that ignores an issue, or stops ignoring it. -/
def ignoreButton (issue : Issue) : Control :=
  match issue.status with
  | .ignored => .button "status" "unresolved" "Stop Ignoring"
  | _ => .button "status" "ignored" "Ignore"

/-- The groups of the assignee picker; empty groups are left out. -/
def pickerGroups (choices : AssigneeChoices) : List OptionGroup :=
  [⟨"Teams", choices.teams⟩, ⟨"People", choices.members⟩].filter (!·.options.isEmpty)

/-- The tags of an event that are to be shown, in the order of the event. -/
def tagFields (tags : List String) (event : Option Event) : List Field :=
  (event.elim [] Event.tags).filterMap fun (key, value) =>
    let standard := standardTagKey key
    if tags.contains standard then some ⟨standard, tagValueLabel key value⟩ else none

/-- The footer: the short name of the issue, and the rule that sent the message. -/
def footer (baseUrl : String) (rules : List AlertRule) (issue : Issue) : String :=
  match rules with
  | [] => issue.shortId
  | first :: others =>
    let via := issue.shortId ++ " via <" ++ ruleUrl baseUrl first issue ++ "|" ++ first.label ++
      ">"
    if others.isEmpty then via
    else via ++ " (+" ++ (Double.ofNat others.length).text ++ " other)"

/-- The lines that say what was done, each on a line of its own. -/
def actionLines (options : IssueOptions) (lookup : ActorLookup) : String :=
  match options.identity with
  | some identity =>
    "\n".intercalate (options.actions.filterMap fun a => actionText? identity a lookup)
  | none => ""

/-- The attachment about an issue. -/
def issueAttachment (theme : Theme) (issue : Issue) (options : IssueOptions)
    (choices : AssigneeChoices) (hasReleases : Bool) (lookup : ActorLookup) : Payload :=
  let shown := options.event.elim issue.titled Event.titled
  let tagged := options.event.or issue.latestEvent
  let detail := (detailOf? issue.titled (options.event.map Event.titled)).getD ""
  let acted := !options.actions.isEmpty
  let time :=
    match options.event with
    | some e => issue.lastSeen.max e.time
    | none => issue.lastSeen
  { fallback := "[" ++ issue.projectSlug ++ "] " ++ shown.title
    title := shown.heading
    titleLink :=
      issueUrl theme.baseUrl issue
        (if options.linkToEvent then options.event.map Event.id else none)
    text := if acted then detail ++ "\n" ++ actionLines options lookup else detail
    fields := options.tags.elim [] fun tags => tagFields tags tagged
    callbackId := some (Value.ofFields [("issue", .text issue.id)]).json
    footerIcon := theme.logoUrl
    footer := footer theme.baseUrl options.rules issue
    time := some (time.divNat 1000)
    color := if acted then Theme.actionedColor else levelColor tagged
    controls :=
      if acted then []
      else
        [resolveButton issue hasReleases, ignoreButton issue,
          .assigneePicker choices.assignee (pickerGroups choices)] }

end AlertRelay.Attachment
