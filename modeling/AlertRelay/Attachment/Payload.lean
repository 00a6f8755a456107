import AlertRelay.Attachment.Actor
import AlertRelay.Value.Json

/-!
Attachments as they are posted.
-/

namespace AlertRelay.Attachment

/-- How attachments look: the address of the web application, without a slash at its end,
which serves the logo. -/
structure Theme where
  baseUrl : String
deriving DecidableEq, Repr

namespace Theme

/-- The color of an issue that was already acted on. -/
def actionedColor : String := "#EDEEEF"

/-- The color of an incident that is over. -/
def resolvedColor : String := "#4dc771"

/-- The colors of the levels of events. -/
def levelColors : List (String × String) :=
  [("debug", "#fbe14f"), ("info", "#2788ce"), ("warning", "#FFC227"), ("error", "#E03E2F"),
    ("fatal", "#FA4747")]

/-- The colors of warnings, errors and fatal errors. -/
def warningColor : String := "#FFC227"
def errorColor : String := "#E03E2F"
def fatalColor : String := "#FA4747"

/-- The address of the logo. -/
def logoUrl (t : Theme) : String :=
  t.baseUrl ++ "/_static/images/email-avatar.png"

end Theme

/-- A short line with a title and a value. -/
structure Field where
  title : String
  value : String
deriving DecidableEq, Repr

/-- A titled group of picker entries. -/
structure OptionGroup where
  text : String
  options : List PickerOption

/-- A control under an attachment. -/
inductive Control where
  | button (name value text : String)
  | assigneePicker (selected : Option PickerOption) (groups : List OptionGroup)

/-- An attachment. -/
structure Payload where
  fallback : String
  title : String
  titleLink : String
  text : String
  fields : List Field
  callbackId : Option String
  footerIcon : String
  footer : String
  time : Option Double
  color : String
  controls : List Control

/-- An entry of a picker as a value. -/
def PickerOption.toValue (o : PickerOption) : Value :=
  .ofFields [("text", o.text), ("value", .text o.value)]

def OptionGroup.toValue (g : OptionGroup) : Value :=
  .ofFields [("text", .text g.text), ("options", .ofList (g.options.map PickerOption.toValue))]

def Control.toValue : Control → Value
  | .button name value text =>
    .ofFields [("type", .text "button"), ("name", .text name), ("value", .text value),
      ("text", .text text)]
  | .assigneePicker selected groups =>
    .ofFields [("type", .text "select"), ("name", .text "assign"),
      ("text", .text "Select Assignee..."),
      ("selected_options", .ofList [selected.elim .null PickerOption.toValue]),
      ("option_groups", .ofList (groups.map OptionGroup.toValue))]

def Field.toValue (f : Field) : Value :=
  .ofFields [("title", .text f.title), ("value", .text f.value), ("short", .bool true)]

/-- An attachment as a value, its fields in the order in which they are written. -/
def Payload.toValue (p : Payload) : Value :=
  .ofFields
    ([("fallback", .text p.fallback), ("title", .text p.title),
      ("title_link", .text p.titleLink), ("text", .text p.text),
      ("fields", .ofList (p.fields.map Field.toValue)), ("mrkdwn_in", .ofList [.text "text"])] ++
      (p.callbackId.map fun id => ("callback_id", Value.text id)).toList ++
      [("footer_icon", .text p.footerIcon), ("footer", .text p.footer)] ++
      (p.time.map fun t => ("ts", Value.number t)).toList ++
      [("color", .text p.color), ("actions", .ofList (p.controls.map Control.toValue))])

end AlertRelay.Attachment
