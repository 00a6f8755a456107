import AlertRelay.Proofs.Number.Literals
import AlertRelay.Proofs.Request.Bodies
import AlertRelay.Proofs.Value.Display
import AlertRelay.Request.Forms

/-!
What bodies of requests say about a preference.

`CountsAs` is the number that a field of a body counts as, `Names` the identity that it gives, and
`Says` the update that the fields say together.  Main statement: an update is read from a body
exactly if the body says it (`ofValue_eq_ok_iff`).
-/

namespace AlertRelay

namespace Request

open Preference

/-- The number that a plain value counts as where one is asked for. -/
inductive CountsAs : Value → Double → Prop
  | number (x : Double) : CountsAs (.number x) x
  | text {s : String} {x : Double} (spelled : Double.Spells s x) : CountsAs (.text s) x
  | blank {s : String} (blank : Double.Blank s) : CountsAs (.text s) 0
  | yes : CountsAs (.bool true) 1
  | no : CountsAs (.bool false) 0

/-- The identity that a value gives: none if it is missing or null, else a text that is not
empty. -/
inductive Names : Value → Option String → Prop
  | missing : Names .undefined none
  | null : Names .null none
  | given {s : String} (nonempty : s ≠ "") : Names (.text s) (some s)

/-- Whether the fields of a body say what an update says. -/
structure Says (body : Value) (u : PreferenceUpdate) : Prop where
  provider_mem : u.query.provider ∈ Provider.all
  provider : CountsAs (body.get "provider") u.query.provider.code
  topic_mem : u.query.topic ∈ Topic.all
  topic : CountsAs (body.get "type") u.query.topic.code
  choice_mem : u.choice ∈ Choice.all
  choice : CountsAs (body.get "value") u.choice.code
  user : Names (body.get "userId") u.query.coordinates.user
  team : Names (body.get "teamId") u.query.coordinates.team
  project : Names (body.get "projectId") u.query.coordinates.project
  organization : Names (body.get "organizationId") u.query.coordinates.organization

/-- Whether an update is about codes that there are, and about identities that are not empty. -/
structure IsProper (u : PreferenceUpdate) : Prop where
  provider : u.query.provider ∈ Provider.all
  topic : u.query.topic ∈ Topic.all
  choice : u.choice ∈ Choice.all
  user : u.query.coordinates.user ≠ some ""
  team : u.query.coordinates.team ≠ some ""
  project : u.query.coordinates.project ≠ some ""
  organization : u.query.coordinates.organization ≠ some ""

section Values

variable {v : Value} {x : Double}

mutual

/-- Where no number can be made of a value there is no text to make it from. -/
theorem numberFailure?_cases {v thrown : Value} (h : numberFailure? v = some thrown) :
    thrown = Value.noTextError ∨ thrown = Value.endlessTextError := by
  cases v with
  | list i items => exact itemsNumberFailure?_cases h
  | again n =>
      cases h
      exact .inr rfl
  | _ => exact Value.textFailure?_cases h

theorem itemsNumberFailure?_cases {items : List Value} {thrown : Value}
    (h : itemsNumberFailure? items = some thrown) :
    thrown = Value.noTextError ∨ thrown = Value.endlessTextError := by
  cases items with
  | nil => cases h
  | cons v rest =>
      rcases Option.or_eq_some_iff.mp h with hfirst | ⟨_, hrest⟩
      · exact numberFailure?_cases hfirst
      · exact itemsNumberFailure?_cases hrest

end

theorem ne_nan_of_isInteger (h : x.isInteger = true) : x ≠ .nan := by
  rintro rfl
  cases h

theorem CountsAs.numberFailure? (h : CountsAs v x) : numberFailure? v = none := by
  cases h <;> rfl

/-- What a plain or missing value is converted to is the number that it counts as. -/
theorem toNumber_eq_number_iff (hv : v = .undefined ∨ v.IsPlain) (hx : x ≠ .nan) :
    toNumber v = .number x ↔ CountsAs v x := by
  constructor
  · intro h
    rcases hv with rfl | hplain
    · cases h
    · cases hplain with
      | null => cases h
      | bool b =>
          cases h
          cases b with
          | true => exact .yes
          | false => exact .no
      | number y =>
          cases h
          exact .number _
      | text s =>
          have hread : Double.ofText s = x := Value.number.inj h
          rcases (Double.ofText_eq_iff hx).mp hread with ⟨hblank, rfl⟩ | hspells
          · exact .blank hblank
          · exact .text hspells
      | list items => cases h
      | record fields => exact absurd (Value.number.inj h).symm hx
  · intro h
    cases h with
    | number => rfl
    | text spelled => exact congrArg Value.number (Double.ofText_of_spells spelled)
    | blank blank => exact congrArg Value.number (Double.ofText_of_blank blank)
    | yes => rfl
    | no => rfl

theorem eq_text_of_text? {s : String} (h : v.text? = some s) : v = .text s := by
  cases v with
  | text other => exact congrArg Value.text (Option.some.inj h)
  | _ => cases h

theorem Names.filter_text? {id : Option String} (h : Names v id) :
    v.text?.filter (· != "") = id := by
  cases h with
  | missing => rfl
  | null => rfl
  | given nonempty => simp [Value.text?, nonempty]

theorem Names.ne_empty {id : Option String} (h : Names v id) : id ≠ some "" := by
  cases h with
  | missing => exact fun h => nomatch h
  | null => exact fun h => nomatch h
  | given nonempty => exact fun h => nonempty (Option.some.inj h)

theorem Says.isProper {body : Value} {u : PreferenceUpdate} (h : Says body u) : IsProper u where
  provider := h.provider_mem
  topic := h.topic_mem
  choice := h.choice_mem
  user := h.user.ne_empty
  team := h.team.ne_empty
  project := h.project.ne_empty
  organization := h.organization.ne_empty

end Values

section Properties

variable {body v : Value} {name : String} {codes : List Double}

/-- A value passes if it follows all rules, or is missing where it may be. -/
theorem Property.passes_iff {p : Property} :
    p.messages v = [] ↔
      p.optional = true ∧ v.isAbsent = true ∨ ∀ r ∈ p.rules, r.holds v = true := by
  unfold messages
  split
  · next habsent =>
      rw [Bool.and_eq_true] at habsent
      exact iff_of_true rfl (.inl habsent)
  · next hthere =>
      rw [Bool.and_eq_true] at hthere
      simp only [List.map_eq_nil_iff, List.filter_eq_nil_iff, hthere, false_or, Bool.not_eq_true',
        Bool.not_eq_false]

theorem passes_coded_iff (hcodes : ∀ x ∈ codes, x.isInteger = true) :
    (coded name codes).messages v = [] ↔ ∃ x ∈ codes, v = .number x := by
  rw [Property.passes_iff]
  constructor
  · rintro (⟨hoptional, _⟩ | hrules)
    · cases hoptional
    · have hone : v.number?.any codes.contains = true := hrules _ List.mem_cons_self
      cases v with
      | number x => exact ⟨x, List.contains_iff_mem.mp hone, rfl⟩
      | _ => cases hone
  · rintro ⟨x, hx, rfl⟩
    refine .inr (List.forall_mem_cons.mpr ⟨List.contains_iff_mem.mpr hx, ?_⟩)
    exact List.forall_mem_singleton.mpr (hcodes x hx)

theorem passes_optional_iff : (optional name).messages v = [] ↔ ∃ id, Names v id := by
  rw [Property.passes_iff]
  constructor
  · rintro (⟨_, habsent⟩ | hrules)
    · cases v with
      | undefined => exact ⟨none, .missing⟩
      | null => exact ⟨none, .null⟩
      | _ => cases habsent
    · have hnonempty : Rule.notEmpty.holds v = true := hrules _ List.mem_cons_self
      have htext : v.text?.isSome = true :=
        hrules _ (List.mem_cons_of_mem _ List.mem_cons_self)
      cases v with
      | text s => exact ⟨some s, .given (bne_iff_ne.mp hnonempty)⟩
      | _ => cases htext
  · rintro ⟨id, hnames⟩
    cases hnames with
    | missing => exact .inl ⟨rfl, rfl⟩
    | null => exact .inl ⟨rfl, rfl⟩
    | given nonempty =>
        refine .inr (List.forall_mem_cons.mpr ⟨bne_iff_ne.mpr nonempty, ?_⟩)
        exact List.forall_mem_singleton.mpr rfl

/-- A code of a body passes if the field counts as it. -/
theorem passes_coded_read_iff (hbody : IsBody body) (hcodes : ∀ x ∈ codes, x.isInteger = true) :
    (coded name codes).messages ((coded name codes).read body) = [] ↔
      ∃ x ∈ codes, CountsAs (body.get name) x := by
  rw [passes_coded_iff hcodes]
  refine exists_congr fun x => and_congr_right fun hx => ?_
  exact toNumber_eq_number_iff (hbody.get_cases name) (ne_nan_of_isInteger (hcodes x hx))

end Properties

section Shapes

variable {body : Value} {shape : Shape}

/-- The properties that a body gives, without those that are missing. -/
def Shape.known (shape : Shape) (body : Value) : List (String × Value) :=
  (shape.map fun p => (p.name, p.read body)).filter fun f => !f.2.isUndefined

/-- A shape takes a body if nothing is in the way of converting it and all properties pass. -/
theorem check_eq_ok_iff (hbody : IsBody body) {fields : List (String × Value)} :
    shape.check body = .ok fields ↔ shape.failure? body = none ∧
      (∀ p ∈ shape, p.messages (p.read body) = []) ∧ shape.known body = fields := by
  have hreadings : shape.readings body = shape.map fun p => (p, p.read body) := by
    simp only [Shape.readings, Property.read, hbody.get_listed]
  have hpass : (shape.readings body).flatMap (fun q => q.1.messages q.2) = [] ↔
      ∀ p ∈ shape, p.messages (p.read body) = [] := by
    rw [hreadings, List.flatMap_map, List.flatMap_eq_nil_iff]
  have hknown : ((shape.readings body).map fun q => (q.1.name, q.2)).filter
      (fun f => !f.2.isUndefined) = shape.known body := by
    rw [hreadings, List.map_map]
    rfl
  unfold Shape.check
  split
  · next thrown hfailure =>
      refine iff_of_false (fun h => ?_) fun h => ?_
      · cases h
      · cases hfailure.symm.trans h.1
  · next hfailure =>
      split
      · next hnone =>
          have hall := hpass.mp hnone
          refine ⟨fun h => ⟨hfailure, hall, ?_⟩, fun h => ?_⟩
          · exact hknown.symm.trans (Except.ok.inj h)
          · exact congrArg Except.ok (hknown.trans h.2.2)
      · next messages hsome =>
          refine iff_of_false (fun h => ?_) fun h => ?_
          · cases h
          · exact hsome (hpass.mpr h.2.1)

/-- A shape refuses a body with messages, unless what is in it cannot be converted. -/
theorem check_eq_error {v : Value} {f : Failure} (h : shape.check v = .error f) :
    (∃ thrown, shape.failure? v = some thrown ∧ f = .foreign thrown) ∨
      shape.failure? v = none ∧ ∃ messages, f = .invalidRequest messages := by
  unfold Shape.check at h
  split at h
  · next thrown hfailure =>
      cases h
      exact .inl ⟨thrown, hfailure, rfl⟩
  · next hfailure =>
      split at h
      · cases h
      · cases h
        exact .inr ⟨hfailure, _, rfl⟩

mutual

theorem failure?_cases {v thrown : Value} (h : shape.failure? v = some thrown) :
    thrown = Value.noTextError ∨ thrown = Value.endlessTextError := by
  have hfields {fields : List (String × Value)}
      (h : fields.findSome? shape.fieldFailure? = some thrown) :
      thrown = Value.noTextError ∨ thrown = Value.endlessTextError := by
    obtain ⟨f, _, hfield⟩ := List.exists_of_findSome?_eq_some h
    unfold Shape.fieldFailure? at hfield
    split at hfield
    · exact numberFailure?_cases hfield
    · cases hfield
  cases v with
  | list i items => exact itemsFailure?_cases h
  | again n =>
      cases h
      exact .inr rfl
  | _ => exact hfields h

theorem itemsFailure?_cases {items : List Value} {thrown : Value}
    (h : shape.itemsFailure? items = some thrown) :
    thrown = Value.noTextError ∨ thrown = Value.endlessTextError := by
  cases items with
  | nil => cases h
  | cons v rest =>
      rcases Option.or_eq_some_iff.mp h with hfirst | ⟨_, hrest⟩
      · exact failure?_cases hfirst
      · exact itemsFailure?_cases hrest

end

theorem map_check_eq_ok_iff {α : Type} (hbody : IsBody body) {f : List (String × Value) → α}
    {a : α} : (shape.check body).map f = .ok a ↔ shape.failure? body = none ∧
      (∀ p ∈ shape, p.messages (p.read body) = []) ∧ f (shape.known body) = a := by
  constructor
  · intro h
    cases hcheck : shape.check body with
    | error failure =>
        rw [hcheck] at h
        cases h
    | ok fields =>
        rw [hcheck] at h
        cases h
        obtain ⟨hconverted, hpass, rfl⟩ := (check_eq_ok_iff hbody).mp hcheck
        exact ⟨hconverted, hpass, rfl⟩
  · rintro ⟨hconverted, hpass, rfl⟩
    rw [(check_eq_ok_iff hbody).mpr ⟨hconverted, hpass, rfl⟩]
    rfl

/-- What is known of a property is what it is read as, unless it is missing. -/
theorem bind_get?_known {α : Type} {f : Value → Option α} (hf : f .undefined = none)
    (hnames : (shape.map Property.name).Nodup) {p : Property} (hp : p ∈ shape) :
    (Assoc.get? p.name (shape.known body)).bind f = f (p.read body) := by
  have hnodup : (Assoc.names (shape.known body)).Nodup := by
    have hall : (shape.map fun p => (p.name, p.read body)).map Prod.fst =
        shape.map Property.name := List.map_map
    rw [← hall] at hnames
    exact (List.filter_sublist.map Prod.fst).nodup hnames
  have hfound (x : Value) : Assoc.get? p.name (shape.known body) = some x ↔
      p.read body = x ∧ x.isUndefined = false := by
    rw [Assoc.get?_eq_some_iff hnodup, Shape.known, List.mem_filter, List.mem_map,
      Bool.not_eq_true']
    refine and_congr_left fun _ => ⟨?_, ?_⟩
    · rintro ⟨q, hq, heq⟩
      obtain ⟨hname, rfl⟩ := Prod.mk.inj heq
      rw [List.inj_on_of_nodup_map hnames hq hp hname]
    · rintro rfl
      exact ⟨p, hp, rfl⟩
  cases hget : Assoc.get? p.name (shape.known body) with
  | some x =>
      rw [((hfound x).mp hget).1]
      rfl
  | none =>
      cases hundefined : (p.read body).isUndefined with
      | false => cases hget.symm.trans ((hfound _).mpr ⟨rfl, hundefined⟩)
      | true =>
          cases hread : p.read body with
          | undefined => exact hf.symm
          | _ =>
              rw [hread] at hundefined
              cases hundefined

theorem codeOf_known (hbody : IsBody body) (hnames : (shape.map Property.name).Nodup)
    {name : String} {codes : List Double} (hp : coded name codes ∈ shape)
    (hcodes : ∀ x ∈ codes, x.isInteger = true) {x : Double} (hx : x ∈ codes)
    (h : CountsAs (body.get name) x) : codeOf (shape.known body) name = x := by
  have hread : (coded name codes).read body = .number x :=
    (toNumber_eq_number_iff (hbody.get_cases name) (ne_nan_of_isInteger (hcodes x hx))).mpr h
  have hknown : (Assoc.get? name (shape.known body)).bind Value.number? =
      ((coded name codes).read body).number? := bind_get?_known rfl hnames hp
  rw [codeOf, hknown, hread]
  rfl

theorem identityOf?_known (hnames : (shape.map Property.name).Nodup) {name : String}
    (hp : optional name ∈ shape) {id : Option String} (h : Names (body.get name) id) :
    identityOf? (shape.known body) name = id := by
  have hknown : (Assoc.get? name (shape.known body)).bind Value.text? = (body.get name).text? :=
    bind_get?_known rfl hnames hp
  rw [identityOf?, hknown, h.filter_text?]

end Shapes

section Updates

variable {body : Value} {u : PreferenceUpdate}

theorem updateShape_names : (updateShape.map Property.name).Nodup := by
  decide

/-- The codes of a shape are whole numbers. -/
theorem isInteger_of_mem_codes :
    (∀ x ∈ Provider.all.map (·.code), x.isInteger = true) ∧
      (∀ x ∈ Topic.all.map (·.code), x.isInteger = true) ∧
      ∀ x ∈ Choice.all.map (·.code), x.isInteger = true := by
  decide +kernel

/-- The fields that have to be numbers. -/
theorem numeric_cases {name : String}
    (h : (updateShape.any fun p => p.numeric && p.name == name) = true) :
    name = "value" ∨ name = "provider" ∨ name = "type" := by
  obtain ⟨p, hp, hnumeric⟩ := List.any_eq_true.mp h
  obtain ⟨hnumber, hname⟩ := Bool.and_eq_true_iff.mp hnumeric
  have hnames : ∀ p ∈ updateShape, p.numeric = true →
      p.name = "value" ∨ p.name = "provider" ∨ p.name = "type" := by
    decide
  rw [← beq_iff_eq.mp hname]
  exact hnames p hp hnumber

/-- Nothing is in the way of converting what says an update. -/
theorem Says.failure? (h : Says body u) (hbody : IsBody body) :
    updateShape.failure? body = none := by
  cases hbody with
  | missing => rfl
  | bare _ noFields =>
      have hchoice := h.choice
      rw [Value.get_of_no_fields noFields] at hchoice
      cases hchoice
  | @record fields plain =>
      have hfields : ∀ f ∈ fields, updateShape.fieldFailure? f = none := by
        intro f hf
        have hget : (Value.ofFields fields).get f.1 = f.2 := by
          rw [Value.get_plain, (Assoc.get?_eq_some_iff plain.nodup).mpr hf, Option.getD_some]
        unfold Shape.fieldFailure?
        split
        · next hnumeric =>
            rcases numeric_cases hnumeric with hname | hname | hname
            · exact (hget ▸ hname ▸ h.choice).numberFailure?
            · exact (hget ▸ hname ▸ h.provider).numberFailure?
            · exact (hget ▸ hname ▸ h.topic).numberFailure?
        · rfl
      have hfailure : updateShape.failure? (.record none fields) =
          ((Value.ofFields fields).fields?.getD []).findSome? updateShape.fieldFailure? := rfl
      rw [hfailure, Value.fields?_plain, Option.getD_some]
      exact List.findSome?_eq_none_iff.mpr hfields

/-- The update that known properties make. -/
def updateOf (known : List (String × Value)) : PreferenceUpdate :=
  ⟨⟨⟨codeOf known "provider"⟩, ⟨codeOf known "type"⟩, coordinatesOf known⟩,
    ⟨codeOf known "value"⟩⟩

/-- A body that says an update makes it. -/
theorem Says.updateOf_known (h : Says body u) (hbody : IsBody body) :
    updateOf (updateShape.known body) = u := by
  obtain ⟨hproviders, htopics, hchoices⟩ := isInteger_of_mem_codes
  have hprovider : codeOf (updateShape.known body) "provider" = u.query.provider.code :=
    codeOf_known hbody updateShape_names (List.mem_cons_of_mem _ List.mem_cons_self)
      hproviders (List.mem_map_of_mem h.provider_mem) h.provider
  have htopic : codeOf (updateShape.known body) "type" = u.query.topic.code :=
    codeOf_known hbody updateShape_names
      (List.mem_cons_of_mem _ (List.mem_cons_of_mem _ List.mem_cons_self))
      htopics (List.mem_map_of_mem h.topic_mem) h.topic
  have hchoice : codeOf (updateShape.known body) "value" = u.choice.code :=
    codeOf_known hbody updateShape_names List.mem_cons_self
      hchoices (List.mem_map_of_mem h.choice_mem) h.choice
  have huser := identityOf?_known updateShape_names (by decide) h.user
  have hteam := identityOf?_known updateShape_names (by decide) h.team
  have hproject := identityOf?_known updateShape_names (by decide) h.project
  have horganization := identityOf?_known updateShape_names (by decide) h.organization
  simp only [updateOf, coordinatesOf, hprovider, htopic, hchoice, huser, hteam, hproject,
    horganization]

/-- All properties of a body pass exactly if it says an update. -/
theorem passes_iff_exists_update (hbody : IsBody body) :
    (∀ p ∈ updateShape, p.messages (p.read body) = []) ↔ ∃ u, Says body u := by
  obtain ⟨hproviders, htopics, hchoices⟩ := isInteger_of_mem_codes
  constructor
  · intro h
    simp only [updateShape, preferenceShape, List.forall_mem_cons] at h
    obtain ⟨hchoice, hprovider, htopic, huser, hteam, hproject, horganization, _⟩ := h
    obtain ⟨_, hvalue, hchoice⟩ := (passes_coded_read_iff hbody hchoices).mp hchoice
    obtain ⟨_, hcode, hprovider⟩ := (passes_coded_read_iff hbody hproviders).mp hprovider
    obtain ⟨_, htype, htopic⟩ := (passes_coded_read_iff hbody htopics).mp htopic
    obtain ⟨choice, choice_mem, rfl⟩ := List.mem_map.mp hvalue
    obtain ⟨provider, provider_mem, rfl⟩ := List.mem_map.mp hcode
    obtain ⟨topic, topic_mem, rfl⟩ := List.mem_map.mp htype
    obtain ⟨user, huser⟩ := passes_optional_iff.mp huser
    obtain ⟨team, hteam⟩ := passes_optional_iff.mp hteam
    obtain ⟨project, hproject⟩ := passes_optional_iff.mp hproject
    obtain ⟨organization, horganization⟩ := passes_optional_iff.mp horganization
    exact ⟨⟨⟨provider, topic, ⟨user, team, project, organization⟩⟩, choice⟩,
      provider_mem, hprovider, topic_mem, htopic, choice_mem, hchoice, huser, hteam, hproject,
      horganization⟩
  · rintro ⟨u, h⟩
    simp only [updateShape, preferenceShape, List.forall_mem_cons]
    refine ⟨?_, ?_, ?_, ?_, ?_, ?_, ?_, fun _ h => absurd h List.not_mem_nil⟩
    · exact (passes_coded_read_iff hbody hchoices).mpr
        ⟨_, List.mem_map_of_mem h.choice_mem, h.choice⟩
    · exact (passes_coded_read_iff hbody hproviders).mpr
        ⟨_, List.mem_map_of_mem h.provider_mem, h.provider⟩
    · exact (passes_coded_read_iff hbody htopics).mpr
        ⟨_, List.mem_map_of_mem h.topic_mem, h.topic⟩
    · exact passes_optional_iff.mpr ⟨_, h.user⟩
    · exact passes_optional_iff.mpr ⟨_, h.team⟩
    · exact passes_optional_iff.mpr ⟨_, h.project⟩
    · exact passes_optional_iff.mpr ⟨_, h.organization⟩

/-- An update is read from a body exactly if its fields say it. -/
theorem ofValue_eq_ok_iff (hbody : IsBody body) :
    PreferenceUpdate.ofValue body = .ok u ↔ Says body u := by
  have hread : PreferenceUpdate.ofValue body = .ok u ↔ updateShape.failure? body = none ∧
      (∀ p ∈ updateShape, p.messages (p.read body) = []) ∧ updateOf (updateShape.known body) = u :=
    map_check_eq_ok_iff hbody
  rw [hread, passes_iff_exists_update hbody]
  constructor
  · rintro ⟨_, ⟨u', hsay⟩, rfl⟩
    rwa [hsay.updateOf_known hbody]
  · intro h
    exact ⟨h.failure? hbody, ⟨u, h⟩, h.updateOf_known hbody⟩

/-- A body from which no update is read is refused with messages, unless what is in it cannot be
converted. -/
theorem ofValue_eq_error {f : Failure} (h : PreferenceUpdate.ofValue body = .error f) :
    (∃ thrown, updateShape.failure? body = some thrown ∧ f = .foreign thrown) ∨
      updateShape.failure? body = none ∧ ∃ messages, f = .invalidRequest messages := by
  have hread : PreferenceUpdate.ofValue body = (updateShape.check body).map updateOf := rfl
  rw [hread] at h
  cases hcheck : updateShape.check body with
  | ok fields =>
      rw [hcheck] at h
      cases h
  | error f' =>
      rw [hcheck] at h
      cases h
      exact check_eq_error hcheck

/-- The values that count as zero without being it: a blank text, and the truth value for no. -/
inductive IsVoid : Value → Prop
  | blank {s : String} (blank : Double.Blank s) : IsVoid (.text s)
  | no : IsVoid (.bool false)

/-- Whether a value is a number, or a text that spells the code of a choice. -/
def IsChoice (v : Value) : Prop :=
  (∃ x, v = .number x) ∨ ∃ s, v = .text s ∧ ∃ c ∈ Choice.all, Double.Spells s c.code

theorem IsVoid.not_isChoice {v : Value} (h : IsVoid v) : ¬ IsChoice v := by
  intro hchoice
  cases h with
  | blank blank =>
      rcases hchoice with ⟨x, hx⟩ | ⟨s, hs, c, _, hspells⟩
      · cases hx
      · cases hs
        exact hspells.not_blank blank
  | no =>
      rcases hchoice with ⟨x, hx⟩ | ⟨s, hs, _⟩
      · cases hx
      · cases hs

/-- What stands for a choice without being one stands for no choice. -/
theorem Says.choice_cases (h : Says body u) :
    IsChoice (body.get "value") ∨ IsVoid (body.get "value") ∧ u.choice = .inherit := by
  have hmem := h.choice_mem
  have hcounts := h.choice
  have hzero : u.choice.code = 0 → u.choice = .inherit := congrArg Choice.mk
  generalize hvalue : body.get "value" = v at hcounts ⊢
  generalize hcode : u.choice.code = x at hcounts hzero
  cases hcounts with
  | number x => exact .inl (.inl ⟨x, rfl⟩)
  | text spelled =>
      subst hcode
      exact .inl (.inr ⟨_, rfl, u.choice, hmem, spelled⟩)
  | blank blank => exact .inr ⟨.blank blank, hzero rfl⟩
  | yes =>
      have hcodes : ∀ c ∈ Choice.all, c.code ≠ 1 := by decide +kernel
      exact absurd hcode (hcodes _ hmem)
  | no => exact .inr ⟨.no, hzero rfl⟩

end Updates

end Request

end AlertRelay
