import AlertRelay.Background
import AlertRelay.Proofs.Tokens.Unconcerned
import AlertRelay.Server

/-!
What the server makes of workspaces.

A program that asks for a workspace reads it from a row, and whatever it makes of it is made of the
fields that alike workspaces have in common; the token goes into calls and searches only.  So the
look-up of a channel (`Channel.lookup_alike`), what is left of it for the background, an alert
(`Alert.send_alike`) and the answer to a request (`Server.respond_alike`) are like themselves,
whatever the tokens.
-/

namespace AlertRelay

open Program

namespace Database

theorem Row.Alike.refl (r : Row) : r.Alike r :=
  ⟨rfl, .refl _, fun _ _ => rfl⟩

theorem query_alike (config : Config) (q : Query) :
    (query config q).Alike (List.Forall₂ Row.Alike) (query config q) := by
  refine .after (openPool_unconcerned config) fun _ => .ask fun answer answer' hanswer => ?_
  have hagree : Agree (List.Forall₂ Row.Alike) answer answer' := by
    rcases hanswer with rfl | ⟨-, hagree⟩
    · exact .refl (fun rows => List.forall₂_same.mpr fun r _ => .refl r) answer
    · exact hagree
  cases hagree with
  | ok hrows => exact .done hrows
  | error thrown => exact .fail _

theorem queryRow?_alike (config : Config) (q : Query) :
    (queryRow? config q).Alike (Option.Rel Row.Alike) (queryRow? config q) := by
  refine (query_alike config q).bind fun rows rows' hrows => .done ?_
  cases hrows with
  | nil => exact .none
  | @cons r s _ _ hr _ =>
      simp only [List.head?_cons, Option.filter_some, hr.truthy]
      split
      · exact .some hr
      · exact .none

end Database

namespace Integration

namespace Workspace.Alike

variable {w w' : Workspace} (h : w.Alike w')

include h

theorem tokenless_eq : w.tokenless = w'.tokenless :=
  h

theorem id_eq : w.id = w'.id :=
  (congrArg Workspace.id h.tokenless_eq :)

theorem externalId_eq : w.externalId = w'.externalId :=
  (congrArg Workspace.externalId h.tokenless_eq :)

theorem name_eq : w.name = w'.name :=
  (congrArg Workspace.name h.tokenless_eq :)

theorem domainName_eq : w.metadata.domainName = w'.metadata.domainName :=
  congrArg (·.metadata.domainName) h.tokenless_eq

/-- How a workspace was connected can be told without its tokens. -/
theorem installation_eq : w.metadata.installation = w'.metadata.installation := by
  have htype : w.metadata.installationType = w'.metadata.installationType :=
    congrArg (·.metadata.installationType) h.tokenless_eq
  have huser : w.metadata.userAccessToken.isSome = w'.metadata.userAccessToken.isSome := by
    have hmapped := congrArg (·.metadata.userAccessToken.isSome) h.tokenless_eq
    simpa only [Workspace.tokenless, Metadata.tokenless, Option.isSome_map] using hmapped
  rw [Metadata.installation, Metadata.installation, htype, huser]

end Workspace.Alike

theorem workspaceOf_alike {row row' : Option Database.Row}
    (h : Option.Rel Database.Row.Alike row row') :
    (workspaceOf row).Alike (Option.Rel Workspace.Alike) (workspaceOf row') := by
  cases h with
  | none => exact .done .none
  | @some r s hrow =>
      have hworkspace := Workspace.ofRow?_alike hrow
      simp only [workspaceOf, hrow.others "id" (by decide), hrow.others "status" (by decide)]
      generalize Workspace.ofRow? r = found at *
      generalize Workspace.ofRow? s = found' at *
      cases hworkspace with
      | none => exact .after (log_unconcerned _ _ _) fun _ => .done .none
      | some hsame => exact .done (.some hsame)

theorem findActive?_alike (config : Config) (organizationId integrationId : String) :
    (findActive? config organizationId integrationId).Alike (Option.Rel Workspace.Alike)
      (findActive? config organizationId integrationId) :=
  (Database.queryRow?_alike config _).bind fun _ _ => workspaceOf_alike

theorem orMissing_alike {α β : Type} {R : α → β → Prop} (what : Missing) {a : Option α}
    {b : Option β} (h : Option.Rel R a b) : (orMissing what a).Alike R (orMissing what b) := by
  cases h with
  | none => exact .fail _
  | some h => exact .done h

/-- What is told about an identity context tells no token. -/
theorem findIdentityContext_alike (config : Config)
    (userId organizationId integrationId : String) :
    (findIdentityContext config userId organizationId integrationId).Alike
      (fun c c' => c.summary = c'.summary)
      (findIdentityContext config userId organizationId integrationId) := by
  have horganization : (Database.queryRow? config
      (organizationQuery userId organizationId)).Within .unconcerned :=
    Database.queryRow?_unconcerned config (Database.Query.not_forWorkspace (by decide +kernel) _)
  have hprovider (externalId : Value) :
      (Database.queryRow? config (providerQuery externalId)).Within .unconcerned :=
    Database.queryRow?_unconcerned config (Database.Query.not_forWorkspace (by decide +kernel) _)
  have hmissing {α : Type} (what : Missing) (a : Option α) :
      (orMissing what a).Within .unconcerned := by
    cases a with
    | none => trivial
    | some a => trivial
  -- Of the three rows only the one of the workspace may differ, and what it is asked for next, who
  -- vouches for its users, is the same.
  refine .after horganization fun organization => .after (hmissing _ _) fun organization => ?_
  refine (Database.queryRow?_alike config _).bind fun row row' hrow => ?_
  refine (workspaceOf_alike hrow).bind fun found found' hfound => ?_
  refine (orMissing_alike _ hfound).bind fun workspace workspace' hworkspace => ?_
  rw [hworkspace.externalId_eq]
  refine .after (hprovider _) fun row => .after (hmissing _ _) fun provider => .done ?_
  simp only [IdentityContext.summary, hworkspace.id_eq, hworkspace.name_eq,
    hworkspace.externalId_eq, hworkspace.installation_eq]

end Integration

namespace Channel

open Integration

theorem Search.start_tokenless (q : Query) (kinds : List Kind) :
    (Search.start q kinds).tokenless = Search.start q.tokenless kinds := by
  cases kinds with
  | nil => rfl
  | cons kind later => rfl

variable {w w' : Workspace}

theorem resolveName_alike (config : Config) (name : String) (token token' : String)
    (p : Patience) :
    (resolveName config name token p).Alike Eq (resolveName config name token' p) := by
  have hnow : Program.now.Within .unconcerned := Within.perform trivial
  refine .after hnow fun start => .search ?_ fun r => ?_
  · rw [Search.start_tokenless, Search.start_tokenless]
    rfl
  · exact .refl (Within.ofExcept (fun _ => trivial) r) fun _ => rfl

theorem hinted_alike (h : w.Alike w') (f : Failure) : hinted w f = hinted w' f := by
  unfold hinted
  rw [h.domainName_eq]

theorem resolveIn_alike (config : Config) (organizationId : String) (h : w.Alike w')
    (name : String) (p : Patience) :
    (resolveIn config organizationId w name p).Alike Eq
      (resolveIn config organizationId w' name p) := by
  have hsearched := resolveName_alike config name w.metadata.accessToken w'.metadata.accessToken p
  refine (hsearched.handedOn searchedStages).attempt.bind fun r r' hr => ?_
  obtain rfl := hr.eq
  cases r with
  | error f =>
      simp only [hinted_alike h]
      exact .fail _
  | ok o =>
      simp only [h.id_eq]
      exact .refl ⟨trivial, fun _ => trivial⟩ fun _ => rfl

theorem tryLookup_alike (config : Config) (organizationId integrationId name : String) :
    (tryLookup config organizationId integrationId name).Alike
      (fun found found' => found.1.Alike found'.1 ∧ found.2 = found'.2)
      (tryLookup config organizationId integrationId name) := by
  refine (findActive?_alike config organizationId integrationId).bind fun _ _ hfound => ?_
  refine (orMissing_alike _ hfound).bind fun workspace workspace' hworkspace => ?_
  refine ((resolveIn_alike config organizationId hworkspace name .interactive).handedOn 1).bind
    fun o o' ho => .done ⟨hworkspace, ho⟩

theorem deferLookup_alike (config : Config) (organizationId integrationId : String)
    (h : w.Alike w') (name : String) :
    (deferLookup config organizationId integrationId w name).Alike Eq
      (deferLookup config organizationId integrationId w' name) := by
  have hjob : (createJob config name).Within .unconcerned :=
    ⟨trivial, fun _ => ⟨trivial, fun _ => ⟨trivial, fun _ => trivial⟩⟩⟩
  refine .after hjob fun job => ?_
  refine .after (log_unconcerned _ _ _) fun _ => ?_
  refine .spawn ?_ (.refl ⟨trivial, fun _ => trivial⟩ fun _ => rfl)
  exact congrArg (Background.lookup job.id organizationId · name) h

theorem lookup_alike (config : Config) (organizationId integrationId name : String) :
    (lookup config organizationId integrationId name).Alike Eq
      (lookup config organizationId integrationId name) := by
  refine (tryLookup_alike config organizationId integrationId name).bind ?_
  rintro ⟨workspace, finding⟩ ⟨workspace', _⟩ ⟨hworkspace, rfl⟩
  cases htimedOut : finding.timedOut with
  | false =>
      simp only [htimedOut]
      exact .done rfl
  | true =>
      simp only [htimedOut]
      exact deferLookup_alike config organizationId integrationId hworkspace name

theorem getJob_unconcerned (jobId : String) : (getJob jobId).Within .unconcerned := by
  have hfind : (findJob? jobId).Within .unconcerned :=
    ⟨trivial, fun _ => ⟨trivial, fun _ => trivial⟩⟩
  refine hfind.bind fun found => ?_
  cases found with
  | none => trivial
  | some job => trivial

theorem jobFailure_alike (jobId : String) (h : w.Alike w') (f : Failure) :
    (jobFailure jobId w f).Alike Eq (jobFailure jobId w' f) := by
  simp only [jobFailure, h.id_eq]
  cases JobOutcome.ofDuplicate? f with
  | some outcome => exact .done rfl
  | none => exact .refl ⟨trivial, fun _ => trivial⟩ fun _ => rfl

theorem lookupOutcome_alike (config : Config) (jobId organizationId : String) (h : w.Alike w')
    (name : String) :
    (lookupOutcome config jobId organizationId w name).Alike Eq
      (lookupOutcome config jobId organizationId w' name) := by
  have hresolve := resolveIn_alike config organizationId h name .background
  refine (hresolve.handedOn 1).attempt.bind fun r r' hr => ?_
  obtain rfl := hr.eq
  cases r with
  | ok o => exact .done rfl
  | error f => exact jobFailure_alike jobId h f

theorem finishLookup_alike (config : Config) (jobId organizationId : String) (h : w.Alike w')
    (name : String) :
    (finishLookup config jobId organizationId w name).Alike Eq
      (finishLookup config jobId organizationId w' name) := by
  refine (lookupOutcome_alike config jobId organizationId h name).bind fun o o' ho => ?_
  subst ho
  exact .refl ⟨trivial, fun _ => ⟨trivial, fun _ => trivial⟩⟩ fun _ => rfl

end Channel

theorem Slack.call_alike {c c' : SlackCall} (h : c.tokenless = c'.tokenless) :
    (Slack.call c).Alike Eq (Slack.call c') := by
  have hmethod : c.method = c'.method := (congrArg SlackCall.method h :)
  unfold Slack.call
  rw [hmethod]
  refine .handedOn callStages (.slack h fun reply => ?_)
  exact .refl (Within.ofExcept (fun _ => trivial) _) fun _ => rfl

namespace Alert

theorem send_alike (config : Config) (action : Attachment.AlertAction)
    (incident : Attachment.Incident) (metricValue : Option Double) :
    (send config action incident metricValue).Alike Eq
      (send config action incident metricValue) := by
  refine (Integration.findActive?_alike config incident.organizationId
    action.integrationId).bind fun found found' hfound => ?_
  cases hfound with
  | none => exact .done rfl
  | @some workspace workspace' hworkspace =>
      -- The two calls differ in their tokens, and come to the same.
      have hcall (payload : Attachment.Payload) :
          (Slack.call (postCall config workspace action.channel payload)).Alike Eq
            (Slack.call (postCall config workspace' action.channel payload)) :=
        Slack.call_alike rfl
      refine (hcall _).attempt.bind fun r r' hr => ?_
      obtain rfl := hr.eq
      cases r with
      | ok answer => exact .done rfl
      | error f =>
          refine .refl ?_ fun _ => rfl
          simp only
          split
          · exact ⟨trivial, fun _ => trivial⟩
          · trivial

theorem deliver_alike (config : Config) (action : Attachment.AlertAction)
    (incident : Attachment.Incident) (metricValue : Option Double) :
    (deliver config action incident metricValue).Alike Eq
      (deliver config action incident metricValue) := by
  refine ((send_alike config action incident metricValue).handedOn 1).attempt.bind
    fun r r' hr => ?_
  obtain rfl := hr.eq
  cases r with
  | ok delivery => exact .done rfl
  | error f => exact .refl ⟨trivial, fun _ => trivial⟩ fun _ => rfl

end Alert

/-- Work for the background that is the same but for tokens. -/
theorem Background.program_alike (config : Config) {b b' : Background}
    (h : b.tokenless = b'.tokenless) : (b.program config).Alike Eq (b'.program config) := by
  cases b with
  | lookup jobId organizationId workspace name =>
      cases b' with
      | lookup jobId' organizationId' workspace' name' =>
          obtain ⟨rfl, rfl, hworkspace, rfl⟩ := Background.lookup.inj h
          exact Channel.finishLookup_alike config jobId organizationId hworkspace name
      | alert action incident metricValue => cases h
  | alert action incident metricValue =>
      cases b' with
      | lookup jobId' organizationId' workspace' name' => cases h
      | alert action' incident' metricValue' =>
          cases h
          exact Alert.deliver_alike config action incident metricValue

namespace Server

open Web

theorem checked_unconcerned {α : Type} (r : Except Failure α) :
    (Program.ofExcept r).Within .unconcerned :=
  Within.ofExcept (fun _ => trivial) _

theorem perform_alike (config : Config) (query body : Value) (route : Route) :
    (Server.perform config query body route).Alike Eq
      (Server.perform config query body route) := by
  cases route with
  | readPreference =>
      refine .after (checked_unconcerned _) fun q => ?_
      exact .after (Preference.Store.choiceFor_unconcerned _ config _ _ _) fun _ => .done rfl
  | storePreference =>
      refine .after (checked_unconcerned _) fun u => ?_
      exact .after (Preference.Store.set_unconcerned _ config _ _ _ _) fun _ => .done rfl
  | removePreference =>
      refine .after (checked_unconcerned _) fun q => ?_
      exact .after (Preference.Store.remove_unconcerned _ config _ _ _) fun _ => .done rfl
  | startLookup integrationId =>
      refine .after (checked_unconcerned _) fun l => ?_
      exact (Channel.lookup_alike config _ _ _).bind fun a a' h => h ▸ .done rfl
  | readLookup jobId => exact .after (Channel.getJob_unconcerned jobId) fun _ => .done rfl
  | readIdentity integrationId =>
      refine .after (checked_unconcerned _) fun q => ?_
      exact (Integration.findIdentityContext_alike config _ _ _).bind fun c c' h => .done (h ▸ rfl)

theorem answer_alike (config : Config) (r : Web.Request) (t : Target) (route : Option Route) :
    (answer config r t route).Alike Eq (answer config r t route) := by
  unfold answer
  split
  · exact .done rfl
  · exact .done rfl
  · exact .done rfl
  · refine (perform_alike config _ _ _).attempt.bind fun result result' h => ?_
    obtain rfl := h.eq
    cases result with
    | ok response => exact .done rfl
    | error f => exact .done rfl

/-- The answer to a request is the same, whatever the tokens. -/
theorem respond_alike (config : Config) (r : Web.Request) :
    (respond config r).Alike Eq (respond config r) := by
  have hto (t : Target) : (respondTo config r t).Alike Eq (respondTo config r t) := by
    simp only [respondTo]
    split
    · exact .done rfl
    · exact (answer_alike config r t _).bind fun response response' h => h ▸ .done rfl
  unfold respond
  split
  · exact .done rfl
  · split
    · exact hto _
    · split
      · exact .done rfl
      · exact .done rfl

end Server

end AlertRelay
