import AlertRelay.Background
import AlertRelay.Program.Turn

/-!
What is the same but for tokens.

Two rows are alike if they differ in nothing but the tokens that a workspace handed over
(`Row.Alike`).  Whatever else a token gets into can be looked at without it (`tokenless`): the
workspace of a row, a call to Slack, a search, work for the background, an event.  A search looks
at its token nowhere (`Search.receive_tokenless`).
-/

namespace AlertRelay

namespace Value

/-- A field of a record that is given another value. -/
theorem get_put_of_ne {name other : String} (hne : other ≠ name) (fields : Assoc Value)
    (v : Value) :
    get (.ofFields (fields.put name v)) other = get (.ofFields fields) other := by
  simp only [get, Assoc.get?_put_of_ne hne]
  rfl

theorem get_put_self (name : String) (fields : Assoc Value) (v : Value) :
    get (.ofFields (fields.put name v)) name = v := by
  simp only [get, Assoc.get?_put_self]
  rfl

end Value

namespace Integration

/-- The names under which a workspace hands over tokens. -/
def tokenNames : List String := ["access_token", "user_access_token"]

/-- A token in two places: the same value, or two texts that are not empty. -/
def TokenAlike (v w : Value) : Prop :=
  v = w ∨ ∃ s t, v = .text s ∧ w = .text t ∧ s ≠ "" ∧ t ≠ ""

/-- What two workspaces handed over is the same but for tokens. -/
structure MetadataAlike (v w : Value) : Prop where
  keyed : v.fields?.isSome = w.fields?.isSome
  tokens : ∀ name ∈ tokenNames, TokenAlike (v.get name) (w.get name)
  others : ∀ name, name ∉ tokenNames → v.get name = w.get name

end Integration

/-- Rows of workspaces that are the same but for tokens. -/
structure Database.Row.Alike (r s : Database.Row) : Prop where
  truthy : r.isTruthy = s.isTruthy
  metadata : Integration.MetadataAlike (r.get "metadata") (s.get "metadata")
  others : ∀ name, name ≠ "metadata" → r.get name = s.get name

/-- The texts of the queries for workspaces, which hold none of what is asked about. -/
def Integration.workspaceTexts : List String :=
  [(Integration.activeQuery "" "").text, (Integration.anyQuery .null "").text]

/-- A query for workspaces. -/
def Database.Query.ForWorkspace (q : Database.Query) : Prop :=
  q.text ∈ Integration.workspaceTexts

namespace Integration

/-- What a workspace handed over, without the tokens; only whether there was one for a user is
kept. -/
def Metadata.tokenless (m : Metadata) : Metadata :=
  ⟨"", m.installationType, m.userAccessToken.map fun _ => "", m.domainName, []⟩

def Workspace.tokenless (w : Workspace) : Workspace :=
  { w with metadata := w.metadata.tokenless }

/-- Workspaces that are the same but for tokens. -/
def Workspace.Alike (w w' : Workspace) : Prop :=
  w.tokenless = w'.tokenless

end Integration

def SlackCall.tokenless (c : SlackCall) : SlackCall :=
  { c with token := "" }

def Background.tokenless : Background → Background
  | .lookup jobId organizationId workspace name =>
    .lookup jobId organizationId workspace.tokenless name
  | .alert action incident metricValue => .alert action incident metricValue

def Event.tokenless : Event → Event
  | .called call => .called call.tokenless
  | e => e

namespace Channel

def Query.tokenless (q : Query) : Query :=
  { q with token := "" }

def Search.tokenless (s : Search) : Search :=
  { s with query := s.query.tokenless }

def Next.tokenless : Next → Next
  | .more s => .more s.tokenless
  | n => n

namespace Search

theorem remember_tokenless (s : Search) (item : Item) :
    s.tokenless.remember item = (s.remember item).tokenless := by
  have hmatches : s.tokenless.matchesDisplayName item = s.matchesDisplayName item := rfl
  have hcandidate : s.tokenless.candidate = s.candidate := rfl
  unfold remember
  rw [hmatches, hcandidate]
  split
  · cases s.candidate <;> rfl
  · rfl

theorem foldl_remember_tokenless (s : Search) (items : List Item) :
    items.foldl remember s.tokenless = (items.foldl remember s).tokenless := by
  induction items generalizing s with
  | nil => rfl
  | cons item rest ih =>
      rw [List.foldl_cons, List.foldl_cons, remember_tokenless]
      exact ih (s.remember item)

theorem endOfList_tokenless (s : Search) : s.tokenless.endOfList = s.endOfList.tokenless := by
  obtain ⟨query, kind, later, cursor, candidate, ambiguous⟩ := s
  cases ambiguous <;> cases candidate <;> cases later <;> rfl

/-- A search does not look at its token. -/
theorem receive_tokenless (s : Search) (r : Reply) (now : Double) :
    s.tokenless.receive r now = (s.receive r now).tokenless := by
  cases r with
  | failed f =>
      simp only [receive]
      split <;> rfl
  | page p =>
      have hmatches : s.tokenless.matchesName = s.matchesName := rfl
      simp only [receive, receivePage, hmatches, foldl_remember_tokenless]
      generalize p.items.foldl remember s = read
      have hdeadline : read.tokenless.query.deadline = read.query.deadline := rfl
      rw [hdeadline]
      cases p.items.find? s.matchesName with
      | some item => rfl
      | none =>
          simp only
          split
          · rfl
          · cases p.next.filter (· != "") with
            | some cursor => rfl
            | none => exact endOfList_tokenless read

theorem resume_tokenless (s : Search) (reply : SlackReply) (now : Double) :
    s.tokenless.resume reply now = (s.resume reply now).tokenless := by
  have hkind : s.tokenless.kind = s.kind := rfl
  unfold resume
  rw [hkind]
  cases pageOf s.kind reply with
  | ok page => exact receive_tokenless s (.page page) now
  | error f => exact receive_tokenless s (.failed f) now

theorem call_tokenless (s : Search) : s.tokenless.call = s.call.tokenless :=
  rfl

end Search

end Channel

namespace Integration

open Schema

/-- Two checks that both find issues, or whose results belong together. -/
inductive Together {α β : Type} (R : α → β → Prop) :
    Except (List Issue) α → Except (List Issue) β → Prop
  | ok {a : α} {b : β} (h : R a b) : Together R (.ok a) (.ok b)
  | error (es es' : List Issue) : Together R (.error es) (.error es')

theorem nonEmptyText_together {v w : Value} (h : TokenAlike v w) (message : String)
    (path : List String) :
    Together (fun _ _ => True) (nonEmptyText message path v) (nonEmptyText message path w) := by
  rcases h with rfl | ⟨s, t, rfl, rfl, hs, ht⟩
  · cases nonEmptyText message path v with
    | ok s => exact .ok trivial
    | error es => exact .error es es
  · simp only [nonEmptyText, if_neg hs, if_neg ht]
    exact .ok trivial

theorem optional_together {v w : Value} (h : TokenAlike v w) (message : String)
    (path : List String) :
    Together (fun s t : Option String => s.isSome = t.isSome)
      (Schema.optional (nonEmptyText message) path v)
      (Schema.optional (nonEmptyText message) path w) := by
  rcases h with rfl | ⟨s, t, rfl, rfl, hs, ht⟩
  · cases Schema.optional (nonEmptyText message) path v with
    | ok s => exact .ok rfl
    | error es => exact .error es es
  · simp only [Schema.optional, nonEmptyText, if_neg hs, if_neg ht]
    exact .ok rfl

/-- Of the token of a user only its presence counts. -/
theorem Metadata.tokenless_eq_of_isSome {access access' : String} {installation : Option String}
    {user user' : Option String} {domain : Option String} {fields fields' : List (String × Value)}
    (h : user.isSome = user'.isSome) :
    (Metadata.mk access installation user domain fields).tokenless =
      (Metadata.mk access' installation user' domain fields').tokenless := by
  cases user with
  | none =>
      cases user' with
      | none => rfl
      | some t => cases h
  | some s =>
      cases user' with
      | none => cases h
      | some t => rfl

/-- Alike metadata is valid together, and then the same but for tokens. -/
theorem Metadata.ofValue_together {v w : Value} (h : MetadataAlike v w) :
    Together (fun m m' : Metadata => m.tokenless = m'.tokenless) (ofValue v) (ofValue w) := by
  have hkeyed := h.keyed
  have haccess := nonEmptyText_together (h.tokens "access_token" (by decide)) emptyText
    ["access_token"]
  have huser := optional_together (h.tokens "user_access_token" (by decide)) emptyText
    ["user_access_token"]
  unfold ofValue record
  rw [h.others "installation_type" (by decide), h.others "domain_name" (by decide)]
  cases hv : v.fields? with
  | none =>
      rw [hv] at hkeyed
      rw [Option.isNone_iff_eq_none.mp (Option.isSome_eq_false_iff.mp hkeyed.symm)]
      exact .error _ _
  | some listed =>
      rw [hv] at hkeyed
      obtain ⟨listed', hw⟩ := Option.isSome_iff_exists.mp hkeyed.symm
      rw [hw]
      simp only
      generalize nonEmptyText emptyText ["access_token"] (v.get "access_token") = access at *
      generalize nonEmptyText emptyText ["access_token"] (w.get "access_token") = access' at *
      generalize Schema.optional (nonEmptyText emptyText) ["user_access_token"]
        (v.get "user_access_token") = user at *
      generalize Schema.optional (nonEmptyText emptyText) ["user_access_token"]
        (w.get "user_access_token") = user' at *
      generalize Schema.optional (nonEmptyText emptyText) ["installation_type"]
        (w.get "installation_type") = installation
      generalize Schema.optional text ["domain_name"] (w.get "domain_name") = domain
      -- The first check that finds issues in one finds some in the other.
      cases haccess with
      | error es es' => exact .error _ _
      | ok _ =>
          cases installation with
          | error es => exact .error _ _
          | ok installation =>
              cases huser with
              | error es es' => exact .error _ _
              | @ok user user' huser =>
                  cases domain with
                  | error es => exact .error _ _
                  | ok domain =>
                      exact .ok (tokenless_eq_of_isSome huser)

/-- Alike rows hold valid workspaces together, and then the same ones but for tokens. -/
theorem Workspace.ofRow?_alike {r s : Database.Row} (h : r.Alike s) :
    Option.Rel Workspace.Alike (Workspace.ofRow? r) (Workspace.ofRow? s) := by
  have hmetadata := Metadata.ofValue_together h.metadata
  unfold ofRow?
  rw [h.others "id" (by decide), h.others "external_id" (by decide), h.others "name" (by decide),
    h.others "status" (by decide)]
  generalize Metadata.ofValue (r.get "metadata") = checked at *
  generalize Metadata.ofValue (s.get "metadata") = checked' at *
  cases hmetadata with
  | error es es' => exact .none
  | ok hsame =>
      cases (s.get "status").text?.bind Status.ofName? with
      | none => exact .none
      | some status =>
          refine .some ?_
          simp only [Alike, tokenless, hsame]

theorem MetadataAlike.refl (v : Value) : MetadataAlike v v :=
  ⟨rfl, fun _ _ => .inl rfl, fun _ _ => rfl⟩

/-- Alike metadata with other tokens. -/
theorem MetadataAlike.put {fields fields' : Assoc Value}
    (h : MetadataAlike (.ofFields fields) (.ofFields fields')) {token : String}
    (htoken : token ∈ tokenNames) {s t : String} (hs : s ≠ "") (ht : t ≠ "") :
    MetadataAlike (.ofFields (fields.put token (.text s)))
      (.ofFields (fields'.put token (.text t))) where
  keyed := rfl
  tokens := by
    intro name hname
    by_cases heq : name = token
    · subst heq
      rw [Value.get_put_self, Value.get_put_self]
      exact .inr ⟨s, t, rfl, rfl, hs, ht⟩
    · rw [Value.get_put_of_ne heq, Value.get_put_of_ne heq]
      exact h.tokens name hname
  others := by
    intro name hname
    have hne : name ≠ token := by
      rintro rfl
      exact hname htoken
    rw [Value.get_put_of_ne hne, Value.get_put_of_ne hne]
    exact h.others name hname

/-- Alike metadata in one row. -/
theorem row_alike_put (columns : Assoc Value) {v w : Value} (h : MetadataAlike v w) :
    Database.Row.Alike (.ofFields (columns.put "metadata" v))
      (.ofFields (columns.put "metadata" w)) where
  truthy := rfl
  metadata := by
    rw [Value.get_put_self, Value.get_put_self]
    exact h
  others := by
    intro name hname
    rw [Value.get_put_of_ne hname, Value.get_put_of_ne hname]

end Integration

end AlertRelay
