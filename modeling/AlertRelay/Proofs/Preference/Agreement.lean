import AlertRelay.Proofs.Preference.Carrying
import AlertRelay.Proofs.Preference.LastCalls
import Mathlib.Data.List.Perm.Basic

/-!
Preferences in memory and in a database agree.

The same calls are made of a server that keeps preferences in memory and of one that keeps them
in a database.  What holds after every call is that the tables hold the rows, in whatever order
(`Mirrors`); from this follows that look-ups are answered alike.  Main statement: the calls come
out alike one by one, and the stores agree afterwards (`stores_agree`).
-/

namespace AlertRelay.Preference

open Assoc (Keyed rows names)
open Database

/-- A list of the same members as an image, in any order, is the image of such a list. -/
theorem exists_map_of_perm {α β : Type} {f : α → β} {l : List α} {m : List β}
    (h : m.Perm (l.map f)) : ∃ l' : List α, m = l'.map f ∧ l'.Perm l := by
  have hpairs : List.Forall₂ (fun b a => b = f a) (l.map f) l := by
    rw [List.forall₂_map_left_iff]
    exact List.forall₂_same.mpr fun _ _ => rfl
  obtain ⟨l', hl', hperm⟩ := List.perm_comp_forall₂ h hpairs
  refine ⟨l', ?_, hperm⟩
  rw [← List.forall₂_eq_eq_eq, List.forall₂_map_right_iff]
  exact hl'

section LookUps

variable {σ : Type} {o : Surroundings σ} {session : σ → Session} {contents : Contents}
  {m : MemoryStore}

/-- A choice is known by its code. -/
theorem Choice.find?_code : ∀ c ∈ all, all.find? (·.code == c.code) = some c := by
  decide +kernel

/-- The database finds the choice that is stored in memory. -/
theorem ends_choice? (h : Serves o session commands) (config : Config)
    (hmirrors : Mirrors contents m.settings m.options) (hsound : m.Sound) {k : Key}
    (hk : k.Storable) :
    Ends o session ⟨contents, none⟩ (Store.database.choice? config k)
      fun found there => found = m.choice? k ∧ there = ⟨contents, none⟩ := by
  obtain ⟨found, hmeaning, hfound⟩ :=
    hmirrors.settings.select (asks_key hk) ["value"] (some 1)
  refine (ends_query h config (s := .selectSetting k) hmeaning).bind ?_
  rintro answer _ ⟨⟨given, hgiven, rfl⟩, rfl⟩
  refine ends_done _ ⟨?_, rfl⟩
  obtain ⟨l, rfl, hl⟩ := exists_map_of_perm (hgiven.trans hfound)
  have hmem : ∀ row, row ∈ l ↔ row ∈ rows m.settings ∧ row.key = k := by
    intro row
    rw [hl.mem_iff, List.mem_filter, beq_iff_eq]
  cases l with
  | nil =>
      cases hchoice : m.choice? k with
      | none => rfl
      | some choice =>
          have hrow := (hsound.choice?_eq_some_iff hk.provider hk.topic).mp hchoice
          exact absurd ((hmem ⟨k, choice⟩).mpr ⟨hrow, rfl⟩) List.not_mem_nil
  | cons row rest =>
      obtain ⟨hrow, rfl⟩ := (hmem row).mp List.mem_cons_self
      have hchoice := (hsound.choice?_eq_some_iff hk.provider hk.topic).mpr hrow
      have hcode := Choice.find?_code _ (Choice.mem_all_of_allows (hsound.allowed row hrow))
      rw [hchoice, ← hcode]
      rfl

/-- The row that is given for an option. -/
def OptionRow.given (o : OptionRow) : Row :=
  .ofFields [("user_id", .text o.key.user), ("value", o.value.value)]

theorem OptionValues.put_ofNames (user : String) (v : OptionValue) (a : Assoc OptionValue) :
    put (.text user) v (ofNames a) = ofNames (a.put user v) := by
  induction a with
  | nil => rfl
  | cons p rest ih =>
      obtain ⟨other, old⟩ := p
      have hsame : sameUser (.text other) (.text user) = decide (other = user) := rfl
      rcases eq_or_ne other user with rfl | huser
      · simp [ofNames, put, Assoc.put, hsame]
      · simpa [ofNames, put, Assoc.put, hsame, huser] using ih

/-- An option that is found is put in under its user. -/
theorem OptionValues.put_given (a : Assoc OptionValue) (o : OptionRow) :
    (match Statement.optionValueOf? (o.given.get "value") with
      | some v => put (o.given.get "user_id") v (ofNames a)
      | none => ofNames a) = ofNames (a.put o.key.user o.value) := by
  have hvalue : Statement.optionValueOf? (o.given.get "value") = some o.value := by
    cases hv : o.value <;> simp [OptionRow.given, Value.get, Assoc.get?, Value.part, Value.id?,
      hv, OptionValue.value, Statement.optionValueOf?]
  have huser : o.given.get "user_id" = .text o.key.user := rfl
  rw [hvalue, huser]
  exact put_ofNames o.key.user o.value a

/-- Of users of whom there is one option each, all options are found. -/
theorem optionValuesOf_given {l : List OptionRow} (hnodup : (l.map (·.key.user)).Nodup) :
    Store.optionValuesOf (l.map OptionRow.given) =
      .ofNames (l.map fun o => (o.key.user, o.value)) := by
  have hnames : (names ([] ++ l.map fun o => (o.key.user, o.value))).Nodup := by
    unfold names
    rw [List.nil_append, List.map_map]
    exact hnodup
  have hfold := Assoc.foldl_put hnames
  rw [List.foldl_map, List.nil_append] at hfold
  rw [Store.optionValuesOf, List.foldl_map, ← hfold]
  change List.foldl _ (OptionValues.ofNames []) l = _
  exact List.foldl_hom OptionValues.ofNames OptionValues.put_given

/-- The database finds the values of the users that are found in memory. -/
theorem ends_optionValues (h : Serves o session commands) (config : Config)
    (hmirrors : Mirrors contents m.settings m.options) (hapart : m.Apart) {users : List String}
    (husers : ∀ user ∈ users, Storable user) {project key : String}
    (hproject : Storable project) (hkey : Storable key) :
    Ends o session ⟨contents, none⟩ (Store.database.optionValues config users project key)
      fun found there => there = ⟨contents, none⟩ ∧ ∃ values, found = .ofNames values ∧
        values.Perm (m.optionValues users project key) := by
  obtain ⟨hvalues, hnodup⟩ := hapart.optionValues_eq users project key
  cases husersEmpty : users.isEmpty with
  | true =>
      obtain rfl := List.isEmpty_iff.mp husersEmpty
      refine ends_done _ ⟨rfl, [], rfl, ?_⟩
      rw [hvalues]
      simp [MemoryStore.Apart.asked]
  | false =>
      simp only [Store.optionValues, husersEmpty, Bool.false_eq_true, if_false]
      obtain ⟨found, hmeaning, hfound⟩ := hmirrors.options.select
        (asks_optionsFor husers hproject hkey) ["user_id", "value"] none
      refine (ends_query h config (s := .selectOptions users project key) hmeaning).bind ?_
      rintro answer _ ⟨⟨given, hgiven, rfl⟩, rfl⟩
      obtain ⟨l, rfl, hl⟩ := exists_map_of_perm (f := OptionRow.given) (hgiven.trans hfound)
      refine ends_done _ ⟨rfl, l.map fun o => (o.key.user, o.value), ?_, ?_⟩
      · rw [hvalues] at hnodup
        refine optionValuesOf_given ?_
        have hpairs := (hl.map fun o => (o.key.user, o.value)).map Prod.fst
        rw [List.map_map] at hpairs
        exact hpairs.nodup_iff.mpr hnodup
      · rw [hvalues]
        exact hl.map _

/-- The choice in force is the same. -/
theorem result_choiceFor (h : Serves o session commands) (config : Config)
    (hmirrors : Mirrors contents m.settings m.options) (hsound : m.Sound) {s : σ}
    (hs : session s = ⟨contents, none⟩) {w : World} (hw : w.memory.preferences = m)
    {provider : Provider} (hprovider : provider ∈ Provider.all) {topic : Topic}
    (htopic : topic ∈ Topic.all) {c : Coordinates} (hc : c.Storable) :
    ((Store.memory.choiceFor config provider topic c).turn w).1 =
      .ended ((Store.database.choiceFor config provider topic c).execute o s).result := by
  cases hkey : c.key provider topic with
  | error fault =>
      have hkeyOf : keyOf provider topic c = .error (.coordinates fault) := by
        simp only [keyOf, hkey]
      simp only [Store.choiceFor, orRefused, hkeyOf]
      rfl
  | ok k =>
      have hkeyOf : keyOf provider topic c = .ok k := keyOf_eq_ok_iff.mpr hkey
      have hends : Ends o session ⟨contents, none⟩
          (Store.database.choiceFor config provider topic c)
          fun choice _ => choice = (m.choice? k).getD .inherit := by
        simp only [Store.choiceFor, orRefused, hkeyOf]
        refine (ends_choice? h config hmirrors hsound
          (Coordinates.key_storable hc hprovider htopic hkey)).bind ?_
        rintro found _ ⟨rfl, _⟩
        exact ends_done _ rfl
      obtain ⟨_, hresult, rfl⟩ := hends s hs
      rw [hresult, turn_choiceFor config hkey, hw]

/-- The options of users are the same, in whatever order. -/
theorem result_choicesOfUsers (h : Serves o session commands) (config : Config)
    (hmirrors : Mirrors contents m.settings m.options) (hapart : m.Apart) {s : σ}
    (hs : session s = ⟨contents, none⟩) {w : World} (hw : w.memory.preferences = m)
    (provider : Provider) (topic : Topic) {users : List String}
    (husers : ∀ user ∈ users, Storable user) {project : String} (hproject : Storable project) :
    ∃ values found : Assoc OptionValue,
      ((Store.memory.choicesOfUsers config provider topic users project).turn w).1 =
        .ended (.ok (.ofNames values)) ∧
      ((Store.database.choicesOfUsers config provider topic users project).execute o s).result =
        .ok (.ofNames found) ∧
      found.Perm values ∧ (names values).Nodup := by
  cases hkey : topic.optionKeyFor? true with
  | none =>
      simp only [Store.choicesOfUsers, hkey]
      exact ⟨[], [], rfl, rfl, .nil, List.nodup_nil⟩
  | some key =>
      have hstorable := allOptionKeys_storable key (Topic.mem_all_of_optionKeyFor? hkey).2
      have hends : Ends o session ⟨contents, none⟩
          (Store.database.choicesOfUsers config provider topic users project)
          fun found _ => ∃ values, found = .ofNames values ∧
            values.Perm (m.optionValues users project key) := by
        simp only [Store.choicesOfUsers, hkey]
        refine (ends_optionValues h config hmirrors hapart husers hproject hstorable).bind ?_
        rintro found there ⟨_, hfound⟩
        exact (h.perform there rfl).bind fun _ _ _ => ends_done found hfound
      obtain ⟨_, hresult, found, rfl, hperm⟩ := hends s hs
      rw [turn_choicesOfUsers config provider hkey, hw]
      exact ⟨_, found, rfl, hresult, hperm, (hapart.optionValues_eq users project key).2⟩

end LookUps

namespace Change

/-- How calls to preferences in memory stand, made one after the other. -/
def stands (config : Config) : World → List Change → List (Stand Unit)
  | _, [] => []
  | w, ch :: rest => ((ch.program config).turn w).1 :: stands config (ch.world config w) rest

/-- The results of calls to preferences in a database, made one after the other, and the state
that they leave. -/
def executed {σ : Type} (o : Surroundings σ) (config : Config) :
    σ → List Change → List (Except Failure Unit) × σ
  | s, [] => ([], s)
  | s, ch :: rest =>
    let first := (ch.programIn .database config).execute o s
    (first.result :: (executed o config first.state rest).1,
      (executed o config first.state rest).2)

end Change

section Runs

variable {σ : Type} {o : Surroundings σ} {session : σ → Session}

/-- Calls come out alike, and the tables go on to hold the rows. -/
theorem calls_alike (h : Serves o session commands) (config : Config) {contents : Contents} {s : σ}
    (hs : session s = ⟨contents, none⟩) {w : World}
    (hmirrors : Mirrors contents w.memory.preferences.settings w.memory.preferences.options)
    (hsound : w.memory.preferences.Sound) (hrefuses : w.memory.preferences.refuses = none)
    {changes : List Change} (hplain : ∀ ch ∈ changes, ch.Plain)
    (hstorable : ∀ ch ∈ changes, ch.Storable) :
    Change.stands config w changes = (Change.executed o config s changes).1.map .ended ∧
      (Change.worldAfter config w changes).memory.preferences.Sound ∧
      ∃ after, session (Change.executed o config s changes).2 = ⟨after, none⟩ ∧
        Mirrors after (Change.worldAfter config w changes).memory.preferences.settings
          (Change.worldAfter config w changes).memory.preferences.options := by
  induction changes generalizing w s contents with
  | nil => exact ⟨rfl, hsound, contents, hs, hmirrors⟩
  | cons ch rest ih =>
      rw [List.forall_mem_cons] at hplain hstorable
      obtain ⟨hresult, after, hthere, hmirrored⟩ :=
        call_alike h config hmirrors hsound hrefuses hplain.1 hstorable.1 hs
      obtain ⟨hturn, hafter, _⟩ := ch.turn_program config w
      have hworld : (ch.world config w).memory.preferences =
          ch.after w.memory.preferences := hafter
      have hnone : (ch.world config w).memory.preferences.refuses = none := by
        rw [hworld, ch.after_refuses, hrefuses]
      obtain ⟨hstands, hrest⟩ := ih hthere (hworld ▸ hmirrored)
        (hworld ▸ Change.sound_after hsound hplain.1) hnone hplain.2 hstorable.2
      refine ⟨?_, hrest⟩
      rw [Change.stands, hturn, hstands, ← hresult]
      rfl

/-- What a server that keeps preferences in a database has in common with one that keeps them in
memory. -/
structure Agree (o : Surroundings σ) (session : σ → Session) (config : Config) (w : World)
    (s : σ) : Prop where
  /-- The tables hold the same preferences and options, and no transaction is left open. -/
  tables : ∃ contents, session s = ⟨contents, none⟩ ∧
    Mirrors contents w.memory.preferences.settings w.memory.preferences.options
  /-- The choice in force is the same for all coordinates. -/
  choices : ∀ provider ∈ Provider.all, ∀ topic ∈ Topic.all, ∀ c : Coordinates, c.Storable →
    ((Store.memory.choiceFor config provider topic c).turn w).1 =
      .ended ((Store.database.choiceFor config provider topic c).execute o s).result
  /-- The same users have the same options, one each, in whatever order. -/
  options : ∀ provider topic users project, (∀ user ∈ users, Storable user) → Storable project →
    ∃ values found : Assoc OptionValue,
      ((Store.memory.choicesOfUsers config provider topic users project).turn w).1 =
        .ended (.ok (.ofNames values)) ∧
      ((Store.database.choicesOfUsers config provider topic users project).execute o s).result =
        .ok (.ofNames found) ∧
      found.Perm values ∧ (names values).Nodup

/-- Whatever calls are made of two stores without rows, one in memory and one in a database: each
call comes out in one as in the other, and the two stores agree afterwards. -/
theorem stores_agree (h : Serves o session commands) (config : Config) (w : World)
    (hempty : w.memory.preferences = .empty) (s : σ) (contents : Contents)
    (hs : session s = ⟨contents, none⟩) (hsettings : contents settingTable.name = [])
    (hoptions : contents optionTable.name = []) (changes : List Change)
    (hplain : ∀ ch ∈ changes, ch.Plain) (hstorable : ∀ ch ∈ changes, ch.Storable) :
    Change.stands config w changes = (Change.executed o config s changes).1.map .ended ∧
      Agree o session config (Change.worldAfter config w changes)
        (Change.executed o config s changes).2 := by
  have hmirrors : Mirrors contents w.memory.preferences.settings
      w.memory.preferences.options := by
    rw [hempty]
    exact ⟨hsettings ▸ .nil, hoptions ▸ .nil⟩
  have hsound : w.memory.preferences.Sound :=
    MemoryStore.sound_of_nil (by rw [hempty]; rfl) (by rw [hempty]; rfl)
  have hstart : w.memory.preferences.Recorded [] :=
    .nil (by rw [hempty]; rfl) (by rw [hempty]; rfl)
  have hrecorded := @MemoryStore.Recorded.worldAfter [] config w hstart changes
  obtain ⟨hstands, hsound', after, hthere, hmirrored⟩ :=
    calls_alike h config hs hmirrors hsound (by rw [hempty]; rfl) hplain hstorable
  refine ⟨hstands, ⟨after, hthere, hmirrored⟩, ?_, ?_⟩
  · intro provider hprovider topic htopic c hc
    exact result_choiceFor h config hmirrored hsound' hthere rfl hprovider htopic hc
  · intro provider topic users project husers hproject
    exact result_choicesOfUsers h config hmirrored hrecorded.apart hthere rfl provider topic
      husers hproject

end Runs

/-- Where a database stands without rows and without a transaction. -/
def blankSession : Session :=
  ⟨fun _ => [], none⟩

/-- Calls of every kind: two about one option, one without a project, and two that are refused. -/
def crowdedCalls : List Change :=
  [.set .email .issueAlerts .always ⟨some "u1", none, some "p1", none⟩,
    .set .slack .issueAlerts .never ⟨some "u1", none, some "p1", none⟩,
    .set .slack .workflow .subscribeOnly ⟨some "u1", none, none, some "o1"⟩,
    .set .slack .deploy .subscribeOnly ⟨none, some "t1", none, some "o1"⟩,
    .remove .email .deploy ⟨some "u1", some "t1", none, none⟩,
    .erase "u1" (.one .workflow)]

theorem stores_agree_crowdedCalls :
    Change.stands Config.blank World.fresh crowdedCalls =
        (Change.executed (serving commands) Config.blank (.empty, blankSession)
          crowdedCalls).1.map .ended ∧
      Agree (serving commands) Prod.snd Config.blank
        (Change.worldAfter Config.blank World.fresh crowdedCalls)
        (Change.executed (serving commands) Config.blank (.empty, blankSession)
          crowdedCalls).2 := by
  have hserves : Serves (serving commands) Prod.snd commands :=
    serving_serves (by decide +kernel) (by decide +kernel)
  have hplain : ∀ ch ∈ crowdedCalls, ch.Plain := by decide +kernel
  have hstorable : ∀ ch ∈ crowdedCalls, ch.Storable := by decide +kernel
  exact stores_agree hserves Config.blank World.fresh rfl (.empty, blankSession) _ rfl rfl rfl
    crowdedCalls hplain hstorable

/-- The tables are left with two preferences, of two providers, and with their one option. -/
example :
    let left := (Change.executed (serving commands) Config.blank (.empty, blankSession)
      crowdedCalls).2.2.committed
    (left "notification_setting").length = 2 ∧ (left "user_option").length = 1 := by
  decide +kernel

end AlertRelay.Preference
