import AlertRelay.Proofs.Preference.Commands
import AlertRelay.Proofs.Preference.Counterparts

/-!
Calls carried out in a database.

A call comes down to a deed, and the statements of its writes are one transaction.  They do to the
two tables what the deed does to the rows in memory (`Mirrors.deed`); so a call comes out as it
does in memory, and the tables go on to hold the rows of the store (`call_alike`).
-/

namespace AlertRelay.Preference

open Assoc (Keyed rows names)
open Database

/-- Coordinates whose identities can all be stored. -/
def Coordinates.Storable (c : Coordinates) : Prop :=
  ∀ id ∈ c.ids, Database.Storable id

instance (c : Coordinates) : Decidable c.Storable :=
  inferInstanceAs (Decidable (∀ id ∈ c.ids, Database.Storable id))

instance : DecidablePred Topics.Known
  | .every => inferInstanceAs (Decidable True)
  | .one topic => inferInstanceAs (Decidable (topic ∈ Topic.all))
  | .none => inferInstanceAs (Decidable True)

/-- A call whose identities and topics can be stored. -/
def Change.Storable : Change → Prop
  | .set _ _ _ c => c.Storable
  | .remove _ _ c => c.Storable
  | .erase user topics => Database.Storable user ∧ topics.Known

instance : DecidablePred Change.Storable
  | .set _ _ _ c => inferInstanceAs (Decidable c.Storable)
  | .remove _ _ c => inferInstanceAs (Decidable c.Storable)
  | .erase .. => inferInstanceAs (Decidable (_ ∧ _))

/-- A deed whose identities and topics can be stored. -/
def Deed.Storable : Deed → Prop
  | .put key _ => key.Storable
  | .drop key => key.Storable
  | .erase user topics => Database.Storable user ∧ topics.Known

theorem Coordinates.key_storable {c : Coordinates} (hc : c.Storable) {provider : Provider}
    {topic : Topic} (hprovider : provider ∈ Provider.all) (htopic : topic ∈ Topic.all)
    {k : Key} (h : c.key provider topic = .ok k) : k.Storable := by
  obtain ⟨user, team, project, organization⟩ := c
  cases user <;> cases team <;> cases project <;> cases organization <;>
    simp only [key, target, scope, reduceCtorEq, Except.ok.injEq] at h <;> subst h <;>
    refine ⟨hprovider, htopic, hc _ ?_, hc _ ?_⟩ <;> simp [ids]

theorem Change.deed_storable {ch : Change} (hch : ch.Plain) (hstorable : ch.Storable) {d : Deed}
    (h : ch.deed = .ok d) : d.Storable := by
  rcases deed_cases h with ⟨provider, topic, choice, c, k, rfl, hkey, _, rfl⟩ |
      ⟨provider, topic, c, k, rfl | rfl, hkey, rfl⟩ | ⟨user, topics, rfl, rfl⟩
  · exact Coordinates.key_storable hstorable hch.1 hch.2.1 hkey
  · exact Coordinates.key_storable hstorable hch.1 hch.2.1 hkey
  · exact Coordinates.key_storable hstorable hch.1 hch.2.1 hkey
  · exact hstorable

theorem allOptionKeys_storable : ∀ key ∈ allOptionKeys, Storable key := by
  decide

theorem Topics.optionKeys_storable (topics : Topics) : ∀ key ∈ topics.optionKeys, Storable key := by
  intro key hkey
  cases topics with
  | every => exact allOptionKeys_storable key hkey
  | none => exact absurd hkey List.not_mem_nil
  | one topic =>
      obtain ⟨inProject, hname⟩ := Topic.mem_optionKeys_iff.mp hkey
      exact allOptionKeys_storable key (Topic.mem_all_of_optionKeyFor? hname).2

/-- The option of a plain preference has no identities but those of the preference. -/
theorem Key.optionKey?_storable {k : Key} (hk : k.Plain) (hstorable : k.Storable) {o : OptionKey}
    (h : k.optionKey? = some o) : o.Storable := by
  obtain ⟨htarget, htopic, hscope⟩ := of_optionKey?_eq_some hk.own h
  obtain ⟨hplain, hapart⟩ := optionKey?_plain hk h
  refine ⟨?_, ?_, ?_, allOptionKeys_storable _ hplain.key⟩
  · have huser := hstorable.target
    rwa [htarget] at huser
  · intro id hproject
    have hid := hstorable.scope
    rwa [hscope, OptionKey.scope, hproject] at hid
  · intro id horganization
    have hproject : o.project = none := by
      cases hsome : o.project with
      | none => rfl
      | some p => exact absurd (hapart (hsome ▸ rfl)) (by simp [horganization])
    have hid := hstorable.scope
    rwa [hscope, OptionKey.scope, hproject, horganization] at hid

/-- The texts that stand for choices. -/
def optionTexts : List String :=
  ["0", "1", "2", "3", "4"]

theorem Topic.optionText?_mem {t : Topic} {choice : Choice} {s : String}
    (h : t.optionText? choice = some s) : s ∈ optionTexts := by
  unfold optionText? at h
  split_ifs at h <;> cases h <;> decide

/-- A choice that can be made is one that there is. -/
theorem Choice.mem_all_of_allows {t : Topic} {choice : Choice}
    (h : t.allows choice = true) : choice ∈ all := by
  unfold Topic.allows Topic.optionText? at h
  split_ifs at h <;> first | (subst choice; decide +kernel) | cases h

theorem OptionValue.storable_text : ∀ s ∈ optionTexts, (OptionValue.text s).Storable := by
  simp only [optionTexts, List.forall_mem_cons]
  exact ⟨rfl, rfl, rfl, rfl, rfl, by simp⟩

theorem OptionValue.storable_number (s : String) : (number (optionNumber s)).Storable := by
  have hread : ∀ n ∈ [(1 : Double), 0],
      (Value.ofJson? (Value.number n).json).bind Value.number? = some n := by
    decide +kernel
  have hn : optionNumber s ∈ [(1 : Double), 0] := by
    unfold optionNumber
    split <;> simp
  obtain ⟨v, hv, hnumber⟩ := Option.bind_eq_some_iff.mp (hread _ hn)
  have hvalue : v = .number (optionNumber s) := by
    cases v with
    | number n => exact congrArg Value.number (Option.some.inj hnumber)
    | _ => cases hnumber
  have hdocument : (Value.ofJson? (Value.number (optionNumber s)).json).bind Cell.ofDocument? =
      some (.document (.number (optionNumber s))) := by
    rw [hv, hvalue]
    rfl
  exact hdocument

/-- Whatever stands for a choice comes back from the database as it was. -/
theorem SettingRow.option?_storable {row : SettingRow} {o : OptionRow}
    (h : row.option? = some o) : o.value.Storable := by
  obtain ⟨name, hoption, _⟩ := option?_eq_some_iff.mp h
  unfold Topic.option? at hoption
  split at hoption
  · rename_i key s _ hs
    have hvalue := (Prod.ext_iff.mp (Option.some.inj hoption)).2
    simp only at hvalue
    rw [← hvalue]
    split
    · exact OptionValue.storable_number s
    · exact OptionValue.storable_text s (Topic.optionText?_mem hs)
  · cases hoption

namespace Mirrors

variable {contents : Contents} {a : Assoc SettingRow} {b : Assoc OptionRow}

/-- An option is replaced by deleting and inserting it. -/
theorem putOption (h : Mirrors contents a b)
    (hb : Keyed (fun row : OptionRow => row.key.rowName) b)
    (hplain : ∀ row ∈ rows b, row.key.Plain) {o : OptionRow} (ho : o.key.Plain)
    (hstorable : o.key.Storable) (hvalue : o.value.Storable) :
    ∃ after, Statement.after? (Write.putOption o.key o.value).statements contents = some after ∧
      Mirrors after a (b.put o.key.rowName o) := by
  obtain ⟨m, hm, hdeleted⟩ := h.deleteOption hb hplain ho hstorable
  have hname : o.key.rowName ∉ names (b.drop o.key.rowName) := by
    simp [names, Assoc.drop]
  obtain ⟨m', hm', hinserted⟩ := hdeleted.insertOption (hb.drop _) hname hstorable hvalue
  refine ⟨m'.after, ?_, hinserted.settings, ?_⟩
  · rw [Write.statements, Statement.after?_cons hm, Statement.after?_cons hm', Statement.after?]
  · exact hinserted.options.trans ((hb.rows_put_drop_perm o).map _)

/-- Without keys there is nothing to take away. -/
theorem dropOptionsOf (h : Mirrors contents a b) {user : String} (huser : Storable user)
    {keys : List String} (hkeys : ∀ key ∈ keys, Storable key) :
    ∃ after, Statement.after? (Write.dropOptionsOf user keys).statements contents = some after ∧
      Mirrors after a
        (b.filter fun (_, row) => !(row.key.user == user && keys.contains row.key.key)) := by
  cases keys with
  | nil =>
      refine ⟨contents, rfl, ?_⟩
      simpa only [List.contains_nil, Bool.and_false, Bool.not_false, List.filter_true] using h
  | cons key keys =>
      obtain ⟨m, hm, hdeleted⟩ := h.deleteOptionsOf huser hkeys
      exact ⟨m.after, Statement.after?_cons hm, hdeleted⟩

/-- The statements of a deed do to the tables what the deed does to the rows in memory. -/
theorem deed {s : MemoryStore} (h : Mirrors contents s.settings s.options) (hs : s.Sound)
    {d : Deed} (hd : d.Plain) (hstorable : d.Storable) :
    ∃ after, Statement.after? (d.writes.flatMap Write.statements) contents = some after ∧
      Mirrors after (d.settings s.settings) (d.options s.options) := by
  cases d with
  | put key choice =>
      obtain ⟨m, hm, hput⟩ := h.upsertSetting hs.settings hs.plain ⟨key, choice⟩ hd.1
        hstorable (Choice.mem_all_of_allows hd.2)
      simp only [Deed.writes, Deed.settings, Deed.options, List.flatMap_cons, Write.statements,
        List.singleton_append, Statement.after?_cons hm]
      cases hoption : SettingRow.option? ⟨key, choice⟩ with
      | none => exact ⟨m.after, rfl, hput⟩
      | some o =>
          have hkey := SettingRow.optionKey?_of_option? hd.2 hoption
          have hplain := (Key.optionKey?_plain hd.1 hkey).1
          have hkept := Key.optionKey?_storable hd.1 hstorable hkey
          simpa [Write.statements] using hput.putOption hs.options hs.plainOptions hplain hkept
            (SettingRow.option?_storable hoption)
  | drop key =>
      obtain ⟨m, hm, hdropped⟩ := h.deleteSetting hs.settings hs.plain hd hstorable
      simp only [Deed.writes, Deed.settings, Deed.options, List.flatMap_cons, Write.statements,
        List.singleton_append, Statement.after?_cons hm]
      cases hoption : key.optionKey? with
      | none => exact ⟨m.after, rfl, hdropped⟩
      | some o =>
          obtain ⟨m', hm', hdeleted⟩ := hdropped.deleteOption hs.options hs.plainOptions
            (Key.optionKey?_plain hd hoption).1 (Key.optionKey?_storable hd hstorable hoption)
          exact ⟨m'.after, Statement.after?_cons hm', hdeleted⟩
  | erase user topics =>
      obtain ⟨huser, hknown⟩ := hstorable
      obtain ⟨between, hbetween, hoptions⟩ :=
        h.dropOptionsOf huser topics.optionKeys_storable
      obtain ⟨m, hm, hsettings⟩ := hoptions.deleteSettingsOf ⟨.user, user⟩ huser hknown
      refine ⟨m.after, ?_, hsettings⟩
      simp only [Deed.writes, erasure, List.flatMap_cons, List.flatMap_nil, List.append_nil]
      rw [Statement.after?_append hbetween]
      exact Statement.after?_cons hm

end Mirrors

section Calls

variable {σ : Type} {o : Surroundings σ} {session : σ → Session}

/-- A statement outside of transactions. -/
theorem ends_query (h : Serves o session commands) (config : Config) {s : Statement}
    {contents : Contents} {m : Meaning} (hm : s.meaning? contents = some m) :
    Ends o session ⟨contents, none⟩ (Database.query config s.query)
      fun answer there => m.Gives answer ∧ there = ⟨m.after, none⟩ := by
  rw [s.query_eq]
  exact h.query config s.command_mem hm

/-- Statements that go well on the connection of a transaction. -/
theorem ends_runStatements (h : Serves o session commands) {statements : List Statement}
    {contents working after : Contents}
    (hafter : Statement.after? statements working = some after) :
    Ends o session ⟨contents, some working⟩ (Store.runStatements statements)
      fun _ there => there = ⟨contents, some after⟩ := by
  induction statements generalizing working with
  | nil =>
      cases hafter
      exact ends_done () rfl
  | cons s rest ih =>
      obtain ⟨m, hm, hrest⟩ := Option.bind_eq_some_iff.mp hafter
      have hfirst : Ends o session ⟨contents, some working⟩ (discard (clientQuery s.query))
          fun _ there => there = ⟨contents, some m.after⟩ := by
        rw [s.query_eq]
        exact (h.clientQuery s.command_mem hm).bind fun _ _ hthere => ends_done () hthere.2
      refine hfirst.bind ?_
      rintro _ _ rfl
      exact ih hrest

/-- The writes of a deed, as one transaction. -/
theorem ends_transact (h : Serves o session commands) (config : Config) {contents : Contents}
    {m : MemoryStore} (hmirrors : Mirrors contents m.settings m.options) (hsound : m.Sound)
    {d : Deed} (hd : d.Plain) (hstorable : d.Storable) :
    Ends o session ⟨contents, none⟩ (Store.database.transact config d.writes (.ok ()))
      fun _ there => ∃ after, there = ⟨after, none⟩ ∧
        Mirrors after (d.settings m.settings) (d.options m.options) := by
  obtain ⟨after, hafter, hdone⟩ := hmirrors.deed hsound hd hstorable
  refine h.transaction config ?_
  refine (ends_runStatements h hafter).bind ?_
  rintro _ _ rfl
  exact ends_done () ⟨after, rfl, hdone⟩

/-- A call comes out in the database as it does in memory, and the tables go on to hold the
rows. -/
theorem call_alike (h : Serves o session commands) (config : Config) {contents : Contents}
    {m : MemoryStore} (hmirrors : Mirrors contents m.settings m.options) (hsound : m.Sound)
    (hrefuses : m.refuses = none) {ch : Change} (hplain : ch.Plain) (hstorable : ch.Storable)
    {s : σ} (hs : session s = ⟨contents, none⟩) :
    ((ch.programIn .database config).execute o s).result = ch.result m ∧
      ∃ after, session ((ch.programIn .database config).execute o s).state = ⟨after, none⟩ ∧
        Mirrors after (ch.after m).settings (ch.after m).options := by
  rcases ch.after_cases m with ⟨d, hdeed, hresult, hafter⟩ | ⟨refusal, hdeed, hresult, hafter⟩ |
    ⟨name, hname, _⟩
  · obtain ⟨next, hprogram, hnext⟩ := Change.programIn_accepted .database config hdeed
    have hends : Ends o session ⟨contents, none⟩ (ch.programIn .database config)
        fun _ there => ∃ after, there = ⟨after, none⟩ ∧
          Mirrors after (d.settings m.settings) (d.options m.options) := by
      rw [hprogram]
      refine (ends_transact h config hmirrors hsound (Change.deed_plain hplain hdeed)
        (Change.deed_storable hplain hstorable hdeed)).bind ?_
      rintro ⟨⟩ there hthere
      rcases hnext with rfl | ⟨message, fields, rfl⟩
      · exact ends_done () hthere
      · intro s' hs'
        obtain ⟨_, hlogged, hsame⟩ := h.perform there (e := .log .debug message _) rfl s' hs'
        exact ⟨(), hlogged, hsame ▸ hthere⟩
    obtain ⟨_, hok, hthere⟩ := hends s hs
    rw [hok, hresult, hafter]
    exact ⟨rfl, hthere⟩
  · rw [Change.programIn_refused .database config hdeed, hresult, hafter]
    exact ⟨rfl, contents, hs, hmirrors⟩
  · -- A store that refuses no write is not in the third case.
    rw [hrefuses] at hname
    cases hname

end Calls

end AlertRelay.Preference
