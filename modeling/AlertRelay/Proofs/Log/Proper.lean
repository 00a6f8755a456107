import AlertRelay.Proofs.Log.Shown

/-!
Values as they come from outside, and what is made of them.

A value is proper (`Value.isProper`) if its finite numbers are such as binary64 can hold, no record
or error in it names a field twice, and the message and the stack of an error are texts.  Other
values are spelt by this library's types, but stand for nothing, and of an error without such texts
no record is written.  Main statement: what is made of proper values for the log can be read back
(`Sanitized.areProper_ofValues`), for a name that is given again keeps its place in a record, and
the entries of an error have different names.
-/

namespace AlertRelay

namespace Value

/-- Whether the message and the stack of an error with those fields are texts, if it lists them. -/
def hasTexts (fields : List (String × Value)) : Bool :=
  ["message", "stack"].all fun name =>
    (Assoc.get? name fields).all fun v => v.text?.isSome

mutual

/-- Whether the finite numbers in a value are such as binary64 can hold, no record or error names a
field twice, and the message and the stack of an error are texts. -/
def isProper : Value → Bool
  | .number n => !n.isFinite || n.isExact
  | .list _ items => areProper items
  | .record _ fields => decide (Assoc.names fields).Nodup && areProperFields fields
  | .error _ _ fields =>
    decide (Assoc.names fields).Nodup && hasTexts fields && areProperFields fields
  | _ => true

def areProper : List Value → Bool
  | [] => true
  | v :: rest => v.isProper && areProper rest

def areProperFields : List (String × Value) → Bool
  | [] => true
  | (_, v) :: rest => v.isProper && areProperFields rest

end

variable {fields : List (String × Value)}

theorem areProper_cons {v : Value} {rest : List Value} :
    areProper (v :: rest) = true ↔ v.isProper = true ∧ areProper rest = true := by
  rw [areProper, Bool.and_eq_true]

theorem areProperFields_cons {k : String} {v : Value} :
    areProperFields ((k, v) :: fields) = true ↔
      v.isProper = true ∧ areProperFields fields = true := by
  rw [areProperFields, Bool.and_eq_true]

theorem isProper_record {id : Option Nat} : (record id fields).isProper = true ↔
    (Assoc.names fields).Nodup ∧ areProperFields fields = true := by
  rw [isProper, Bool.and_eq_true, decide_eq_true_eq]

theorem isProper_error {id : Option Nat} {kind : ErrorClass} :
    (error id kind fields).isProper = true ↔
      (Assoc.names fields).Nodup ∧ hasTexts fields = true ∧ areProperFields fields = true := by
  rw [isProper, Bool.and_eq_true, Bool.and_eq_true, decide_eq_true_eq, and_assoc]

theorem isProper_of_mem (h : areProperFields fields = true) {f : String × Value}
    (hf : f ∈ fields) : f.2.isProper = true := by
  induction fields with
  | nil => cases hf
  | cons g rest ih =>
      obtain ⟨hg, hrest⟩ := areProperFields_cons.mp h
      rcases List.mem_cons.mp hf with rfl | hf
      · exact hg
      · exact ih hrest hf

theorem isProper_of_get? (h : areProperFields fields = true) {k : String} {v : Value}
    (hv : Assoc.get? k fields = some v) : v.isProper = true :=
  isProper_of_mem h (Assoc.mem_of_get? hv)

end Value

namespace Log.Sanitized

open Value (isProper_error isProper_record isProper_of_get? areProper_cons areProperFields_cons)

theorem isProper_plain (s : String) : (plain s).IsProper :=
  trivial

section Fields

variable {fields entries : List (String × Sanitized)}

theorem areProperFields_iff : AreProperFields fields ↔ ∀ f ∈ fields, f.2.IsProper := by
  induction fields with
  | nil => exact iff_of_true trivial (by rintro f ⟨⟩)
  | cons f rest ih => rw [AreProperFields, ih, List.forall_mem_cons]

theorem AreProperFields.append (hfields : AreProperFields fields)
    (hentries : AreProperFields entries) : AreProperFields (fields ++ entries) := by
  rw [areProperFields_iff] at hfields hentries ⊢
  intro f hf
  exact (List.mem_append.mp hf).elim (hfields f) (hentries f)

theorem AreProperFields.put {k : String} {v : Sanitized} (hv : v.IsProper)
    (h : AreProperFields fields) : AreProperFields (Assoc.put k v fields) := by
  rw [areProperFields_iff] at h ⊢
  intro f hf
  rcases Assoc.eq_or_mem_of_mem_put hf with rfl | hf
  · exact hv
  · exact h f hf

/-- A name that is given again keeps its place. -/
theorem isProper_ofEntries (inherited : List String) (hnames : (Assoc.names fields).Nodup)
    (hfields : AreProperFields fields) (hentries : AreProperFields entries) :
    (ofEntries inherited fields entries).IsProper := by
  induction entries generalizing inherited fields with
  | nil => exact ⟨hnames, hfields⟩
  | cons e rest ih =>
      obtain ⟨k, v⟩ := e
      obtain ⟨hv, hrest⟩ := hentries
      rw [ofEntries]
      split
      · exact ih (namesOf v) hnames hfields hrest
      · exact ih inherited (Assoc.names_put_nodup k v hnames) (hfields.put hv) hrest

end Fields

section Raw

theorem names_ofRawFields (fields : List (String × Value)) :
    Assoc.names (ofRawFields fields) = Assoc.names fields := by
  induction fields with
  | nil => rfl
  | cons f rest ih => rw [ofRawFields, Assoc.names_cons, Assoc.names_cons, ih]

/-- The parts that an error lists are some of its fields. -/
theorem names_ofRawErrorFields (kind : ErrorClass) (fields : List (String × Value)) :
    (Assoc.names (ofRawErrorFields kind fields)).Sublist (Assoc.names fields) := by
  induction fields with
  | nil => exact List.Sublist.slnil
  | cons f rest ih =>
      rw [ofRawErrorFields]
      split
      · exact ih.cons_cons f.1
      · exact ih.cons f.1

mutual

theorem isProper_ofRaw (v : Value) (hv : v.isProper = true) : (ofRaw v).IsProper := by
  match v with
  | .number n =>
      intro hfinite
      rw [Value.isProper, hfinite, Bool.not_true, Bool.false_or] at hv
      exact hv
  | .list _ items => exact areProper_ofRawItems items hv
  | .record _ fields =>
      obtain ⟨hnames, hfields⟩ := isProper_record.mp hv
      refine ⟨?_, areProperFields_ofRawFields fields hfields⟩
      rw [names_ofRawFields]
      exact hnames
  | .error _ kind fields =>
      obtain ⟨hnames, -, hfields⟩ := isProper_error.mp hv
      exact ⟨hnames.sublist (names_ofRawErrorFields kind fields),
        areProperFields_ofRawErrorFields kind fields hfields⟩
  | .undefined | .null | .bool _ | .text _ | .date (some _) | .date none => trivial
  | .bigint _ | .again _ => exact ⟨List.nodup_nil, trivial⟩

theorem areProper_ofRawItems (items : List Value) (h : Value.areProper items = true) :
    AreProper (ofRawItems items) := by
  match items with
  | [] => trivial
  | v :: rest =>
      obtain ⟨hv, hrest⟩ := areProper_cons.mp h
      exact ⟨isProper_ofRaw v hv, areProper_ofRawItems rest hrest⟩

theorem areProperFields_ofRawFields (fields : List (String × Value))
    (h : Value.areProperFields fields = true) : AreProperFields (ofRawFields fields) := by
  match fields with
  | [] => trivial
  | (k, v) :: rest =>
      obtain ⟨hv, hrest⟩ := areProperFields_cons.mp h
      exact ⟨isProper_ofRaw v hv, areProperFields_ofRawFields rest hrest⟩

theorem areProperFields_ofRawErrorFields (kind : ErrorClass) (fields : List (String × Value))
    (h : Value.areProperFields fields = true) :
    AreProperFields (ofRawErrorFields kind fields) := by
  match fields with
  | [] => trivial
  | (k, v) :: rest =>
      obtain ⟨hv, hrest⟩ := areProperFields_cons.mp h
      have hmore := areProperFields_ofRawErrorFields kind rest hrest
      rw [ofRawErrorFields]
      split
      · exact ⟨isProper_ofRaw v hv, hmore⟩
      · exact hmore

end

end Raw

section Errors

theorem isProper_messageOf {v : Value} (hv : v.isProper = true) : (messageOf v).IsProper := by
  unfold messageOf
  split
  · exact LogText.isProper_ofText _
  · trivial
  · exact isProper_ofRaw v hv

/-- The names of the entries of an error before its cause, in their order. -/
def errorNames : List String := ["name", "message", "code", "stack"]

theorem names_errorEntries (kind : ErrorClass) (fields : List (String × Value)) :
    (Assoc.names (errorEntries kind fields)).Sublist errorNames := by
  have hgroups : errorNames = ["name", "message"] ++ ["code"] ++ ["stack"] := rfl
  unfold errorEntries
  dsimp only
  rw [hgroups, Assoc.names, List.map_append, List.map_append]
  apply List.Sublist.append
  · apply List.Sublist.append
    · exact List.Sublist.refl _
    · split
      · exact List.Sublist.refl _
      · exact List.nil_sublist _
  · split
    · split
      · exact List.Sublist.refl _
      · exact List.nil_sublist _
    · exact List.nil_sublist _

theorem areProperFields_errorEntries (kind : ErrorClass) {fields : List (String × Value)}
    (h : Value.areProperFields fields = true) : AreProperFields (errorEntries kind fields) := by
  have hname : ((Assoc.get? "name" fields).elim (plain kind.name) ofRaw).IsProper := by
    cases hget : Assoc.get? "name" fields with
    | none => exact isProper_plain kind.name
    | some v => exact isProper_ofRaw v (isProper_of_get? h hget)
  have hmessage : ((Assoc.get? "message" fields).elim (plain "") messageOf).IsProper := by
    cases hget : Assoc.get? "message" fields with
    | none => exact isProper_plain ""
    | some v => exact isProper_messageOf (isProper_of_get? h hget)
  unfold errorEntries
  dsimp only
  apply AreProperFields.append
  · apply AreProperFields.append
    · exact ⟨hname, hmessage, trivial⟩
    · split
      · exact ⟨isProper_plain _, trivial⟩
      · trivial
  · split
    · next hget =>
        split
        · exact ⟨isProper_messageOf (isProper_of_get? h hget), trivial⟩
        · trivial
    · trivial

/-- The cause comes last, under a name of its own. -/
theorem isProper_errorEntries_cause (kind : ErrorClass) {fields : List (String × Value)}
    (h : Value.areProperFields fields = true) {cause : Sanitized} (hcause : cause.IsProper) :
    (record [] (errorEntries kind fields ++ [("cause", cause)])).IsProper := by
  have hnames : (Assoc.names (errorEntries kind fields ++ [("cause", cause)])).Sublist
      (errorNames ++ ["cause"]) := by
    rw [Assoc.names, List.map_append]
    exact (names_errorEntries kind fields).append (List.Sublist.refl _)
  have hdistinct : (errorNames ++ ["cause"]).Nodup := by decide
  exact ⟨hdistinct.sublist hnames,
    (areProperFields_errorEntries kind h).append ⟨hcause, trivial⟩⟩

theorem isProper_errorEntries (kind : ErrorClass) {fields : List (String × Value)}
    (h : Value.areProperFields fields = true) :
    (record [] (errorEntries kind fields)).IsProper := by
  have hdistinct : errorNames.Nodup := by decide
  exact ⟨hdistinct.sublist (names_errorEntries kind fields),
    areProperFields_errorEntries kind h⟩

end Errors

/-- The errors that enclose the present value are proper. -/
def Met.IsProper (met : Met) : Prop :=
  ∀ e ∈ met.enclosing, e.2.isProper = true

/-- A reader of causes that makes proper values of proper values. -/
def CauseReader.Keeps (follow : CauseReader) : Prop :=
  ∀ (depth : Nat) {met : Met} {v : Value}, met.IsProper → v.isProper = true →
    (follow depth met v).1.IsProper ∧ (follow depth met v).2.IsProper

namespace Met.IsProper

variable {met : Met}

theorem write (h : met.IsProper) (id : Option Nat) : (met.write id).IsProper := by
  cases id with
  | none => exact h
  | some n => exact h

theorem of_error? (h : met.IsProper) {n : Nat} {v : Value} (hv : met.error? n = some v) :
    v.isProper = true := by
  obtain ⟨e, he, rfl⟩ := Option.map_eq_some_iff.mp hv
  exact h e (List.mem_of_find?_eq_some he)

end Met.IsProper

theorem ofError_keeps {follow : CauseReader} (hfollow : follow.Keeps) (depth : Nat) {met : Met}
    (hmet : met.IsProper) (id : Option Nat) (kind : ErrorClass) {fields : List (String × Value)}
    (h : (Value.error id kind fields).isProper = true) :
    (ofError follow depth met id kind fields).1.IsProper ∧
      (ofError follow depth met id kind fields).2.IsProper := by
  obtain ⟨-, -, hfields⟩ := isProper_error.mp h
  unfold ofError
  dsimp only
  split
  · exact ⟨isProper_errorEntries kind hfields, hmet⟩
  · exact ⟨isProper_errorEntries kind hfields, hmet⟩
  · next cause _ hcause =>
      split
      · exact ⟨isProper_errorEntries_cause kind hfields (isProper_plain _), hmet⟩
      · have hproper : cause.isProper = true := isProper_of_get? hfields hcause
        refine ⟨isProper_errorEntries_cause kind hfields (hfollow (depth + 1) ?_ hproper).1, hmet⟩
        -- An error with a place of its own may be met again inside its cause.
        cases id with
        | none => exact hmet
        | some n => exact List.forall_mem_cons.mpr ⟨h, hmet⟩

mutual

/-- What is made of a proper value can be read back. -/
theorem ofValueWith_keeps {follow : CauseReader} (hfollow : follow.Keeps) (depth : Nat)
    {met : Met} (hmet : met.IsProper) (v : Value) (hv : v.isProper = true) :
    (ofValueWith follow depth met v).1.IsProper ∧
      (ofValueWith follow depth met v).2.IsProper := by
  match v with
  | .undefined | .null | .bool _ | .bigint _ => exact ⟨trivial, hmet⟩
  | .number n => exact ⟨isProper_ofRaw (.number n) hv, hmet⟩
  | .text s => exact ⟨LogText.isProper_ofText s, hmet⟩
  | .date _ => exact ⟨⟨List.nodup_nil, trivial⟩, hmet⟩
  | .list id items =>
      rw [ofValueWith]
      split
      · exact ⟨isProper_plain _, hmet⟩
      · exact ofItemsWith_keeps hfollow (depth + 1) (hmet.write id) maxEntries items hv
  | .record id fields =>
      rw [ofValueWith]
      split
      · exact ⟨isProper_plain _, hmet⟩
      · obtain ⟨-, hfields⟩ := isProper_record.mp hv
        obtain ⟨hsafe, hafter⟩ :=
          ofFieldsWith_keeps hfollow (depth + 1) (hmet.write id) fields.length maxEntries fields
            hfields
        exact ⟨isProper_ofEntries [] List.nodup_nil trivial hsafe, hafter⟩
  | .error id kind fields => exact ofError_keeps hfollow depth hmet id kind hv
  | .again n =>
      rw [ofValueWith]
      split
      · next herror => exact ofError_keeps hfollow depth hmet _ _ (hmet.of_error? herror)
      · exact ⟨isProper_plain _, hmet⟩

theorem ofItemsWith_keeps {follow : CauseReader} (hfollow : follow.Keeps) (depth : Nat)
    {met : Met} (hmet : met.IsProper) (left : Nat) (items : List Value)
    (h : Value.areProper items = true) :
    AreProper (ofItemsWith follow depth met left items).1 ∧
      (ofItemsWith follow depth met left items).2.IsProper := by
  match items, left with
  | [], _ => exact ⟨trivial, hmet⟩
  | _ :: _, 0 => exact ⟨trivial, hmet⟩
  | v :: rest, left + 1 =>
      obtain ⟨hv, hrest⟩ := areProper_cons.mp h
      obtain ⟨hfirst, hnext⟩ := ofValueWith_keeps hfollow depth hmet v hv
      obtain ⟨hmore, hafter⟩ := ofItemsWith_keeps hfollow depth hnext left rest hrest
      exact ⟨⟨hfirst, hmore⟩, hafter⟩

theorem ofFieldsWith_keeps {follow : CauseReader} (hfollow : follow.Keeps) (depth : Nat)
    {met : Met} (hmet : met.IsProper) (total left : Nat) (fields : List (String × Value))
    (h : Value.areProperFields fields = true) :
    AreProperFields (ofFieldsWith follow depth met total left fields).1 ∧
      (ofFieldsWith follow depth met total left fields).2.IsProper := by
  match fields, left with
  | [], _ => exact ⟨trivial, hmet⟩
  | _ :: _, 0 => exact ⟨⟨isProper_plain _, trivial⟩, hmet⟩
  | (k, v) :: rest, left + 1 =>
      obtain ⟨hv, hrest⟩ := areProperFields_cons.mp h
      rw [ofFieldsWith]
      split
      · obtain ⟨hmore, hafter⟩ := ofFieldsWith_keeps hfollow depth hmet total left rest hrest
        exact ⟨⟨isProper_plain _, hmore⟩, hafter⟩
      · obtain ⟨hfirst, hnext⟩ := ofValueWith_keeps hfollow depth hmet v hv
        obtain ⟨hmore, hafter⟩ := ofFieldsWith_keeps hfollow depth hnext total left rest hrest
        exact ⟨⟨hfirst, hmore⟩, hafter⟩

end

theorem ofValueUpTo_keeps (causes : Nat) : CauseReader.Keeps (ofValueUpTo causes) := by
  induction causes with
  | zero =>
      intro depth met v hmet hv
      apply ofValueWith_keeps _ depth hmet v hv
      intro _ met _ hmet _
      exact ⟨isProper_plain _, hmet⟩
  | succ causes ih =>
      intro depth met v hmet hv
      exact ofValueWith_keeps ih depth hmet v hv

theorem areProper_ofValuesFrom {met : Met} (hmet : met.IsProper) {values : List Value}
    (h : ∀ v ∈ values, v.isProper = true) : AreProper (ofValuesFrom met values) := by
  induction values generalizing met with
  | nil => trivial
  | cons v rest ih =>
      obtain ⟨hv, hrest⟩ := List.forall_mem_cons.mp h
      obtain ⟨hfirst, hnext⟩ := ofValueUpTo_keeps (maxDepth - 1) 0 hmet hv
      exact ⟨hfirst, ih hnext hrest⟩

/-- What is made of proper values for the log can be read back, cut or not. -/
theorem areProper_ofValues {values : List Value} (h : ∀ v ∈ values, v.isProper = true) :
    AreProper (ofValues values) := by
  have hnothing : (Met.mk [] []).IsProper := by rintro e ⟨⟩
  unfold ofValues
  dsimp only
  split
  · exact ⟨⟨List.nodup_singleton _, isProper_plain _, trivial⟩, trivial⟩
  · exact areProper_ofValuesFrom hnothing h

end Log.Sanitized

end AlertRelay
