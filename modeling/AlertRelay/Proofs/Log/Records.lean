import AlertRelay.Proofs.Log.Proper

/-!
Records of the log, read back.

Main statement: whatever accompanies a record, its line is one line, is read back as one record
that tells its own instant, level and message (`Tells`), and is at most as much longer than the
line without context as a context may be long (`line_tells`).  A context that is merged into a
record cannot hide what the record itself tells: its names are none of the reserved ones, listed
or inherited, and fields behind the envelope do not move it.
-/

namespace AlertRelay.Log

open AlertRelay.Text Sanitized

section Length

/-- The units that fields take inside a record, with a comma each. -/
def fieldUnits (fields : List (String × Sanitized)) : Nat :=
  ((jsonFields fields).map fun f => unitCount f.2 + 1).sum

theorem unitCount_withCommas (texts : List (List Char)) :
    unitCount (Value.withCommas texts) = (texts.map fun t => unitCount t + 1).sum - 1 := by
  induction texts with
  | nil => rfl
  | cons first rest ih =>
      cases rest with
      | nil => rfl
      | cons second rest =>
          have hcomma : unitCount (',' :: Value.withCommas (second :: rest)) =
              1 + unitCount (Value.withCommas (second :: rest)) := rfl
          rw [Json.withCommas_cons_cons, unitCount_append, hcomma, ih]
          simp only [List.map_cons, List.sum_cons]
          omega

/-- Brackets or braces around a text take two units more. -/
theorem unitCount_between {before behind : Char} (hbefore : unitsOf before = 1)
    (hbehind : unitsOf behind = 1) (cs : List Char) :
    unitCount (before :: cs ++ [behind]) = unitCount cs + 2 := by
  rw [unitCount_append, unitCount, unitCount, unitCount, hbefore, hbehind]
  omega

theorem unitCount_list (items : List Sanitized) :
    unitCount (list items).jsonChars =
      ((jsonItems items).map fun t => unitCount t + 1).sum - 1 + 2 := by
  rw [jsonChars, unitCount_between (by decide) (by decide), unitCount_withCommas]

/-- The order in which fields are listed does not change the length of a record. -/
theorem unitCount_record (inherited : List String) (fields : List (String × Sanitized)) :
    unitCount (Sanitized.record inherited fields).jsonChars = fieldUnits fields - 1 + 2 := by
  have hperm : ((listedFields (jsonFields fields)).map fun f => unitCount f.2 + 1).sum =
      fieldUnits fields :=
    ((listedFields_perm (jsonFields fields)).map _).sum_eq
  rw [jsonChars, unitCount_between (by decide) (by decide), unitCount_withCommas, List.map_map,
    ← hperm]
  rfl

theorem fieldUnits_append (fields others : List (String × Sanitized)) :
    fieldUnits (fields ++ others) = fieldUnits fields + fieldUnits others := by
  simp only [fieldUnits, jsonFields_eq_map, definedFields, List.filter_append, List.map_append,
    List.sum_append]

/-- What is made of a context is no longer than a context may be, cut or not. -/
theorem unitCount_ofValues (values : List Value) :
    unitCount (list (ofValues values)).jsonChars ≤ maxContext := by
  unfold ofValues
  dsimp only
  split
  · decide +kernel
  · next hshort => exact Nat.not_lt.mp hshort

/-- A context takes no more room than it has by itself, but for its name. -/
theorem fieldUnits_contextFields (context : List Sanitized) :
    fieldUnits (contextFields context) ≤ unitCount (list context).jsonChars + 11 := by
  have hname : unitCount (Json.quoted "context".toList) = 9 := by decide +kernel
  have hcolon : unitCount (':' :: (list context).jsonChars) =
      1 + unitCount (list context).jsonChars := rfl
  have hwhole : fieldUnits [("context", list context)] =
      unitCount (list context).jsonChars + 11 := by
    rw [fieldUnits, jsonFields, jsonFields, List.map_singleton, List.sum_singleton,
      unitCount_append, hname, hcolon]
    · omega
    · rintro ⟨⟩
  unfold contextFields
  split
  · exact Nat.zero_le _
  · next inherited fields =>
      split
      · exact hwhole.le
      · -- A merged record leaves its own braces and the brackets around it behind.
        rw [unitCount_list, jsonItems, jsonItems, List.map_singleton, List.sum_singleton,
          unitCount_record]
        omega
  · exact hwhole.le

end Length

/-- What every record tells of itself. -/
def envelope (now : Int) (level : Level) (message : String) : List (String × Sanitized) :=
  [("ts", plain (Instant.text now)), ("level", plain level.label), ("message", plain message)]

theorem names_envelope (now : Int) (level : Level) (message : String) :
    Assoc.names (envelope now level message) = reservedNames :=
  rfl

/-- How long a line is depends on its context by what the fields of the context take. -/
theorem units_line (now : Int) (level : Level) (message : String) (params : List Value) :
    units (line now level message params) =
      units (line now level message []) + fieldUnits (contextFields (ofValues params)) := by
  have hline (context : List Value) : units (line now level message context) =
      fieldUnits (envelope now level message) +
        fieldUnits (contextFields (ofValues context)) - 1 + 2 := by
    rw [units, line, String.toList_ofList, ← fieldUnits_append]
    exact unitCount_record [] _
  have hnone : fieldUnits (contextFields (ofValues [])) = 0 := by decide +kernel
  have hpos : 0 < fieldUnits (envelope now level message) := Nat.succ_pos _
  rw [hline params, hline [], hnone]
  omega

section Context

/-- No name that a record lists or inherits is one of the reserved ones. -/
def HidesNothing (inherited : List String) (fields : List (String × Sanitized)) : Prop :=
  ∀ name ∈ Assoc.names fields ++ inherited, name ∉ reservedNames

/-- What a record carries besides what it tells of itself: nothing if nothing accompanies it; the
fields of a single record of context if they hide nothing; any other context as a whole, under a
name of its own. -/
inductive Carries (params : List Value) : List (String × Value) → Prop
  | nothing (hnone : params = []) : Carries params []
  | merged {inherited : List String} {fields : List (String × Sanitized)}
      (hsingle : ofValues params = [.record inherited fields])
      (hfree : HidesNothing inherited fields) :
      Carries params (listedFields (shownFields fields))
  | whole (hsome : params ≠ [])
      (hother : ∀ {inherited : List String} {fields : List (String × Sanitized)},
        ofValues params = [.record inherited fields] → ¬ HidesNothing inherited fields) :
      Carries params [("context", .list none (shownItems (ofValues params)))]

theorem ofValues_eq_nil_iff {params : List Value} : ofValues params = [] ↔ params = [] := by
  constructor
  · intro h
    unfold ofValues at h
    dsimp only at h
    split at h
    · cases h
    · cases params with
      | nil => rfl
      | cons v rest => cases h
  · rintro rfl
    decide +kernel

theorem hidesNothing_iff {inherited : List String} {fields : List (String × Sanitized)} :
    HidesNothing inherited fields ↔
      (fields.map (·.1) ++ inherited).any reservedNames.contains = false := by
  simp only [HidesNothing, Assoc.names, List.any_eq_false, List.contains_iff_mem]

/-- The fields of a context are carried in the order in which they are listed. -/
theorem carries_contextFields (params : List Value) :
    Carries params (listedFields (shownFields (contextFields (ofValues params)))) := by
  have hindex : indexOf? "context" = none := by decide +kernel
  have hname (v : Value) : listedFields [("context", v)] = [("context", v)] := by
    simp [listedFields, indexedFields, hindex]
  generalize hcontext : ofValues params = context
  unfold contextFields
  split
  · exact .nothing (ofValues_eq_nil_iff.mp hcontext)
  · next inherited fields =>
      -- A single record that would hide something is carried like any other context.
      split
      · next hhides =>
          simp only [shownFields, hname, shown, ← hcontext]
          refine .whole ?_ ?_
          · rintro rfl
            rw [ofValues_eq_nil_iff.mpr rfl] at hcontext
            cases hcontext
          · intro inherited' fields' hsingle
            rw [hcontext] at hsingle
            cases hsingle
            rw [hidesNothing_iff, hhides]
            decide
      · next hfree =>
          exact .merged hcontext (hidesNothing_iff.mpr (Bool.eq_false_iff.mpr hfree))
  · next hempty hsingle =>
      simp only [shownFields, hname, shown, ← hcontext]
      refine .whole ?_ ?_
      · rintro rfl
        exact hempty (hcontext.symm.trans (ofValues_eq_nil_iff.mpr rfl))
      · intro inherited fields hrecord
        exact absurd (hcontext.symm.trans hrecord) (hsingle inherited fields)

/-- The fields of a context have different names, none of them reserved. -/
theorem names_contextFields {context : List Sanitized} (h : AreProper context) :
    (Assoc.names (contextFields context)).Nodup ∧
      ∀ f ∈ contextFields context, f.1 ∉ reservedNames := by
  have hwhole : (Assoc.names [("context", list context)]).Nodup ∧
      ∀ f ∈ [("context", list context)], f.1 ∉ reservedNames := by
    refine ⟨List.nodup_singleton _, ?_⟩
    have hname : "context" ∉ reservedNames := by decide
    intro f hf
    rw [List.mem_singleton.mp hf]
    exact hname
  unfold contextFields
  split
  · exact ⟨List.nodup_nil, by rintro f ⟨⟩⟩
  · next inherited fields =>
      split
      · exact hwhole
      · next hfree =>
          have hhides := hidesNothing_iff.mpr (Bool.eq_false_iff.mpr hfree)
          refine ⟨h.1.1, ?_⟩
          intro f hf
          exact hhides f.1 (List.mem_append_left _ (List.mem_map_of_mem hf))
  · exact hwhole

theorem areProperFields_contextFields {context : List Sanitized} (h : AreProper context) :
    AreProperFields (contextFields context) := by
  unfold contextFields
  split
  · trivial
  · split
    · exact ⟨h, trivial⟩
    · exact h.1.2
  · exact ⟨h, trivial⟩

end Context

section Records

variable {now : Int} {level : Level} {message : String} {params : List Value}

/-- Whether fields are those of a record with that instant, level and message, which carries what
accompanies it. -/
structure Tells (now : Int) (level : Level) (message : String) (params : List Value)
    (fields : List (String × Value)) : Prop where
  distinct : (Assoc.names fields).Nodup
  instant : Assoc.get? "ts" fields = some (.text (Instant.text now))
  level : Assoc.get? "level" fields = some (.text level.label)
  message : Assoc.get? "message" fields = some (.text message)
  context : Carries params (fields.filter fun f => !reservedNames.contains f.1)

theorem shownFields_envelope (now : Int) (level : Level) (message : String) :
    shownFields (envelope now level message) =
      [("ts", .text (Instant.text now)), ("level", .text level.label),
        ("message", .text message)] := by
  simp only [envelope, plain, shownFields, shown, LogText.shown, String.ofList_toList]

theorem isProper_record (h : AreProper (ofValues params)) :
    (record now level message (ofValues params)).IsProper := by
  obtain ⟨hnames, hfree⟩ := names_contextFields h
  have henvelope : (Assoc.names (envelope now level message)).Nodup := by
    rw [names_envelope]
    decide
  have hplain : AreProperFields (envelope now level message) :=
    ⟨isProper_plain _, isProper_plain _, isProper_plain _, trivial⟩
  constructor
  · rw [Assoc.names, List.map_append, List.nodup_append]
    refine ⟨henvelope, hnames, ?_⟩
    rintro name hname other hother rfl
    obtain ⟨f, hf, rfl⟩ := List.mem_map.mp hother
    rw [← names_envelope now level message] at hfree
    exact hfree f hf hname
  · exact hplain.append (areProperFields_contextFields h)

/-- Fields behind what a record tells of itself, under other names, do not hide it. -/
theorem tells_listedFields {context : List (String × Value)}
    (hnames : (Assoc.names (shownFields (envelope now level message) ++ context)).Nodup)
    (hfree : ∀ f ∈ context, f.1 ∉ reservedNames) (hcarries : Carries params (listedFields context)) :
    Tells now level message params
      (listedFields (shownFields (envelope now level message) ++ context)) := by
  have hlisted := (names_listedFields_perm _).nodup_iff.mpr hnames
  -- The reserved names are no indices: only what is behind the envelope is put in order.
  have hindices : ∀ name ∈ reservedNames, indexOf? name = none := by decide +kernel
  have hreserved : ∀ f ∈ shownFields (envelope now level message), f.1 ∈ reservedNames := by
    intro f hf
    have hsublist := names_shownFields_sublist (envelope now level message)
    exact hsublist.subset (List.mem_map_of_mem hf)
  have hfound {f : String × Value} (hf : f ∈ shownFields (envelope now level message)) :
      Assoc.get? f.1 (listedFields (shownFields (envelope now level message) ++ context)) =
        some f.2 :=
    (Assoc.get?_eq_some_iff hlisted).mpr
      ((listedFields_perm _).mem_iff.mpr (List.mem_append_left _ hf))
  have hrest : (listedFields (shownFields (envelope now level message) ++ context)).filter
      (fun f => !reservedNames.contains f.1) = listedFields context := by
    apply filter_listedFields_append
    · exact fun f hf => hindices f.1 (hreserved f hf)
    · intro f hf
      rw [List.contains_iff_mem.mpr (hreserved f hf), Bool.not_true]
    · intro f hf
      rw [Bool.not_eq_true', ← Bool.not_eq_true, List.contains_iff_mem]
      exact hfree f hf
  rw [shownFields_envelope] at hfound hlisted hrest ⊢
  exact
    { distinct := hlisted
      instant := hfound (f := ("ts", _)) (by simp)
      level := hfound (f := ("level", _)) (by simp)
      message := hfound (f := ("message", _)) (by simp)
      context := hrest ▸ hcarries }

/-- The line of a record is read back as a record that tells the same. -/
theorem writes_line (now : Int) (level : Level) (message : String)
    (h : AreProper (ofValues params)) :
    ∃ fields, Json.Writes (line now level message params).toList (.record none fields) ∧
      Tells now level message params fields := by
  let fields := shownFields (envelope now level message ++ contextFields (ofValues params))
  have hproper : (record now level message (ofValues params)).IsProper := isProper_record h
  have hshown : (record now level message (ofValues params)).shown =
      .record none (listedFields fields) := by
    rw [record, shown]
    rfl
  have hfields : fields =
      shownFields (envelope now level message) ++ shownFields (contextFields (ofValues params)) :=
    shownFields_append _ _
  have hnames : (Assoc.names fields).Nodup := hproper.1.sublist (names_shownFields_sublist _)
  have hfree : ∀ f ∈ shownFields (contextFields (ofValues params)), f.1 ∉ reservedNames := by
    intro f hf
    have hsublist := names_shownFields_sublist (contextFields (ofValues params))
    obtain ⟨g, hg, heq⟩ := List.mem_map.mp (hsublist.subset (List.mem_map_of_mem hf))
    rw [← heq]
    exact (names_contextFields h).2 g hg
  have hwrites := writes_jsonChars _ hproper
  rw [hshown] at hwrites
  refine ⟨listedFields fields, ?_, ?_⟩
  · rw [line, String.toList_ofList]
    exact hwrites
  · rw [hfields] at hnames ⊢
    exact tells_listedFields hnames hfree (carries_contextFields params)

end Records

/-- Whatever accompanies a record, its line is one line, is read back as one record that tells its
instant, level and message and carries the context, and is longer than the line without context by
no more than the longest context and its name. -/
theorem line_tells (now : Int) (level : Level) (message : String) {params : List Value}
    (h : ∀ v ∈ params, v.isProper = true) :
    (∀ c ∈ (line now level message params).toList, c ≠ '\n' ∧ c ≠ '\r') ∧
      (∃ fields, Value.ofJson? (line now level message params) = some (.record none fields) ∧
        Tells now level message params fields) ∧
      units (line now level message params) ≤
        units (line now level message []) + maxContext + 11 := by
  obtain ⟨fields, hwrites, htells⟩ := writes_line now level message (areProper_ofValues h)
  have hread : Value.ofJson? (line now level message params) = some (.record none fields) := by
    rw [Value.ofJson?]
    exact Value.ofJsonChars?_of_writes hwrites
  refine ⟨?_, ⟨fields, hread, htells⟩, ?_⟩
  · intro c hc
    have hvisible := hwrites.visible c hc
    constructor <;> rintro rfl <;> exact absurd hvisible (by decide)
  · have hcontext := fieldUnits_contextFields (ofValues params)
    have hbound := unitCount_ofValues params
    rw [units_line]
    omega

/-- A context that gives itself a level, passes an instant on to what inherits from it, and holds a
text that would end the record. -/
def hostileContext : List Value :=
  [.ofFields [("level", .text "INFO"), ("__proto__", .ofFields [("ts", .text "later")]),
    ("__truncated__", .number (Double.round (mkRat 1 10))), ("context", .ofList [.null]),
    ("7\r\n", .text "\"\x7d\n\x7b\"level\":\"ERROR\u2028\\")]]

theorem line_tells_hostileContext :
    (∀ v ∈ hostileContext, v.isProper = true) ∧
      (∀ c ∈ (line 0 .warn "a\nb" hostileContext).toList, c ≠ '\n' ∧ c ≠ '\r') ∧
      (∃ fields, Value.ofJson? (line 0 .warn "a\nb" hostileContext) = some (.record none fields) ∧
        Tells 0 .warn "a\nb" hostileContext fields) ∧
      units (line 0 .warn "a\nb" hostileContext) ≤
        units (line 0 .warn "a\nb" []) + maxContext + 11 := by
  have hproper : ∀ v ∈ hostileContext, v.isProper = true := by decide +kernel
  exact ⟨hproper, line_tells 0 .warn "a\nb" hproper⟩

end AlertRelay.Log
