import AlertRelay.Assoc
import AlertRelay.Value.KeyOrder
import AlertRelay.Web.Body

/-!
What bodies of requests are read as.

A body is read from a text, as JSON, as a form or as it stands.  So it is plain, and so is each of
its fields that is not missing (`IsBody.get_cases`): no container in it has an identity, and there
are no instants and no errors.  Main statement: whatever is read is a body (`isBody_of_readBody`).
-/

namespace AlertRelay

open Web

/-- The values that a text can be read as. -/
inductive Value.IsPlain : Value → Prop
  | null : IsPlain .null
  | bool (b : Bool) : IsPlain (.bool b)
  | number (x : Double) : IsPlain (.number x)
  | text (s : String) : IsPlain (.text s)
  | list (items : List Value) : IsPlain (.list none items)
  | record (fields : List (String × Value)) : IsPlain (.record none fields)

/-- Plain fields with different names. -/
structure PlainFields (fields : List (String × Value)) : Prop where
  nodup : (Assoc.names fields).Nodup
  plain : ∀ f ∈ fields, f.2.IsPlain

/-- What a body can be: nothing, a plain value without fields, or a record of plain fields. -/
inductive IsBody : Value → Prop
  | missing : IsBody .undefined
  | bare {v : Value} (plain : v.IsPlain) (noFields : v.fields? = none) : IsBody v
  | record {fields : List (String × Value)} (plain : PlainFields fields) :
      IsBody (.record none fields)

section Bodies

variable {fields : List (String × Value)}

theorem plainFields_nil : PlainFields [] :=
  ⟨List.nodup_nil, fun _ h => absurd h List.not_mem_nil⟩

theorem PlainFields.put (h : PlainFields fields) (name : String) {v : Value} (hv : v.IsPlain) :
    PlainFields (Assoc.put name v fields) where
  nodup := Assoc.names_put_nodup name v h.nodup
  plain f hf := by
    rcases Assoc.eq_or_mem_of_mem_put hf with rfl | hf
    · exact hv
    · exact h.plain f hf

theorem PlainFields.listed (h : PlainFields fields) : PlainFields (listedFields fields) where
  nodup := ((listedFields_perm fields).map Prod.fst).nodup_iff.mpr h.nodup
  plain f hf := h.plain f ((listedFields_perm fields).mem_iff.mp hf)

namespace Json

variable {depth : Nat} {cs rest : List Char} {v : Value}

/-- A value that is read is plain and has no fields, or is a record of fields that are read. -/
theorem readValue?_cases (h : readValue? (depth + 1) cs = some (v, rest)) :
    v.IsPlain ∧ v.fields? = none ∨
      ∃ fields, v = .record none (listedFields fields) ∧
        (fields = [] ∨ ∃ after, readFields? depth [] after = some (fields, rest)) := by
  rw [readValue?] at h
  split at h
  · obtain ⟨⟨s, _⟩, _, hv⟩ := Option.map_eq_some_iff.mp h
    cases hv
    exact .inl ⟨.text _, rfl⟩
  · split at h
    · cases h
      exact .inl ⟨.list [], rfl⟩
    · obtain ⟨⟨items, _⟩, _, hv⟩ := Option.map_eq_some_iff.mp h
      cases hv
      exact .inl ⟨.list items, rfl⟩
  · split at h
    · cases h
      exact .inr ⟨[], rfl, .inl rfl⟩
    · obtain ⟨⟨fields, _⟩, hfields, hv⟩ := Option.map_eq_some_iff.mp h
      cases hv
      exact .inr ⟨fields, rfl, .inr ⟨_, hfields⟩⟩
  · split at h
    · obtain ⟨⟨x, _⟩, _, hv⟩ := Option.map_eq_some_iff.mp h
      cases hv
      exact .inl ⟨.number x, rfl⟩
    · unfold readName? at h
      split at h
      · cases h
        exact .inl ⟨.null, rfl⟩
      · cases h
        exact .inl ⟨.bool true, rfl⟩
      · cases h
        exact .inl ⟨.bool false, rfl⟩
      · cases h
  · cases h

theorem isPlain_of_readValue? (h : readValue? depth cs = some (v, rest)) : v.IsPlain := by
  cases depth with
  | zero => cases h
  | succ depth =>
      rcases readValue?_cases h with ⟨hplain, _⟩ | ⟨fields, rfl, _⟩
      · exact hplain
      · exact .record _

/-- Fields that are read after plain ones are plain. -/
theorem plainFields_of_readFields? {done : List (String × Value)} (hdone : PlainFields done)
    (h : readFields? depth done cs = some (fields, rest)) : PlainFields fields := by
  induction depth generalizing done cs with
  | zero => cases h
  | succ depth ih =>
      rw [readFields?] at h
      split at h
      · split at h
        · cases h
        · split at h
          · split at h
            · cases h
            · next v _ hvalue =>
                have hput := fun name => hdone.put name (isPlain_of_readValue? hvalue)
                dsimp only at h
                split at h
                · exact ih (hput _) h
                · cases h
                  exact hput _
                · cases h
          · cases h
      · cases h

theorem isBody_of_readValue? (h : readValue? depth cs = some (v, rest)) : IsBody v := by
  cases depth with
  | zero => cases h
  | succ depth =>
      rcases readValue?_cases h with ⟨hplain, hbare⟩ | ⟨fields, rfl, rfl | ⟨_, hfields⟩⟩
      · exact .bare hplain hbare
      · exact .record plainFields_nil.listed
      · exact .record (plainFields_of_readFields? plainFields_nil hfields).listed

end Json

/-- The fields of a form are texts, or lists of them. -/
theorem plainFields_addField (h : PlainFields fields) (field : String × String) :
    PlainFields (addField fields field) := by
  apply h.put
  split
  · exact .text _
  · exact .list _
  · exact .list _

theorem isBody_formFields (form : List Char) : IsBody (formFields form) := by
  have hfold : ∀ (pieces : List (String × String)) {done : List (String × Value)},
      PlainFields done → PlainFields (pieces.foldl addField done) := by
    intro pieces
    induction pieces with
    | nil => exact fun h => h
    | cons field rest ih => exact fun h => ih (plainFields_addField h field)
  exact .record (hfold _ plainFields_nil)

theorem isBody_of_readJson {cs : List Char} {body : Value} (h : readJson cs = .ok body) :
    IsBody body := by
  unfold readJson at h
  split at h
  · cases h
  · split at h
    · cases h
    · next v hread =>
        -- A value with faults is refused; another one is the body.
        obtain rfl : v = body := by
          cases hfault : outermost? (faults 0 v) with
          | none =>
              rw [hfault] at h
              cases h
              rfl
          | some fault =>
              rw [hfault] at h
              cases h
        unfold Value.ofJsonChars? at hread
        split at hread
        · next hvalue =>
            split at hread
            · cases hread
              exact Json.isBody_of_readValue? hvalue
            · cases hread
        · cases hread

/-- Whatever a body is read as is a body. -/
theorem isBody_of_readBody {r : Web.Request} {body : Value} (h : r.readBody = .ok body) :
    IsBody body := by
  unfold Web.Request.readBody at h
  split at h
  · dsimp only at h
    split at h
    · next type _ =>
        cases hfault : r.lengthFault? with
        | some fault =>
            rw [hfault] at h
            cases h
        | none =>
            rw [hfault] at h
            cases type with
            | json => exact isBody_of_readJson h
            | form =>
                cases h
                exact isBody_formFields _
            | plain =>
                cases h
                exact .bare (.text _) rfl
    · cases h
  · cases h
    exact .missing

end Bodies

section Fields

variable {body v : Value}

theorem Value.get_of_no_fields (h : v.fields? = none) (name : String) :
    v.get name = .undefined := by
  cases v with
  | record i fields => cases h
  | error i kind fields => cases h
  | _ => rfl

theorem Value.get_plain (fields : List (String × Value)) (name : String) :
    (Value.ofFields fields).get name = (Assoc.get? name fields).getD .undefined := by
  cases hfield : Assoc.get? name fields with
  | none => simp only [get, hfield, Option.elim_none, Option.getD_none]
  | some v => simp only [get, hfield, Option.elim_some, Option.getD_some, part, id?]

theorem Value.fields?_plain (fields : List (String × Value)) :
    (Value.ofFields fields).fields? = some fields :=
  congrArg some (List.map_id fields)

/-- The fields of a body are what can be listed of it. -/
theorem IsBody.get_listed (h : IsBody body) (name : String) :
    (Value.ofFields (body.fields?.getD [])).get name = body.get name := by
  cases h with
  | missing => rfl
  | bare _ noFields =>
      rw [noFields, Value.get_of_no_fields noFields]
      rfl
  | record plain => rw [Value.fields?_plain, Option.getD_some]

/-- A field of a body is missing or plain. -/
theorem IsBody.get_cases (h : IsBody body) (name : String) :
    body.get name = .undefined ∨ (body.get name).IsPlain := by
  cases h with
  | missing => exact .inl rfl
  | bare _ noFields => exact .inl (Value.get_of_no_fields noFields name)
  | @record fields plain =>
      rw [Value.get_plain]
      cases hfield : Assoc.get? name fields with
      | none => exact .inl rfl
      | some v => exact .inr (plain.plain _ (Assoc.mem_of_get? hfield))

end Fields

end AlertRelay
