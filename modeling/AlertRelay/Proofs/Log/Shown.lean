import AlertRelay.Log.Line
import AlertRelay.Proofs.Log.Units
import AlertRelay.Proofs.Value.Listing
import AlertRelay.Proofs.Value.Reader

/-!
What a reader of the log is shown.

`Sanitized.shown` is the value that a reader finds in place of a value made safe: what is undefined
is left out of a record and is nothing elsewhere, and half of a character is shown as the
replacement character.  Main statement: the JSON text of a value made safe is read as the value
that it shows (`writes_jsonChars`), if its numbers are such as binary64 can hold and no record in
it names a field twice (`Sanitized.IsProper`).
-/

namespace AlertRelay.Log

open AlertRelay.Text AlertRelay.Json

/-- A logged text as it is read. -/
def LogText.shown : LogText → String
  | .whole s => String.ofList s
  | .cutOff kept half omitted =>
    String.ofList (kept ++ (half.elim [] fun _ => ['\uFFFD']) ++ omissionMark omitted)

/-- Whether what a cut left of a character is half of one. -/
def LogText.IsProper : LogText → Prop
  | .whole _ => True
  | .cutOff _ half _ => ∀ u ∈ half, 0xD800 ≤ u ∧ u < 0xE000

theorem LogText.isProper_ofText (s : String) : (LogText.ofText s).IsProper := by
  unfold LogText.ofText
  dsimp only
  split
  · trivial
  · intro u hu
    exact half_of_cut hu

theorem isPlainChar_of_mem_omissionMark {n : Nat} :
    ∀ c ∈ omissionMark n, isPlainChar c = true := by
  have hfront : ∀ c ∈ "…(+".toList, isPlainChar c = true := forall_mem_of_all (by decide)
  have hback : ∀ c ∈ " chars)".toList, isPlainChar c = true := forall_mem_of_all (by decide)
  have hdigit : ∀ c : Char, Numeral.isDigit c = true → isPlainChar c = true := by
    intro c hc
    have hcode := Numeral.isDigit_iff.mp hc
    simp only [isPlainChar, Bool.and_eq_true, bne_iff_ne, decide_eq_true_eq]
    refine ⟨⟨?_, ?_⟩, by omega⟩ <;> rintro rfl <;> exact absurd hcode (by decide)
  intro c hc
  simp only [omissionMark, List.mem_append] at hc
  rcases hc with (hc | hc) | hc
  · exact hfront c hc
  · exact hdigit c (Numeral.isDigit_of_mem_digitsOf hc)
  · exact hback c hc

/-- What a cut leaves of a text, with what is left of a character, is read up to the mark. -/
theorem readQuoted?_cutOff {kept : List Char} {half : Option Nat}
    (hhalf : ∀ u ∈ half, 0xD800 ≤ u ∧ u < 0xE000) (omitted : Nat) (rest : List Char) :
    readQuoted? [] (kept.flatMap quotedChar ++ half.elim [] unitEscape ++ omissionMark omitted ++
        '\x22' :: rest) =
      some (kept ++ (half.elim [] fun _ => ['\uFFFD']) ++ omissionMark omitted, rest) := by
  have hmark := flatMap_of_isPlainChar (isPlainChar_of_mem_omissionMark (n := omitted))
  have hquote : Continues ('\x22' :: rest) := continues_of_head (by decide) rest
  cases half with
  | none =>
      have hread := readQuoted?_quoted (kept ++ omissionMark omitted) rest
      rw [List.flatMap_append, hmark] at hread
      simpa only [Option.elim_none, List.append_nil] using hread
  | some u =>
      obtain ⟨hlower, hupper⟩ := hhalf u rfl
      have hunit : Continues (unitEscape u ++ (omissionMark omitted ++ '\x22' :: rest)) := by
        intro tail htail
        cases htail
        exact ⟨u, omissionMark omitted ++ '\x22' :: rest, by omega, rfl⟩
      have hchar : unitChar u = '\uFFFD' := if_pos ⟨hlower, hupper⟩
      have hnext : ∀ tail, omissionMark omitted ++ '\x22' :: rest ≠ '\\' :: 'u' :: tail := by
        intro tail htail
        cases htail
      have hread : readQuoted? ('\uFFFD' :: kept.reverse)
          ((omissionMark omitted).flatMap quotedChar ++ '\x22' :: rest) =
            readQuoted? ((omissionMark omitted).reverse ++ '\uFFFD' :: kept.reverse)
              ('\x22' :: rest) :=
        readQuoted?_flatMap (omissionMark omitted) hquote
      rw [hmark] at hread
      simp only [Option.elim_some, List.append_assoc]
      rw [readQuoted?_flatMap kept hunit, readQuoted?_unitEscape_of_ne (by omega) hnext, hchar,
        List.append_nil, hread, readQuoted?]
      simp

/-- The text of a logged text is read as it is shown. -/
theorem LogText.writes_jsonChars {t : LogText} (ht : t.IsProper) :
    Writes t.jsonChars (.text t.shown) := by
  cases t with
  | whole s => exact writes_text s
  | cutOff kept half omitted =>
      apply writes_quoted
      · intro c hc
        simp only [List.mem_append] at hc
        rcases hc with (hc | hc) | hc
        · exact visible_flatMap kept c hc
        · cases half with
          | none => cases hc
          | some u => exact visible_unitEscape u c hc
        · have hplain := isPlainChar_of_mem_omissionMark c hc
          simp only [isPlainChar, Bool.and_eq_true, decide_eq_true_eq] at hplain
          exact hplain.2
      · exact readQuoted?_cutOff ht omitted

namespace Sanitized

/-- Whether a value is left out of a record. -/
def isUndefined : Sanitized → Bool
  | .undefined => true
  | _ => false

/-- The fields that are written. -/
def definedFields (fields : List (String × Sanitized)) : List (String × Sanitized) :=
  fields.filter fun f => !f.2.isUndefined

mutual

/-- A value as it is read from its JSON text. -/
def shown : Sanitized → Value
  | .undefined => .null
  | .null => .null
  | .bool b => .bool b
  | .number n => if n.isFinite then .number n else .null
  | .text t => .text t.shown
  | .list items => .list none (shownItems items)
  | .record _ fields => .record none (listedFields (shownFields fields))

def shownItems : List Sanitized → List Value
  | [] => []
  | v :: rest => v.shown :: shownItems rest

/-- The fields of a record, but for those that are undefined. -/
def shownFields : List (String × Sanitized) → List (String × Value)
  | [] => []
  | (_, .undefined) :: rest => shownFields rest
  | (k, v) :: rest => (k, v.shown) :: shownFields rest

end

mutual

/-- Whether the numbers in a value are such as binary64 can hold, and no record names a field
twice. -/
def IsProper : Sanitized → Prop
  | .number n => n.isFinite = true → n.isExact = true
  | .text t => t.IsProper
  | .list items => AreProper items
  | .record _ fields => (Assoc.names fields).Nodup ∧ AreProperFields fields
  | _ => True

def AreProper : List Sanitized → Prop
  | [] => True
  | v :: rest => v.IsProper ∧ AreProper rest

def AreProperFields : List (String × Sanitized) → Prop
  | [] => True
  | (_, v) :: rest => v.IsProper ∧ AreProperFields rest

end

/-- The text of a field. -/
def fieldChars (f : String × Sanitized) : List Char :=
  Json.quoted f.1.toList ++ ':' :: f.2.jsonChars

theorem jsonItems_eq_map (items : List Sanitized) : jsonItems items = items.map jsonChars := by
  induction items with
  | nil => rfl
  | cons v rest ih => rw [jsonItems, ih, List.map_cons]

theorem shownItems_eq_map (items : List Sanitized) : shownItems items = items.map shown := by
  induction items with
  | nil => rfl
  | cons v rest ih => rw [shownItems, ih, List.map_cons]

theorem jsonFields_eq_map (fields : List (String × Sanitized)) :
    jsonFields fields = (definedFields fields).map fun f => (f.1, fieldChars f) := by
  induction fields with
  | nil => rfl
  | cons f rest ih =>
      obtain ⟨k, v⟩ := f
      cases v with
      | undefined => rw [jsonFields, ih]; rfl
      | _ => simp only [jsonFields, ih]; rfl

theorem shownFields_eq_map (fields : List (String × Sanitized)) :
    shownFields fields = (definedFields fields).map fun f => (f.1, f.2.shown) := by
  induction fields with
  | nil => rfl
  | cons f rest ih =>
      obtain ⟨k, v⟩ := f
      cases v with
      | undefined => rw [shownFields, ih]; rfl
      | _ => simp only [shownFields, ih]; rfl

theorem names_definedFields_nodup {fields : List (String × Sanitized)}
    (h : (Assoc.names fields).Nodup) : (Assoc.names (definedFields fields)).Nodup :=
  h.sublist (List.filter_sublist.map _)

theorem names_shownFields_sublist (fields : List (String × Sanitized)) :
    (Assoc.names (shownFields fields)).Sublist (Assoc.names fields) := by
  rw [shownFields_eq_map, Assoc.names, List.map_map]
  exact List.filter_sublist.map Prod.fst

theorem shownFields_append (fields others : List (String × Sanitized)) :
    shownFields (fields ++ others) = shownFields fields ++ shownFields others := by
  simp only [shownFields_eq_map, definedFields, List.filter_append, List.map_append]

/-- The text of a record, if those of its fields are read. -/
theorem writes_record_of_fields {inherited : List String} {fields : List (String × Sanitized)}
    (hnames : (Assoc.names fields).Nodup)
    (h : ∀ f ∈ fields, WritesField (fieldChars f) (f.1, f.2.shown)) :
    Writes (record inherited fields).jsonChars (record inherited fields).shown := by
  have hlisted : ∀ f ∈ listedFields (definedFields fields),
      WritesField (fieldChars f) (f.1, f.2.shown) := by
    intro f hf
    exact h f (List.mem_of_mem_filter ((listedFields_perm _).mem_iff.mp hf))
  have hdefined := names_definedFields_nodup hnames
  have hlistedNames : (Assoc.names ((listedFields (definedFields fields)).map fun f =>
      (f.1, f.2.shown))).Nodup := by
    rw [Assoc.names, List.map_map]
    exact (names_listedFields_perm (definedFields fields)).nodup_iff.mpr hdefined
  have hwrites := writes_record hlisted hlistedNames
  have hagain := listedFields_listedFields hdefined
  have htexts : (listedFields (jsonFields fields)).map Prod.snd =
      (listedFields (definedFields fields)).map fieldChars := by
    rw [jsonFields_eq_map, listedFields_map_named, List.map_map]
    rfl
  rw [listedFields_map shown, hagain, ← listedFields_map, ← shownFields_eq_map] at hwrites
  rw [jsonChars, shown, htexts]
  exact hwrites

mutual

/-- The JSON text of a value made safe is read as the value that it shows. -/
theorem writes_jsonChars (v : Sanitized) (hv : v.IsProper) : Writes v.jsonChars v.shown := by
  match v with
  | .undefined => exact writes_null
  | .null => exact writes_null
  | .bool b => exact writes_bool b
  | .number n =>
      simp only [jsonChars, shown]
      split
      · next hfinite => exact writes_number (hv hfinite)
      · exact writes_null
  | .text t => exact LogText.writes_jsonChars hv
  | .list items =>
      rw [jsonChars, shown, jsonItems_eq_map, shownItems_eq_map]
      exact writes_list (writes_items items hv)
  | .record _ fields => exact writes_record_of_fields hv.1 (writes_fields fields hv.2)

theorem writes_items (items : List Sanitized) (h : AreProper items) :
    ∀ v ∈ items, Writes v.jsonChars v.shown := by
  match items with
  | [] => rintro v ⟨⟩
  | v :: rest =>
      intro w hw
      rcases List.mem_cons.mp hw with heq | hw
      · rw [heq]
        exact writes_jsonChars v h.1
      · exact writes_items rest h.2 w hw

theorem writes_fields (fields : List (String × Sanitized)) (h : AreProperFields fields) :
    ∀ f ∈ fields, WritesField (fieldChars f) (f.1, f.2.shown) := by
  match fields with
  | [] => rintro f ⟨⟩
  | (k, v) :: rest =>
      intro f hf
      rcases List.mem_cons.mp hf with heq | hf
      · rw [heq]
        exact ⟨v.jsonChars, rfl, writes_jsonChars v h.1⟩
      · exact writes_fields rest h.2 f hf

end

end Sanitized

end AlertRelay.Log
