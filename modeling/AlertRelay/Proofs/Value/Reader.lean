import AlertRelay.Proofs.Number.Written
import AlertRelay.Proofs.Value.Quoted

/-!
JSON texts and the values that they are read as.

`Writes text v` says that a text in front of anything that does not go on with it is read as a
value, with as much room as the text has characters.  The texts of the simple values are of this
kind, and so are those of lists and records, if the texts of their parts are (`writes_list`,
`writes_record`).  A whole text is then read as its value (`Value.ofJsonChars?_of_writes`).
-/

namespace AlertRelay

namespace Json

open AlertRelay.Numeral AlertRelay.Text

/-- Whether a text without control characters is read as a value from the front of others. -/
structure Writes (text : List Char) (v : Value) : Prop where
  visible : ∀ c ∈ text, 0x20 ≤ c.toNat
  starts : ∃ c cs, text = c :: cs ∧ isSpace c = false ∧ c ≠ ']' ∧ c ≠ '\x7d'
  reads : ∀ {room : Nat} {rest : List Char}, text.length ≤ room → Ends rest →
    readValue? room (text ++ rest) = some (v, rest)

theorem skipSpace_of_head {c : Char} (hc : isSpace c = false) (cs : List Char) :
    skipSpace (c :: cs) = c :: cs :=
  List.dropWhile_cons_of_neg (Bool.eq_false_iff.mp hc)

theorem ends_cons {c : Char} (h : isDigit c = false ∧ c ≠ '.' ∧ c ≠ 'e' ∧ c ≠ 'E')
    (rest : List Char) : Ends (c :: rest) := by
  rintro d ⟨⟩
  exact h

/-- A value that is no text and no container is a number or one of three names. -/
theorem readValue?_of_head {c : Char} (hspace : isSpace c = false)
    (hplain : c ∉ ['\x22', '[', '\x7b']) (room : Nat) (cs : List Char) :
    readValue? (room + 1) (c :: cs) =
      if c = '-' ∨ isDigit c then
        (readNumber? (c :: cs)).map fun (n, rest) => (.number n, rest)
      else readName? (c :: cs) := by
  rw [readValue?, skipSpace_of_head hspace]
  split
  · next heq =>
      cases heq
      exact absurd hplain (by decide)
  · next heq =>
      cases heq
      exact absurd hplain (by decide)
  · next heq =>
      cases heq
      exact absurd hplain (by decide)
  · next heq =>
      cases heq
      rfl
  · next heq => cases heq

section Simple

/-- A name is read as the value that it stands for. -/
theorem writes_name {c : Char} {cs : List Char} {v : Value} (hspace : isSpace c = false)
    (hplain : c ∉ ['\x22', '[', '\x7b']) (hclose : c ≠ ']' ∧ c ≠ '\x7d')
    (hnumber : ¬ (c = '-' ∨ isDigit c = true)) (hvisible : ∀ d ∈ c :: cs, 0x20 ≤ d.toNat)
    (hread : ∀ rest, readName? (c :: cs ++ rest) = some (v, rest)) : Writes (c :: cs) v := by
  refine ⟨hvisible, ⟨c, cs, rfl, hspace, hclose⟩, ?_⟩
  intro room rest hroom _
  obtain ⟨room, rfl⟩ := Nat.exists_eq_add_one.mpr (Nat.lt_of_lt_of_le (Nat.succ_pos _) hroom)
  rw [List.cons_append, readValue?_of_head hspace hplain, if_neg hnumber, ← List.cons_append,
    hread]

theorem writes_null : Writes "null".toList .null :=
  writes_name (by decide) (by decide) (by decide) (by decide) (forall_mem_of_all (by decide))
    fun _ => rfl

theorem writes_bool (b : Bool) : Writes (if b then "true" else "false").toList (.bool b) := by
  cases b with
  | false =>
      exact writes_name (by decide) (by decide) (by decide) (by decide)
        (forall_mem_of_all (by decide)) fun _ => rfl
  | true =>
      exact writes_name (by decide) (by decide) (by decide) (by decide)
        (forall_mem_of_all (by decide)) fun _ => rfl

/-- A number begins like no other value. -/
theorem head_of_number {c : Char} (hc : c = '-' ∨ isDigit c = true) :
    isSpace c = false ∧ c ∉ ['\x22', '[', '\x7b'] ∧ c ≠ ']' ∧ c ≠ '\x7d' := by
  rcases hc with rfl | hc
  · decide
  · have hother : ∀ d ∈ " \t\n\r\x22[\x7b]\x7d".toList, isDigit d = false :=
      forall_mem_of_all (by decide)
    have hne : ∀ d ∈ " \t\n\r\x22[\x7b]\x7d".toList, c ≠ d := by
      rintro d hd rfl
      rw [hother c hd] at hc
      cases hc
    refine ⟨?_, ?_, hne ']' (by decide), hne '\x7d' (by decide)⟩
    · simp only [isSpace, Bool.or_eq_false_iff, beq_eq_false_iff_ne]
      exact ⟨⟨⟨hne ' ' (by decide), hne '\t' (by decide)⟩, hne '\n' (by decide)⟩,
        hne '\r' (by decide)⟩
    · simp only [List.mem_cons, List.not_mem_nil, or_false, not_or]
      exact ⟨hne '\x22' (by decide), hne '[' (by decide), hne '\x7b' (by decide)⟩

theorem writes_number {x : Double} (hx : x.isExact = true) : Writes x.text.toList (.number x) := by
  have hnothing : Ends [] := by rintro c ⟨⟩
  obtain ⟨-, c, cs, hchars, hc⟩ := readNumber?_text hx hnothing
  obtain ⟨hspace, hplain, hclose⟩ := head_of_number hc
  refine ⟨Double.visible_text hx, ⟨c, cs, hchars, hspace, hclose⟩, ?_⟩
  intro room rest hroom hrest
  rw [hchars] at hroom
  obtain ⟨room, rfl⟩ := Nat.exists_eq_add_one.mpr (Nat.lt_of_lt_of_le (Nat.succ_pos _) hroom)
  have hread := (readNumber?_text hx hrest).1
  rw [hchars, List.cons_append] at hread ⊢
  rw [readValue?_of_head hspace hplain, if_pos hc, hread, Option.map_some]

/-- What stands between quotation marks is read as a text. -/
theorem writes_quoted {body : List Char} {cs : List Char}
    (hvisible : ∀ c ∈ body, 0x20 ≤ c.toNat)
    (hread : ∀ rest, readQuoted? [] (body ++ '\x22' :: rest) = some (cs, rest)) :
    Writes ('\x22' :: (body ++ ['\x22'])) (.text (String.ofList cs)) := by
  have hmarks : ∀ c ∈ '\x22' :: (body ++ ['\x22']), 0x20 ≤ c.toNat := by
    intro c hc
    simp only [List.mem_cons, List.mem_append, List.not_mem_nil, or_false] at hc
    rcases hc with rfl | hc | rfl
    · decide
    · exact hvisible c hc
    · decide
  refine ⟨hmarks, ⟨'\x22', _, rfl, by decide, by decide, by decide⟩, ?_⟩
  intro room rest hroom _
  obtain ⟨room, rfl⟩ := Nat.exists_eq_add_one.mpr (Nat.lt_of_lt_of_le (Nat.succ_pos _) hroom)
  have hbody := hread rest
  rw [readValue?, List.cons_append, skipSpace_of_head (by decide)]
  simp only [List.append_assoc, List.singleton_append, hbody, Option.map_some]

/-- A text between quotation marks is read as that text. -/
theorem writes_text (cs : List Char) : Writes (quoted cs) (.text (String.ofList cs)) :=
  writes_quoted (visible_flatMap cs) fun rest => readQuoted?_quoted cs rest

end Simple

section Containers

open AlertRelay.Value

theorem ends_comma (rest : List Char) : Ends (',' :: rest) :=
  ends_cons (by decide) rest

theorem withCommas_cons_cons (first second : List Char) (rest : List (List Char)) :
    withCommas (first :: second :: rest) = first ++ ',' :: withCommas (second :: rest) :=
  rfl

theorem exists_withCommas_eq (first : List Char) (rest : List (List Char)) :
    ∃ tail, withCommas (first :: rest) = first ++ tail := by
  cases rest with
  | nil => exact ⟨[], (List.append_nil first).symm⟩
  | cons second rest => exact ⟨',' :: withCommas (second :: rest), rfl⟩

theorem visible_withCommas {texts : List (List Char)} (h : ∀ t ∈ texts, ∀ c ∈ t, 0x20 ≤ c.toNat) :
    ∀ c ∈ withCommas texts, 0x20 ≤ c.toNat := by
  induction texts with
  | nil => rintro c ⟨⟩
  | cons first rest ih =>
      cases rest with
      | nil => exact h first List.mem_cons_self
      | cons second rest =>
          intro c hc
          rw [withCommas_cons_cons, List.mem_append, List.mem_cons] at hc
          rcases hc with hc | rfl | hc
          · exact h first List.mem_cons_self c hc
          · decide
          · exact ih (fun t ht => h t (List.mem_cons_of_mem first ht)) c hc

/-- Texts between brackets write a value, if they are read as one up to the closing bracket. -/
theorem writes_between {before behind : Char} (hbefore : 0x20 ≤ before.toNat)
    (hbehind : 0x20 ≤ behind.toNat)
    (hstart : isSpace before = false ∧ before ≠ ']' ∧ before ≠ '\x7d')
    {texts : List (List Char)} (htexts : ∀ t ∈ texts, ∀ c ∈ t, 0x20 ≤ c.toNat) {v : Value}
    (hread : ∀ (room : Nat) (rest : List Char), (withCommas texts).length < room →
      readValue? (room + 1) (before :: (withCommas texts ++ behind :: rest)) = some (v, rest)) :
    Writes (before :: withCommas texts ++ [behind]) v := by
  have hvisible : ∀ c ∈ before :: withCommas texts ++ [behind], 0x20 ≤ c.toNat := by
    intro c hc
    simp only [List.cons_append, List.mem_cons, List.mem_append, List.not_mem_nil, or_false] at hc
    rcases hc with rfl | hc | rfl
    · exact hbefore
    · exact visible_withCommas htexts c hc
    · exact hbehind
  refine ⟨hvisible, ⟨before, _, rfl, hstart⟩, ?_⟩
  intro room rest hroom _
  simp only [List.length_append, List.length_cons, List.length_nil] at hroom
  obtain ⟨room, rfl⟩ : ∃ r, room = r + 1 := Nat.exists_eq_add_one.mpr (by omega)
  rw [List.append_assoc, List.singleton_append, List.cons_append]
  exact hread room rest (by omega)

variable {α : Type} {text : α → List Char}

section Lists

variable {value : α → Value}

/-- An item is read and kept; the list ends there, or goes on. -/
theorem readItems?_item {item : List Char} {v : Value} (h : Writes item v) {room : Nat}
    (hroom : item.length ≤ room) (done : List Value) (rest : List Char) :
    readItems? (room + 1) done (item ++ ']' :: rest) = some ((v :: done).reverse, rest) ∧
      readItems? (room + 1) done (item ++ ',' :: rest) = readItems? room (v :: done) rest := by
  constructor
  · rw [readItems?, h.reads hroom (ends_cons (by decide) rest)]
    rfl
  · rw [readItems?, h.reads hroom (ends_comma rest)]
    rfl

/-- Items are read up to the closing bracket. -/
theorem readItems?_withCommas {xs : List α} (h : ∀ x ∈ xs, Writes (text x) (value x))
    (hne : xs ≠ []) {room : Nat} (hroom : (withCommas (xs.map text)).length < room)
    (done : List Value) (rest : List Char) :
    readItems? room done (withCommas (xs.map text) ++ ']' :: rest) =
      some (done.reverse ++ xs.map value, rest) := by
  induction xs generalizing room done with
  | nil => exact absurd rfl hne
  | cons x xs ih =>
      obtain ⟨room, rfl⟩ := Nat.exists_eq_add_one.mpr (Nat.zero_lt_of_lt hroom)
      have hfirst := h x List.mem_cons_self
      cases xs with
      | nil =>
          have hitem := (readItems?_item hfirst (Nat.le_of_lt_succ hroom) done rest).1
          rwa [List.reverse_cons] at hitem
      | cons y xs =>
          rw [List.map_cons, List.map_cons, withCommas_cons_cons, List.length_append,
            List.length_cons] at hroom
          have hmore := ih (fun z hz => h z (List.mem_cons_of_mem x hz)) (List.cons_ne_nil y xs)
            (show (withCommas ((y :: xs).map text)).length < room by
              rw [List.map_cons]
              omega) (value x :: done)
          rw [List.map_cons, List.map_cons, withCommas_cons_cons, List.append_assoc,
            List.cons_append, (readItems?_item hfirst (by omega) done _).2, ← List.map_cons, hmore,
            List.reverse_cons, List.append_assoc]
          rfl

theorem readValue?_list {c : Char} (hspace : isSpace c = false) (hc : c ≠ ']') (room : Nat)
    (cs : List Char) :
    readValue? (room + 1) ('[' :: c :: cs) =
      (readItems? room [] (c :: cs)).map fun (xs, rest) => (.list none xs, rest) := by
  rw [readValue?, skipSpace_of_head (by decide)]
  simp only [skipSpace_of_head hspace]
  split
  · next heq =>
      cases heq
      exact absurd rfl hc
  · rfl

/-- Texts between brackets are read as a list, if they are read one by one. -/
theorem writes_list {xs : List α} (h : ∀ x ∈ xs, Writes (text x) (value x)) :
    Writes ('[' :: withCommas (xs.map text) ++ [']']) (.list none (xs.map value)) := by
  have htexts : ∀ t ∈ xs.map text, ∀ c ∈ t, 0x20 ≤ c.toNat :=
    List.forall_mem_map.mpr fun x hx => (h x hx).visible
  apply writes_between (by decide) (by decide) (by decide) htexts
  intro room rest hlength
  cases xs with
  | nil => rfl
  | cons x xs =>
      have hitems := readItems?_withCommas h (List.cons_ne_nil x xs) hlength [] rest
      obtain ⟨c, cs, hchars, hspace, hc, -⟩ := (h x List.mem_cons_self).starts
      obtain ⟨tail, htail⟩ : ∃ tail, withCommas ((x :: xs).map text) = text x ++ tail :=
        exists_withCommas_eq (text x) (xs.map text)
      rw [htail, hchars, List.cons_append, List.cons_append] at hitems ⊢
      rw [readValue?_list hspace hc, hitems]
      rfl

end Lists

section Records

variable {field : α → String × Value}

/-- Whether a text is read as a field: its name, a colon, and its value. -/
def WritesField (part : List Char) (f : String × Value) : Prop :=
  ∃ body, part = quoted f.1.toList ++ ':' :: body ∧ Writes body f.2

theorem WritesField.visible {part : List Char} {f : String × Value} (h : WritesField part f) :
    ∀ c ∈ part, 0x20 ≤ c.toNat := by
  obtain ⟨body, rfl, hbody⟩ := h
  intro c hc
  rw [List.mem_append, List.mem_cons] at hc
  rcases hc with hc | rfl | hc
  · exact visible_quoted f.1.toList c hc
  · decide
  · exact hbody.visible c hc

/-- A field is read and put to those before it, up to a character that is no part of it. -/
theorem readFields?_upTo {part : List Char} {f : String × Value} (h : WritesField part f)
    {room : Nat} (hroom : part.length ≤ room) (done : List (String × Value)) {c : Char}
    (hspace : isSpace c = false) {rest : List Char} (hends : Ends (c :: rest)) :
    readFields? (room + 1) done (part ++ c :: rest) =
      if c = ',' then readFields? room (Assoc.put f.1 f.2 done) rest
      else if c = '\x7d' then some (Assoc.put f.1 f.2 done, rest)
      else none := by
  obtain ⟨body, rfl, hbody⟩ := h
  rw [List.length_append, List.length_cons] at hroom
  have hname := readQuoted?_quoted f.1.toList (':' :: (body ++ c :: rest))
  have hvalue : readValue? room (body ++ c :: rest) = some (f.2, c :: rest) :=
    hbody.reads (by omega) hends
  have hcolon : isSpace ':' = false := by decide
  rw [readFields?, quoted]
  simp only [List.cons_append, List.append_assoc, List.nil_append]
  rw [skipSpace_of_head (by decide)]
  simp only [hname, skipSpace_of_head hcolon, hvalue, skipSpace_of_head hspace,
    String.ofList_toList]
  split
  · next heq =>
      cases heq
      rfl
  · next heq =>
      cases heq
      rfl
  · next hcomma hbrace =>
      rw [if_neg, if_neg]
      · rintro rfl
        exact hbrace rest rfl
      · rintro rfl
        exact hcomma rest rfl

/-- Behind a field the record ends, or goes on. -/
theorem readFields?_field {part : List Char} {f : String × Value} (h : WritesField part f)
    {room : Nat} (hroom : part.length ≤ room) (done : List (String × Value)) (rest : List Char) :
    readFields? (room + 1) done (part ++ '\x7d' :: rest) =
        some (Assoc.put f.1 f.2 done, rest) ∧
      readFields? (room + 1) done (part ++ ',' :: rest) =
        readFields? room (Assoc.put f.1 f.2 done) rest := by
  constructor
  · rw [readFields?_upTo h hroom done (by decide) (ends_cons (by decide) rest),
      if_neg (by decide), if_pos rfl]
  · rw [readFields?_upTo h hroom done (by decide) (ends_comma rest), if_pos rfl]

/-- Fields are read up to the closing brace. -/
theorem readFields?_withCommas {xs : List α} (h : ∀ x ∈ xs, WritesField (text x) (field x))
    (hne : xs ≠ []) {room : Nat} (hroom : (withCommas (xs.map text)).length < room)
    (done : List (String × Value)) (rest : List Char) :
    readFields? room done (withCommas (xs.map text) ++ '\x7d' :: rest) =
      some ((xs.map field).foldl (fun done f => Assoc.put f.1 f.2 done) done, rest) := by
  induction xs generalizing room done with
  | nil => exact absurd rfl hne
  | cons x xs ih =>
      obtain ⟨room, rfl⟩ := Nat.exists_eq_add_one.mpr (Nat.zero_lt_of_lt hroom)
      have hfirst := h x List.mem_cons_self
      cases xs with
      | nil => exact (readFields?_field hfirst (Nat.le_of_lt_succ hroom) done rest).1
      | cons y xs =>
          rw [List.map_cons, List.map_cons, withCommas_cons_cons, List.length_append,
            List.length_cons] at hroom
          have hmore := ih (fun z hz => h z (List.mem_cons_of_mem x hz)) (List.cons_ne_nil y xs)
            (show (withCommas ((y :: xs).map text)).length < room by
              rw [List.map_cons]
              omega) (Assoc.put (field x).1 (field x).2 done)
          rw [List.map_cons, List.map_cons, withCommas_cons_cons, List.append_assoc,
            List.cons_append, (readFields?_field hfirst (by omega) done _).2, ← List.map_cons,
            hmore]
          rfl

theorem readValue?_record {c : Char} (hspace : isSpace c = false) (hc : c ≠ '\x7d') (room : Nat)
    (cs : List Char) :
    readValue? (room + 1) ('\x7b' :: c :: cs) =
      (readFields? room [] (c :: cs)).map fun (fs, rest) =>
        (.record none (listedFields fs), rest) := by
  rw [readValue?, skipSpace_of_head (by decide)]
  simp only [skipSpace_of_head hspace]
  split
  · next heq =>
      cases heq
      exact absurd rfl hc
  · rfl

/-- Texts of fields between braces are read as a record, if they are read one by one and no name
stands twice. -/
theorem writes_record {xs : List α} (h : ∀ x ∈ xs, WritesField (text x) (field x))
    (hnames : (Assoc.names (xs.map field)).Nodup) :
    Writes ('\x7b' :: withCommas (xs.map text) ++ ['\x7d'])
      (.record none (listedFields (xs.map field))) := by
  have htexts : ∀ t ∈ xs.map text, ∀ c ∈ t, 0x20 ≤ c.toNat :=
    List.forall_mem_map.mpr fun x hx => (h x hx).visible
  apply writes_between (by decide) (by decide) (by decide) htexts
  intro room rest hlength
  cases xs with
  | nil => rfl
  | cons x xs =>
      have hfields := readFields?_withCommas h (List.cons_ne_nil x xs) hlength [] rest
      have hput := Assoc.foldl_put (a := []) (l := (x :: xs).map field) hnames
      obtain ⟨body, hbody, -⟩ := h x List.mem_cons_self
      obtain ⟨tail, htail⟩ : ∃ tail, withCommas ((x :: xs).map text) = text x ++ tail :=
        exists_withCommas_eq (text x) (xs.map text)
      rw [hput, htail, hbody, quoted, List.cons_append, List.cons_append, List.cons_append,
        List.cons_append] at hfields
      rw [htail, hbody, quoted, List.cons_append, List.cons_append, List.cons_append,
        List.cons_append, readValue?_record (by decide) (by decide), hfields]
      rfl

end Records

end Containers

end Json

/-- A whole text is read as its value. -/
theorem Value.ofJsonChars?_of_writes {text : List Char} {v : Value} (h : Json.Writes text v) :
    Value.ofJsonChars? text = some v := by
  have hnothing : Numeral.Ends [] := by rintro c ⟨⟩
  have hread := h.reads (Nat.le_succ text.length) hnothing
  rw [List.append_nil] at hread
  rw [Value.ofJsonChars?, hread]
  rfl

end AlertRelay
