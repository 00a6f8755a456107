import AlertRelay.Proofs.Link.Paths

/-!
What a scrubbed link does not tell.

`isIdentifier` says which segments of a path are identifiers: those after a segment that announces
one and is no identifier itself.  Scrubbing puts the placeholder of the segment before it in the
place of each identifier and leaves the others (`getElem?_scrubSegments`).  Main statement: links
that agree apart from identifiers and from what they say about projects are scrubbed to one text,
and in a scrubbed link every segment that announces an identifier is followed by its placeholder
(`scrub?_hides_identifiers`).
-/

namespace AlertRelay.Link

open AlertRelay.Web AlertRelay.Text

/-- The segments of a path, without the slashes around it. -/
def segments (l : Location) : List (List Char) :=
  splitAt '/' (trimBy (· == '/') l.path)

/-- What stands in the place of the identifier at a place of a path, if there is one: what the
segment before it announces, unless that is an identifier itself. -/
def markAt? (segs : List (List Char)) : Nat → Option (List Char)
  | 0 => none
  | i + 1 => if (markAt? segs i).isSome then none else segs[i]?.bind placeholder?

/-- Whether the segment at a place of a path is an identifier. -/
def isIdentifier (segs : List (List Char)) (i : Nat) : Bool :=
  (markAt? segs i).isSome

section Segments

/-- Behind a segment that announces nothing, places count as in the rest of the path. -/
theorem markAt?_cons_of_none {segment : List Char} (h : placeholder? segment = none)
    (rest : List (List Char)) (i : Nat) : markAt? (segment :: rest) (i + 1) = markAt? rest i := by
  induction i with
  | zero => simpa [markAt?] using h
  | succ i ih => rw [markAt?, ih, markAt?, List.getElem?_cons_succ]

/-- Behind an identifier, places count as in the rest of the path. -/
theorem markAt?_cons_of_some {segment mark : List Char} (h : placeholder? segment = some mark)
    (next : List Char) (rest : List (List Char)) (i : Nat) :
    markAt? (segment :: next :: rest) (i + 2) = markAt? rest i := by
  induction i with
  | zero => simp [markAt?, h]
  | succ i ih => rw [markAt?, ih, markAt?, List.getElem?_cons_succ, List.getElem?_cons_succ]

/-- Identifiers are replaced, and all other segments stay. -/
theorem getElem?_scrubSegments (segs : List (List Char)) (i : Nat) :
    (scrubSegments segs)[i]? = segs[i]?.map (markAt? segs i).getD := by
  fun_induction scrubSegments segs generalizing i with
  | case1 => rfl
  | case2 last =>
      cases i with
      | zero => rfl
      | succ i => rfl
  | case3 segment next rest mark hmark ih =>
      match i with
      | 0 => rfl
      | 1 => simp [markAt?, hmark]
      | i + 2 =>
          rw [markAt?_cons_of_some hmark]
          exact ih i
  | case4 segment next rest hnone ih =>
      cases i with
      | zero => rfl
      | succ i =>
          rw [markAt?_cons_of_none hnone]
          exact ih i

theorem length_scrubSegments (segs : List (List Char)) :
    (scrubSegments segs).length = segs.length := by
  fun_induction scrubSegments segs with
  | case1 => rfl
  | case2 => rfl
  | case3 segment next rest mark _ ih => simp only [List.length_cons, ih]
  | case4 segment next rest _ ih => simp only [List.length_cons, ih]

/-- Paths that agree apart from identifiers have their identifiers at the same places. -/
theorem markAt?_congr {segs others : List (List Char)}
    (h : ∀ i, isIdentifier segs i = false → isIdentifier others i = false →
      segs[i]? = others[i]?) (i : Nat) : markAt? segs i = markAt? others i := by
  induction i with
  | zero => rfl
  | succ i ih =>
      rw [markAt?, markAt?, ← ih]
      cases hmark : markAt? segs i with
      | some mark => rfl
      | none =>
          have hplain : isIdentifier segs i = false := by rw [isIdentifier, hmark]; rfl
          have hother : isIdentifier others i = false := by rw [isIdentifier, ← ih, hmark]; rfl
          rw [h i hplain hother]

/-- Paths that agree apart from identifiers are scrubbed alike. -/
theorem scrubSegments_congr {segs others : List (List Char)}
    (hlength : segs.length = others.length)
    (h : ∀ i, isIdentifier segs i = false → isIdentifier others i = false →
      segs[i]? = others[i]?) : scrubSegments segs = scrubSegments others := by
  apply List.ext_getElem?
  intro i
  have hmarks := markAt?_congr h i
  rw [getElem?_scrubSegments, getElem?_scrubSegments, ← hmarks]
  cases hmark : markAt? segs i with
  | none =>
      have hplain : isIdentifier segs i = false := by rw [isIdentifier, hmark]; rfl
      have hother : isIdentifier others i = false := by rw [isIdentifier, ← hmarks, hmark]; rfl
      rw [h i hplain hother]
  | some mark =>
      -- Whatever the identifiers are, they are at the same place and have the same placeholder.
      by_cases hi : i < segs.length
      · rw [List.getElem?_eq_getElem hi, List.getElem?_eq_getElem (hlength ▸ hi)]
        rfl
      · rw [List.getElem?_eq_none (Nat.le_of_not_lt hi),
          List.getElem?_eq_none (hlength ▸ Nat.le_of_not_lt hi)]

/-- All placeholders. -/
theorem placeholder?_cases {segment mark : List Char} (h : placeholder? segment = some mark) :
    placeholder? mark = none ∧ '/' ∉ mark := by
  unfold placeholder? at h
  split at h
  · cases h
    decide +kernel
  · split at h
    · cases h
      decide +kernel
    · split at h
      · cases h
        decide +kernel
      · cases h

theorem placeholder?_of_markAt? {segs : List (List Char)} {i : Nat} {mark : List Char}
    (h : markAt? segs i = some mark) : placeholder? mark = none ∧ '/' ∉ mark := by
  cases i with
  | zero => cases h
  | succ i =>
      rw [markAt?] at h
      split at h
      · cases h
      · obtain ⟨segment, _, hmark⟩ := Option.bind_eq_some_iff.mp h
        exact placeholder?_cases hmark

/-- Whether every segment of a path that announces an identifier is followed by its placeholder,
if anything follows. -/
def Announced (segs : List (List Char)) : Prop :=
  ∀ i segment mark, segs[i]? = some segment → placeholder? segment = some mark →
    i + 1 < segs.length → segs[i + 1]? = some mark

/-- In a scrubbed path all identifiers are replaced, and no placeholder announces one. -/
theorem announced_scrubSegments (segs : List (List Char)) : Announced (scrubSegments segs) := by
  intro i segment mark hsegment hmark hnext
  rw [length_scrubSegments] at hnext
  rw [getElem?_scrubSegments] at hsegment ⊢
  obtain ⟨own, hown, hsame⟩ := Option.map_eq_some_iff.mp hsegment
  cases hhere : markAt? segs i with
  | some other =>
      rw [hhere, Option.getD_some] at hsame
      have hnone := (placeholder?_of_markAt? hhere).1
      rw [hsame, hmark] at hnone
      cases hnone
  | none =>
      rw [hhere, Option.getD_none] at hsame
      have hthere : markAt? segs (i + 1) = some mark := by
        rw [markAt?, hhere, hown, hsame]
        exact hmark
      rw [hthere, List.getElem?_eq_getElem hnext]
      rfl

theorem not_mem_of_mem_scrubSegments {segs : List (List Char)} (h : ∀ s ∈ segs, '/' ∉ s) :
    ∀ s ∈ scrubSegments segs, '/' ∉ s := by
  intro s hs
  obtain ⟨i, hi⟩ := List.mem_iff_getElem?.mp hs
  rw [getElem?_scrubSegments] at hi
  obtain ⟨own, hown, hsame⟩ := Option.map_eq_some_iff.mp hi
  cases hmark : markAt? segs i with
  | none =>
      rw [hmark, Option.getD_none] at hsame
      exact hsame ▸ h own (List.mem_of_getElem? hown)
  | some mark =>
      rw [hmark, Option.getD_some] at hsame
      exact hsame ▸ (placeholder?_of_markAt? hmark).2

end Segments

section Queries

/-- Whether a pair of a query is about the project. -/
def isProject (p : List Char × List Char) : Bool :=
  p.1 == "project".toList

/-- Queries that agree apart from what they say about the project: they first speak of it at the
same place, if at all, and all their other pairs are the same. -/
structure SameButProject (f g : Form) : Prop where
  place : f.findIdx? isProject = g.findIdx? isProject
  others : f.filter (!isProject ·) = g.filter (!isProject ·)

/-- What a query says about the project is replaced at the place where it says so first, and
dropped everywhere else. -/
theorem scrubQuery_eq (f : Form) : scrubQuery f =
    match f.findIdx? isProject with
    | none => f.filter (!isProject ·)
    | some i => (f.filter (!isProject ·)).insertIdx i
        ("project".toList, "\x7bproject\x7d".toList) := by
  induction f with
  | nil => rfl
  | cons p rest ih =>
      rw [List.findIdx?_cons, List.filter_cons]
      by_cases hp : p.1 = "project".toList
      · have hproject : isProject p = true := beq_iff_eq.mpr hp
        have hreplace : scrubQuery (p :: rest) =
            ("project".toList, "\x7bproject\x7d".toList) :: rest.filter (!isProject ·) := by
          rw [scrubQuery, Form.replace, if_pos hp]
          rfl
        rw [hreplace]
        simp [hproject]
      · have hproject : isProject p = false := beq_eq_false_iff_ne.mpr hp
        have hreplace : scrubQuery (p :: rest) = p :: scrubQuery rest := by
          rw [scrubQuery, Form.replace, if_neg hp]
          rfl
        rw [hreplace, ih]
        cases hplace : rest.findIdx? isProject <;> simp [hproject]

theorem SameButProject.scrubQuery_eq {f g : Form} (h : SameButProject f g) :
    scrubQuery f = scrubQuery g := by
  rw [Link.scrubQuery_eq, Link.scrubQuery_eq, h.place, h.others]

theorem hexDigit_ne_slash (n : Nat) : hexDigit n ≠ '/' := by
  have hall : ∀ m < 16, hexDigit m ≠ '/' := by decide +kernel
  have hmod : hexDigit (n % 16) = hexDigit n := by
    rw [hexDigit, hexDigit, Nat.mod_mod]
  exact hmod ▸ hall (n % 16) (Nat.mod_lt n (by decide))

/-- Percent encoding brings no slashes. -/
theorem mem_of_mem_percentEncode {escape : Char → Bool} {cs : List Char}
    (h : '/' ∈ percentEncode escape cs) : '/' ∈ cs ∧ escape '/' = false := by
  obtain ⟨c, hc, hmem⟩ := List.mem_flatMap.mp h
  split at hmem
  · obtain ⟨b, _, hbyte⟩ := List.mem_flatMap.mp hmem
    simp only [percentByte, List.mem_cons, List.not_mem_nil, or_false] at hbyte
    rcases hbyte with hpercent | hdigit | hdigit
    · exact absurd hpercent (by decide)
    · exact absurd hdigit.symm (hexDigit_ne_slash _)
    · exact absurd hdigit.symm (hexDigit_ne_slash _)
  · next hkept =>
      obtain rfl := List.mem_singleton.mp hmem
      simp only [Bool.or_eq_true, decide_eq_true_eq, not_or, Bool.not_eq_true] at hkept
      exact ⟨hc, hkept.2⟩

theorem not_mem_formEncode (cs : List Char) : '/' ∉ formEncode cs := by
  intro h
  obtain ⟨c, hc, hslash⟩ := List.mem_map.mp h
  split at hslash
  · exact absurd hslash (by decide)
  · rw [hslash] at hc
    exact absurd (mem_of_mem_percentEncode hc).2 (by decide)

/-- A query in form encoding has no slashes. -/
theorem not_mem_text (f : Form) : '/' ∉ Form.text f := by
  have hpair : ∀ p : List Char × List Char, '/' ∉ Form.pairText p := by
    intro p h
    rcases List.mem_append.mp h with h | h
    · exact not_mem_formEncode p.1 h
    · rcases List.mem_cons.mp h with h | h
      · exact absurd h (by decide)
      · exact not_mem_formEncode p.2 h
  fun_induction Form.text f with
  | case1 => exact List.not_mem_nil
  | case2 p => exact hpair p
  | case3 p rest hrest ih =>
      intro h
      rcases List.mem_append.mp h with h | h
      · exact hpair p h
      · rcases List.mem_cons.mp h with h | h
        · exact absurd h (by decide)
        · exact ih h

end Queries

/-- Addresses that lead to pages of one kind: their paths agree apart from identifiers, and their
queries apart from what they say about the project. -/
structure SamePage (l m : Location) : Prop where
  sameLength : (segments l).length = (segments m).length
  sameSegments : ∀ i < (segments l).length, isIdentifier (segments l) i = false →
    isIdentifier (segments m) i = false → (segments l)[i]? = (segments m)[i]?
  sameQuery : SameButProject (Form.read l.query) (Form.read m.query)

theorem SamePage.scrub_eq {l m : Location} (h : SamePage l m) : scrub l = scrub m := by
  have hsegments : scrubSegments (segments l) = scrubSegments (segments m) := by
    apply scrubSegments_congr h.sameLength
    intro i hplain hother
    by_cases hi : i < (segments l).length
    · exact h.sameSegments i hi hplain hother
    · rw [List.getElem?_eq_none (Nat.le_of_not_lt hi),
        List.getElem?_eq_none (h.sameLength ▸ Nat.le_of_not_lt hi)]
  have hquery := h.sameQuery.scrubQuery_eq
  change joinSlash (scrubSegments (segments l)) ++ '/' :: (scrubQuery (Form.read l.query)).text =
    joinSlash (scrubSegments (segments m)) ++ '/' :: (scrubQuery (Form.read m.query)).text
  rw [hsegments, hquery]

/-- A scrubbed link consists of a path, all of whose identifiers are replaced, and of a query. -/
theorem exists_path_of_scrub (l : Location) :
    ∃ path query, scrub l = path ++ '/' :: query ∧ '/' ∉ query ∧
      Announced (splitAt '/' path) := by
  refine ⟨joinSlash (scrubSegments (segments l)), (scrubQuery (Form.read l.query)).text, rfl,
    not_mem_text _, ?_⟩
  have hne : scrubSegments (segments l) ≠ [] := by
    intro hnil
    have hlength := length_scrubSegments (segments l)
    rw [hnil, List.length_nil, eq_comm, List.length_eq_zero_iff] at hlength
    exact splitAt_ne_nil '/' _ hlength
  rw [splitAt_joinSlash hne (not_mem_of_mem_scrubSegments fun s hs => not_mem_of_mem_splitAt hs)]
  exact announced_scrubSegments (segments l)

/-- Addresses that lead to pages of one kind are scrubbed to one link, whoever serves them, and in a
scrubbed link every segment that announces an identifier is followed by its placeholder. -/
theorem scrub?_hides_identifiers :
    (∀ (u v : String) (l m : Location), Location.read? u.toList = some l →
      Location.read? v.toList = some m → SamePage l m →
      ∃ link, scrub? u = some link ∧ scrub? v = some link) ∧
    ∀ u link : String, scrub? u = some link →
      ∃ path query, link.toList = path ++ '/' :: query ∧ '/' ∉ query ∧
        Announced (splitAt '/' path) := by
  constructor
  · intro u v l m hl hm hsame
    refine ⟨String.ofList (scrub l), ?_, ?_⟩
    · rw [scrub?, hl]
      rfl
    · rw [scrub?, hm, hsame.scrub_eq]
      rfl
  · intro u link hlink
    obtain ⟨l, _, hl⟩ := Option.map_eq_some_iff.mp hlink
    rw [← hl, String.toList_ofList]
    exact exists_path_of_scrub l

/-- An organization that is called "issues", and an issue that is called "events". -/
def trickyAddress : String :=
  "https://ann:pw@one.example:8080//organizations/issues/issues/events/?project=1&x=2&project=3#top"

def plainAddress : String :=
  "http://two.example/organizations/acme/issues/42?project=9&x=2"

/-- Both addresses become one link, and its path consists of words and placeholders. -/
theorem trickyAddress_hidden :
    SamePage ⟨"//organizations/issues/issues/events/".toList, "project=1&x=2&project=3".toList⟩
        ⟨"/organizations/acme/issues/42".toList, "project=9&x=2".toList⟩ ∧
      (∃ link, scrub? trickyAddress = some link ∧ scrub? plainAddress = some link) ∧
      ∃ path query, "organizations/\x7borganization\x7d/issues/\x7bissue_id\x7d/".toList ++
          "project=%7Bproject%7D&x=2".toList = path ++ '/' :: query ∧ '/' ∉ query ∧
        Announced (splitAt '/' path) := by
  have hsame : SamePage
      ⟨"//organizations/issues/issues/events/".toList, "project=1&x=2&project=3".toList⟩
      ⟨"/organizations/acme/issues/42".toList, "project=9&x=2".toList⟩ := by
    refine ⟨?_, ?_, ⟨?_, ?_⟩⟩ <;> decide +kernel
  refine ⟨hsame, ?_, ?_⟩
  · apply scrub?_hides_identifiers.1 trickyAddress plainAddress _ _ _ _ hsame
    · decide +kernel
    · decide +kernel
  · have hlink : scrub? trickyAddress =
        some ("organizations/\x7borganization\x7d/issues/\x7bissue_id\x7d/" ++
          "project=%7Bproject%7D&x=2") := by
      decide +kernel
    obtain ⟨path, query, hparts⟩ := scrub?_hides_identifiers.2 _ _ hlink
    rw [String.toList_append] at hparts
    exact ⟨path, query, hparts⟩

end AlertRelay.Link
