import AlertRelay.Attachment.IssueAttachment
import AlertRelay.Proofs.Link.Hiding
import AlertRelay.Proofs.Text.Letters
import AlertRelay.Proofs.Text.Runs

/-!
Addresses of pages, and the links they are scrubbed to.

An address of a site is a web scheme and a host that the reader of addresses accepts.  Below such
an address a path of plain segments is read as it is written, but for its percent encoding
(`read?_below_site`).  The addresses of issues and events are of this kind; main statement: they
are scrubbed to one link for all issues, and to another one for all events
(`scrub?_issueUrl`).
-/

namespace AlertRelay.Link

open AlertRelay.Web AlertRelay.Text AlertRelay.Attachment

/-- Whether a text is the address of a site: a web scheme and a host, perhaps with a port, that is
accepted with the root path behind it. -/
def IsSite (base : List Char) : Prop :=
  ∃ scheme host : List Char,
    scheme.map Char.toLower ∈ ["http".toList, "https".toList] ∧
      base = scheme ++ ("://".toList ++ host) ∧ (∀ c ∈ host, c ∉ "/\\?#@".toList) ∧
      (Location.read? (base ++ ['/'])).isSome = true

/-- The characters of slugs and identities: letters, digits, underscores and hyphens, and whatever
does not belong to ASCII. -/
def isSlugChar (c : Char) : Bool :=
  c.isAlphanum || c == '_' || c == '-' || !isAscii c

/-- Whether a text is a slug. -/
def IsSlug (cs : List Char) : Prop :=
  cs ≠ [] ∧ ∀ c ∈ cs, isSlugChar c = true

section Reading

/-- How paths of ordinary web addresses are read. -/
def webRule : PathRule := ⟨true, false⟩

/-- Whether a character stays where it is when an address is read, and separates nothing. -/
def IsPlain (c : Char) : Prop :=
  0x20 < c.toNat ∧ c ∉ "\\?#".toList

/-- The text without tabs and line ends. -/
def withoutLineEnds (cs : List Char) : List Char :=
  cs.filter fun c => c != '\t' && c != '\n' && c != '\r'

theorem withoutLineEnds_append (cs ds : List Char) :
    withoutLineEnds (cs ++ ds) = withoutLineEnds cs ++ withoutLineEnds ds :=
  List.filter_append cs ds

theorem withoutLineEnds_of_visible {cs : List Char} (h : ∀ c ∈ cs, 0x20 < c.toNat) :
    withoutLineEnds cs = cs := by
  apply List.filter_eq_self.mpr
  intro c hc
  have hcode := h c hc
  simp only [Bool.and_eq_true, bne_iff_ne, ne_eq]
  refine ⟨⟨?_, ?_⟩, ?_⟩ <;> rintro rfl <;> exact absurd hcode (by decide)

/-- Nothing around a text is dropped if it begins and ends with visible characters. -/
theorem cleanAddress_of_ends {cs : List Char} (hhead : ∀ c ∈ cs.head?, 0x20 < c.toNat)
    (hlast : ∀ c ∈ cs.getLast?, 0x20 < c.toNat) : cleanAddress cs = withoutLineEnds cs := by
  rw [cleanAddress, trimBy_of_ends]
  · rfl
  · intro c hc
    exact decide_eq_false (Nat.not_le_of_lt (hhead c hc))
  · intro c hc
    exact decide_eq_false (Nat.not_le_of_lt (hlast c hc))

variable {scheme host : List Char}

theorem isAlpha_of_scheme (h : scheme.map Char.toLower ∈ ["http".toList, "https".toList]) :
    ∀ c ∈ scheme, c.isAlpha = true := by
  intro c hc
  have hlower : c.toLower ∈ scheme.map Char.toLower := List.mem_map_of_mem hc
  have hletters : ∀ word ∈ ["http".toList, "https".toList], word.all Char.isAlpha = true := by
    decide
  exact isAlpha_of_toLower (List.all_eq_true.mp (hletters _ h) _ hlower)

theorem visible_of_isAlpha {c : Char} (h : c.isAlpha = true) : 65 ≤ c.toNat ∧ c.toNat ≤ 122 := by
  rw [isAlpha_iff, isUpper_iff, isLower_iff] at h
  omega

/-- A web scheme and what follows it. -/
theorem splitScheme?_web (h : scheme.map Char.toLower ∈ ["http".toList, "https".toList])
    (rest : List Char) :
    splitScheme? (scheme ++ ':' :: rest) =
      some (String.ofList (scheme.map Char.toLower), rest) := by
  have halpha := isAlpha_of_scheme h
  obtain ⟨c, cs, rfl⟩ : ∃ c cs, scheme = c :: cs := by
    cases scheme with
    | nil => exact absurd h (by decide)
    | cons c cs => exact ⟨c, cs, rfl⟩
  have hpart : ∀ d ∈ c :: cs, (d.isAlphanum || d == '+' || d == '-' || d == '.') = true := by
    intro d hd
    have hd := halpha d hd
    rw [isAlpha_iff] at hd
    rw [isAlphanum_iff.mpr (Or.inl hd)]
    rfl
  have hstop : ∀ d ∈ (':' :: rest).head?,
      (d.isAlphanum || d == '+' || d == '-' || d == '.') = false := by
    rintro d ⟨⟩
    decide
  have htake := takeWhile_run hpart hstop
  have hdrop := dropWhile_run hpart hstop
  have hname : (String.ofList (c :: cs)).toLower = String.ofList ((c :: cs).map Char.toLower) := by
    change (String.ofList (c :: cs)).map Char.toLower = _
    rw [String.map_eq_internal, String.toList_ofList]
  unfold splitScheme?
  simp only [List.cons_append] at htake hdrop ⊢
  simp only [htake, hdrop, halpha c List.mem_cons_self, hname]

/-- A web scheme, two slashes and a host are read as they stand; there has to be a host. -/
theorem readTarget?_web (h : scheme.map Char.toLower ∈ ["http".toList, "https".toList])
    (host path : List Char) :
    readTarget? (scheme ++ ("://".toList ++ (host ++ '/' :: path))) =
      (readAuthority? webRule ((host ++ '/' :: path).dropWhile (isSlash true))).map (·, true) := by
  have hsplit := splitScheme?_web h ("//".toList ++ (host ++ '/' :: path))
  have hslashes : (("//".toList ++ (host ++ '/' :: path)).dropWhile (isSlash true)) =
      (host ++ '/' :: path).dropWhile (isSlash true) := rfl
  have hbehind : (dropBeginning? "//".toList ("//".toList ++ (host ++ '/' :: path))).isSome =
      true := by
    rw [dropBeginning?_eq_some_iff.mpr rfl]
    rfl
  have hfile : String.ofList (scheme.map Char.toLower) ≠ "file" := by
    simp only [List.mem_cons, List.not_mem_nil, or_false] at h
    rcases h with h | h <;> rw [h] <;> decide
  have hspecial : specialSchemes.contains (String.ofList (scheme.map Char.toLower)) = true := by
    simp only [List.mem_cons, List.not_mem_nil, or_false] at h
    rcases h with h | h <;> rw [h] <;> decide
  change readTarget? (scheme ++ ':' :: ("//".toList ++ (host ++ '/' :: path))) = _
  simp only [readTarget?, hsplit, if_neg hfile, hspecial, if_true, hbehind, Bool.not_true,
    Bool.and_false, Bool.false_eq_true, if_false, hslashes]
  rfl

theorem not_isSlash (hhost : ∀ c ∈ host, c ≠ '/' ∧ c ≠ '\\') :
    ∀ c ∈ host, (!isSlash true c) = true := by
  intro c hc
  obtain ⟨hslash, hback⟩ := hhost c hc
  simp [isSlash, hslash, hback]

theorem readAuthority?_host (hhost : ∀ c ∈ host, c ≠ '/' ∧ c ≠ '\\') (path : List Char) :
    readAuthority? webRule (host ++ '/' :: path) =
      if isAuthority true host then some (readPath webRule path) else none := by
  have hstop : ∀ c ∈ ('/' :: path).head?, (!isSlash webRule.special c) = false := by
    rintro c ⟨⟩
    rfl
  have htake := takeWhile_run (p := (!isSlash webRule.special ·)) (not_isSlash hhost) hstop
  have hdrop := dropWhile_run (p := (!isSlash webRule.special ·)) (not_isSlash hhost) hstop
  simp only [readAuthority?, htake, hdrop]
  rfl

/-- An address below a site, without what is around it and without line ends. -/
theorem cleanAddress_site (h : scheme.map Char.toLower ∈ ["http".toList, "https".toList])
    {tail : List Char} (htail : ∀ c ∈ tail, 0x20 < c.toNat) :
    cleanAddress (scheme ++ ("://".toList ++ host) ++ '/' :: tail) =
      scheme ++ ("://".toList ++ (withoutLineEnds host ++ '/' :: tail)) := by
  have hscheme : ∀ c ∈ scheme, 0x20 < c.toNat := by
    intro c hc
    have := visible_of_isAlpha (isAlpha_of_scheme h c hc)
    omega
  have hslash : ∀ c ∈ '/' :: tail, 0x20 < c.toNat := by
    intro c hc
    rcases List.mem_cons.mp hc with rfl | hc
    · decide
    · exact htail c hc
  rw [cleanAddress_of_ends]
  · rw [withoutLineEnds_append, withoutLineEnds_append, withoutLineEnds_append,
      withoutLineEnds_of_visible hscheme, withoutLineEnds_of_visible hslash, List.append_assoc,
      List.append_assoc]
    rfl
  · cases scheme with
    | nil => exact absurd h (by decide)
    | cons c scheme =>
        rintro d ⟨⟩
        exact hscheme c List.mem_cons_self
  · have hlast : ('/' :: tail).getLast? = some (('/' :: tail).getLast (List.cons_ne_nil _ _)) :=
      List.getLast?_eq_some_getLast _
    rw [List.getLast?_append, hlast, Option.some_or]
    rintro c ⟨⟩
    exact hslash _ (List.getLast_mem _)

/-- A cleaned address is read up to its query, and the query by itself. -/
theorem read?_of_clean {address target behind : List Char}
    (hclean : cleanAddress address = target ++ behind)
    (htarget : ∀ c ∈ target, c ≠ '?' ∧ c ≠ '#') (hhead : ∀ c ∈ behind.head?, c = '?')
    (hbehind : ∀ c ∈ behind, c ≠ '#') :
    Location.read? address = (readTarget? target).map fun (path, special) =>
      ⟨path, percentEncode (escapedInQuery special) (behind.drop 1)⟩ := by
  have hfragment : (target ++ behind).takeWhile (· != '#') = target ++ behind := by
    have hall : ∀ c ∈ target ++ behind, (c != '#') = true := by
      intro c hc
      rcases List.mem_append.mp hc with hc | hc
      · exact bne_iff_ne.mpr (htarget c hc).2
      · exact bne_iff_ne.mpr (hbehind c hc)
    have hend : ∀ c ∈ ([] : List Char).head?, (c != '#') = false := by
      rintro c ⟨⟩
    have hrun := takeWhile_run hall hend
    rwa [List.append_nil] at hrun
  have hrun : ∀ c ∈ target, (c != '?') = true := fun c hc => bne_iff_ne.mpr (htarget c hc).1
  have hstop : ∀ c ∈ behind.head?, (c != '?') = false := by
    intro c hc
    rw [hhead c hc]
    rfl
  simp only [Location.read?, hclean, hfragment, takeWhile_run hrun hstop,
    dropWhile_run hrun hstop]

theorem mem_target (h : scheme.map Char.toLower ∈ ["http".toList, "https".toList])
    (hhost : ∀ c ∈ host, c ∉ "/\\?#@".toList) {path : List Char} (hpath : ∀ c ∈ path, IsPlain c) :
    ∀ c ∈ scheme ++ ("://".toList ++ (withoutLineEnds host ++ '/' :: path)), c ≠ '?' ∧ c ≠ '#' := by
  have hseparators : ∀ c ∈ "://".toList, c ≠ '?' ∧ c ≠ '#' := forall_mem_of_all (by decide)
  intro c hc
  simp only [List.mem_append, List.mem_cons] at hc
  rcases hc with hc | hc | hc | rfl | hc
  · have hcode := visible_of_isAlpha (isAlpha_of_scheme h c hc)
    constructor <;> rintro rfl <;> exact absurd hcode (by decide)
  · exact hseparators c hc
  · have hplain := hhost c (List.mem_filter.mp hc).1
    constructor <;> rintro rfl <;> exact hplain (by decide)
  · decide
  · have hplain := (hpath c hc).2
    constructor <;> rintro rfl <;> exact hplain (by decide)

theorem not_slash_of_host (hhost : ∀ c ∈ host, c ∉ "/\\?#@".toList) :
    ∀ c ∈ withoutLineEnds host, c ≠ '/' ∧ c ≠ '\\' := by
  intro c hc
  have hplain := hhost c (List.mem_filter.mp hc).1
  constructor <;> rintro rfl <;> exact hplain (by decide)

/-- What is read below a site depends on whether there is a host that is accepted. -/
theorem readTarget?_site (h : scheme.map Char.toLower ∈ ["http".toList, "https".toList])
    (hhost : ∀ c ∈ host, c ≠ '/' ∧ c ≠ '\\') (hne : host ≠ []) (path : List Char) :
    readTarget? (scheme ++ ("://".toList ++ (host ++ '/' :: path))) =
      if isAuthority true host then some (readPath webRule path, true) else none := by
  obtain ⟨c, rest, rfl⟩ := List.exists_cons_of_ne_nil hne
  have hc : ¬ isSlash true c = true := by
    have hfirst := not_isSlash hhost c List.mem_cons_self
    simpa using hfirst
  rw [readTarget?_web h, List.cons_append, List.dropWhile_cons_of_neg hc, ← List.cons_append,
    readAuthority?_host hhost]
  split <;> rfl

/-- The host of a site is there, and is accepted. -/
theorem isAuthority_of_accepted (h : scheme.map Char.toLower ∈ ["http".toList, "https".toList])
    (hhost : ∀ c ∈ host, c ∉ "/\\?#@".toList)
    (haccepted : (Location.read? (scheme ++ ("://".toList ++ host) ++ ['/'])).isSome = true) :
    withoutLineEnds host ≠ [] ∧ isAuthority true (withoutLineEnds host) = true := by
  have hnothing : ∀ c ∈ ([] : List Char), 0x20 < c.toNat := by
    rintro c ⟨⟩
  have hclean : cleanAddress (scheme ++ ("://".toList ++ host) ++ ['/']) =
      scheme ++ ("://".toList ++ (withoutLineEnds host ++ ['/'])) ++ [] := by
    rw [List.append_nil]
    exact cleanAddress_site h hnothing
  rw [read?_of_clean hclean (mem_target h hhost (by rintro c ⟨⟩)) (by rintro c ⟨⟩)
    (by rintro c ⟨⟩), Option.isSome_map] at haccepted
  have hne : withoutLineEnds host ≠ [] := by
    intro hnil
    rw [hnil, readTarget?_web h] at haccepted
    cases haccepted
  refine ⟨hne, ?_⟩
  rw [readTarget?_site h (not_slash_of_host hhost) hne] at haccepted
  split at haccepted
  · assumption
  · cases haccepted

/-- Behind a site a path and a query are read as they stand, but for their encoding. -/
theorem read?_below_site {base path query : List Char} (hbase : IsSite base)
    (hpath : ∀ c ∈ path, IsPlain c) (hquery : ∀ c ∈ query, 0x20 < c.toNat ∧ c ≠ '#') :
    Location.read? (base ++ '/' :: (path ++ '?' :: query)) =
      some ⟨joinSegments (addSegments webRule [] (splitAt '/' path)),
        percentEncode (escapedInQuery true) query⟩ := by
  obtain ⟨scheme, host, h, rfl, hhost, haccepted⟩ := hbase
  obtain ⟨hne, hauthority⟩ := isAuthority_of_accepted h hhost haccepted
  have hvisible : ∀ c ∈ path ++ '?' :: query, 0x20 < c.toNat := by
    intro c hc
    simp only [List.mem_append, List.mem_cons] at hc
    rcases hc with hc | rfl | hc
    · exact (hpath c hc).1
    · decide
    · exact (hquery c hc).1
  have hclean : cleanAddress (scheme ++ ("://".toList ++ host) ++ '/' :: (path ++ '?' :: query)) =
      scheme ++ ("://".toList ++ (withoutLineEnds host ++ '/' :: (path ++ '?' :: query))) :=
    cleanAddress_site h hvisible
  have hparts : scheme ++ ("://".toList ++ (withoutLineEnds host ++ '/' :: (path ++ '?' :: query))) =
      scheme ++ ("://".toList ++ (withoutLineEnds host ++ '/' :: path)) ++ '?' :: query := by
    simp only [List.append_assoc, List.cons_append]
  rw [hparts] at hclean
  have hmark : ∀ c ∈ ('?' :: query).head?, c = '?' := by
    rintro c ⟨⟩
    rfl
  have hfragment : ∀ c ∈ '?' :: query, c ≠ '#' := by
    intro c hc
    rcases List.mem_cons.mp hc with rfl | hc
    · decide
    · exact (hquery c hc).2
  have hback : path.map (fun c => if c = '\\' then '/' else c) = path := by
    have hsame : ∀ c ∈ path, (if c = '\\' then '/' else c) = c := by
      intro c hc
      apply if_neg
      rintro rfl
      exact (hpath _ hc).2 (by decide)
    rw [List.map_congr_left hsame, List.map_id']
  rw [read?_of_clean hclean (mem_target h hhost hpath) hmark hfragment,
    readTarget?_site h (not_slash_of_host hhost) hne, if_pos hauthority]
  simp only [Option.map_some, readPath, webRule, if_true, hback, List.drop_one, List.tail_cons]

/-- Segments that are no dot segments are kept, in their encoding. -/
theorem addSegments_web {segs : List (List Char)}
    (hsegs : ∀ s ∈ segs, isDoubleDot s = false ∧ isSingleDot s = false)
    (before : List (List Char)) :
    addSegments webRule before segs = before ++ segs.map (percentEncode escapedInPath) := by
  induction segs generalizing before with
  | nil => exact (List.append_nil before).symm
  | cons s rest ih =>
      obtain ⟨hdouble, hsingle⟩ := hsegs s List.mem_cons_self
      have hkept : keptSegment webRule before.isEmpty s = percentEncode escapedInPath s := rfl
      rw [addSegments, if_neg (Bool.not_eq_true _ ▸ hdouble), if_neg (Bool.not_eq_true _ ▸ hsingle),
        ih (fun t ht => hsegs t (List.mem_cons_of_mem s ht)), hkept, List.append_assoc,
        List.singleton_append, List.map_cons]

end Reading

section Slugs

theorem isSlugChar_iff {c : Char} : isSlugChar c = true ↔
    c.isAlphanum = true ∨ c = '_' ∨ c = '-' ∨ 0x80 ≤ c.toNat := by
  simp only [isSlugChar, isAscii, Bool.or_eq_true, beq_iff_eq, Bool.not_eq_true',
    decide_eq_false_iff_not, Nat.not_lt, or_assoc]

/-- The characters of slugs stand for themselves in paths. -/
theorem isPlain_of_isSlugChar {c : Char} (h : isSlugChar c = true) : IsPlain c := by
  constructor
  · rw [isSlugChar_iff] at h
    rcases h with h | rfl | rfl | h
    · have := toNat_of_isAlphanum h
      omega
    · decide
    · decide
    · omega
  · intro hmem
    simp only [String.reduceToList, List.mem_cons, List.not_mem_nil, or_false] at hmem
    rcases hmem with rfl | rfl | rfl <;> exact absurd h (by decide)

theorem toLower_of_isSlugChar {c : Char} (h : isSlugChar c = true) :
    c.toLower ≠ '.' ∧ c.toLower ≠ '%' := by
  constructor
  · intro hdot
    rw [eq_of_toLower_eq (by decide) hdot] at h
    exact absurd h (by decide)
  · intro hpercent
    rw [eq_of_toLower_eq (by decide) hpercent] at h
    exact absurd h (by decide)

/-- A slug is no dot segment. -/
theorem not_dots_of_slug {s : List Char} (h : ∀ c ∈ s, isSlugChar c = true) :
    isDoubleDot s = false ∧ isSingleDot s = false := by
  cases s with
  | nil => decide
  | cons c s =>
      obtain ⟨hdot, hpercent⟩ := toLower_of_isSlugChar (h c List.mem_cons_self)
      simp [isDoubleDot, isSingleDot, hdot, hpercent]

theorem not_mem_of_slug {s : List Char} (h : ∀ c ∈ s, isSlugChar c = true) : '/' ∉ s := by
  intro hmem
  exact absurd (h _ hmem) (by decide)

theorem utf8Of_ne_nil (c : Char) : utf8Of c ≠ [] := by
  unfold utf8Of
  dsimp only
  split
  · exact List.cons_ne_nil _ _
  · split
    · exact List.cons_ne_nil _ _
    · split <;> exact List.cons_ne_nil _ _

theorem percentEncode_ne_nil {escape : Char → Bool} {cs : List Char} (h : cs ≠ []) :
    percentEncode escape cs ≠ [] := by
  obtain ⟨c, cs, rfl⟩ := List.exists_cons_of_ne_nil h
  intro hnil
  rw [percentEncode, List.flatMap_cons, List.append_eq_nil_iff] at hnil
  obtain ⟨hfirst, -⟩ := hnil
  split at hfirst
  · obtain ⟨b, bytes, hbytes⟩ := List.exists_cons_of_ne_nil (utf8Of_ne_nil c)
    rw [hbytes, List.flatMap_cons] at hfirst
    cases hfirst
  · cases hfirst

/-- A path of slugs below a site is read as these slugs, in their encoding. -/
theorem exists_location_of_slugs {base query : List Char} {segs : List (List Char)}
    (hbase : IsSite base) (hne : segs ≠ []) (hsegs : ∀ s ∈ segs, IsSlug s)
    (hquery : ∀ c ∈ query, 0x20 < c.toNat ∧ c ≠ '#') :
    ∃ l, Location.read? (base ++ '/' :: (joinSlash (segs ++ [[]]) ++ '?' :: query)) = some l ∧
      segments l = segs.map (percentEncode escapedInPath) ∧
      l.query = percentEncode (escapedInQuery true) query := by
  have hparts : ∀ s ∈ segs ++ [[]], ∀ c ∈ s, isSlugChar c = true := by
    intro s hs
    rcases List.mem_append.mp hs with hs | hs
    · exact (hsegs s hs).2
    · rw [List.mem_singleton.mp hs]
      rintro c ⟨⟩
  have hclosed : segs ++ [[]] ≠ [] :=
    List.append_ne_nil_of_right_ne_nil segs (List.cons_ne_nil _ _)
  have hsplit : splitAt '/' (joinSlash (segs ++ [[]])) = segs ++ [[]] :=
    splitAt_joinSlash hclosed fun s hs => not_mem_of_slug (hparts s hs)
  have hplain : ∀ c ∈ joinSlash (segs ++ [[]]), IsPlain c := by
    intro c hc
    rcases mem_joinSlash hc with rfl | ⟨s, hs, hc⟩
    · exact ⟨by decide, by decide⟩
    · exact isPlain_of_isSlugChar (hparts s hs c hc)
  have hdots : ∀ s ∈ segs ++ [[]], isDoubleDot s = false ∧ isSingleDot s = false :=
    fun s hs => not_dots_of_slug (hparts s hs)
  have hadd := addSegments_web hdots []
  rw [List.nil_append, List.map_append] at hadd
  refine ⟨_, read?_below_site hbase hplain hquery, ?_, rfl⟩
  rw [segments, hsplit, hadd]
  apply splitAt_trimBy_joinSegments
  · simpa using hne
  · intro e he
    obtain ⟨s, hs, rfl⟩ := List.mem_map.mp he
    refine ⟨percentEncode_ne_nil (hsegs s hs).1, ?_⟩
    intro hslash
    exact not_mem_of_slug (hsegs s hs).2 (mem_of_mem_percentEncode hslash).1

end Slugs

section Issues

/-- The path of an issue, or of one of its events. -/
def pageSegments (issue : Issue) (eventId : Option String) : List (List Char) :=
  ["organizations".toList, issue.organizationSlug.toList, "issues".toList, issue.id.toList] ++
    eventId.elim [] fun id => ["events".toList, id.toList]

theorem issueUrl_eq (base : String) (issue : Issue) {eventId : Option String}
    (hevent : ∀ id ∈ eventId, IsSlug id.toList) :
    (issueUrl base issue eventId).toList = base.toList ++
      '/' :: (joinSlash (pageSegments issue eventId ++ [[]]) ++ '?' :: "referrer=slack".toList) := by
  have hquery : (queryText [("referrer", "slack")]).toList = "referrer=slack".toList := by
    decide +kernel
  cases eventId with
  | none =>
      simp only [issueUrl, nonEmpty?, Option.filter_none, String.toList_append, hquery]
      simp [pageSegments, joinSlash]
  | some id =>
      have hne : (id != "") = true := by
        apply bne_iff_ne.mpr
        rintro rfl
        exact (hevent _ rfl).1 rfl
      simp only [issueUrl, nonEmpty?, Option.filter_some, hne, if_true, String.toList_append,
        hquery]
      simp [pageSegments, joinSlash]

/-- The link that the addresses of all issues, or of all events, are scrubbed to. -/
def pageLink (hasEvent : Bool) : String :=
  if hasEvent then "organizations/\x7borganization\x7d/issues/\x7bissue_id\x7d/" ++
    "events/\x7bevent_id\x7d/referrer=slack"
  else "organizations/\x7borganization\x7d/issues/\x7bissue_id\x7d/referrer=slack"

/-- Whatever the slugs are, the words between them announce that they are identifiers. -/
theorem scrubSegments_page (slug id : List Char) (event : Option (List Char)) :
    joinSlash (scrubSegments (["organizations".toList, slug, "issues".toList, id] ++
        event.elim [] fun e => ["events".toList, e])) ++ '/' :: "referrer=slack".toList =
      (pageLink event.isSome).toList := by
  have horganizations : placeholder? "organizations".toList =
      some "\x7borganization\x7d".toList := by decide +kernel
  have hissues : placeholder? "issues".toList = some "\x7bissue_id\x7d".toList := by
    decide +kernel
  have hevents : placeholder? "events".toList = some "\x7bevent_id\x7d".toList := by
    decide +kernel
  cases event with
  | none =>
      simp only [Option.elim_none, Option.isSome_none, List.append_nil, scrubSegments,
        horganizations, hissues]
      decide +kernel
  | some e =>
      simp only [Option.elim_some, Option.isSome_some, List.cons_append, List.nil_append,
        scrubSegments, horganizations, hissues, hevents]
      decide +kernel

/-- The words between the slugs of a path. -/
def pageWords : List (List Char) :=
  ["organizations".toList, "issues".toList, "events".toList]

theorem isSlug_of_mem_pageWords : ∀ word ∈ pageWords, IsSlug word := by
  have hall : ∀ word ∈ pageWords, word ≠ [] ∧ word.all isSlugChar = true := by decide +kernel
  intro word hword
  obtain ⟨hne, hchars⟩ := hall word hword
  exact ⟨hne, List.all_eq_true.mp hchars⟩

theorem percentEncode_pageWords :
    ∀ word ∈ pageWords, percentEncode escapedInPath word = word := by
  decide +kernel

theorem isSlug_of_mem_pageSegments {issue : Issue} {eventId : Option String}
    (hslug : IsSlug issue.organizationSlug.toList) (hid : IsSlug issue.id.toList)
    (hevent : ∀ id ∈ eventId, IsSlug id.toList) :
    ∀ s ∈ pageSegments issue eventId, IsSlug s := by
  intro s hs
  rcases List.mem_append.mp hs with hs | hs
  · simp only [List.mem_cons, List.not_mem_nil, or_false] at hs
    rcases hs with rfl | rfl | rfl | rfl
    · exact isSlug_of_mem_pageWords _ (by decide)
    · exact hslug
    · exact isSlug_of_mem_pageWords _ (by decide)
    · exact hid
  · cases eventId with
    | none => cases hs
    | some id =>
        simp only [Option.elim_some, List.mem_cons, List.not_mem_nil, or_false] at hs
        rcases hs with rfl | rfl
        · exact isSlug_of_mem_pageWords _ (by decide)
        · exact hevent id rfl

/-- The addresses of issues and events are scrubbed to one link each, whatever the site, the
organization, the issue and the event are called. -/
theorem scrub?_issueUrl (base : String) (issue : Issue) (eventId : Option String)
    (hbase : IsSite base.toList) (hslug : IsSlug issue.organizationSlug.toList)
    (hid : IsSlug issue.id.toList) (hevent : ∀ id ∈ eventId, IsSlug id.toList) :
    scrub? (issueUrl base issue eventId) = some (pageLink eventId.isSome) := by
  have hsegs := isSlug_of_mem_pageSegments hslug hid hevent
  have hquery : ∀ c ∈ "referrer=slack".toList, 0x20 < c.toNat ∧ c ≠ '#' :=
    forall_mem_of_all (by decide)
  have hne : pageSegments issue eventId ≠ [] := List.cons_ne_nil _ _
  obtain ⟨l, hread, hsegments, hl⟩ := exists_location_of_slugs hbase hne hsegs hquery
  have hform : (scrubQuery (Form.read l.query)).text = "referrer=slack".toList := by
    rw [hl]
    decide +kernel
  have hencoded : (pageSegments issue eventId).map (percentEncode escapedInPath) =
      ["organizations".toList, percentEncode escapedInPath issue.organizationSlug.toList,
        "issues".toList, percentEncode escapedInPath issue.id.toList] ++
        (eventId.map fun id => percentEncode escapedInPath id.toList).elim [] fun e =>
          ["events".toList, e] := by
    have horganizations := percentEncode_pageWords "organizations".toList (by decide)
    have hissues := percentEncode_pageWords "issues".toList (by decide)
    have hevents := percentEncode_pageWords "events".toList (by decide)
    cases eventId with
    | none =>
        simp only [pageSegments, Option.elim_none, Option.map_none, List.append_nil, List.map_cons,
          List.map_nil, horganizations, hissues]
    | some id =>
        simp only [pageSegments, Option.elim_some, Option.map_some, List.map_append, List.map_cons,
          List.map_nil, horganizations, hissues, hevents]
  have hscrub : scrub l = joinSlash (scrubSegments (segments l)) ++
      '/' :: (scrubQuery (Form.read l.query)).text := rfl
  rw [scrub?, issueUrl_eq base issue hevent, hread, Option.map_some, hscrub, hsegments, hencoded,
    hform, scrubSegments_page, Option.isSome_map, String.ofList_toList]

/-- An issue whose slugs are words of its own address. -/
def namesakeIssue : Issue :=
  ⟨⟨"", .other, ⟨none, none, none, none, none⟩⟩, "issues", "", .unresolved, .nan, "", "",
    "organizations", none⟩

theorem isSite_port : IsSite "HTTP://h.example:8080".toList := by
  have hhost : ∀ c ∈ "h.example:8080".toList, c ∉ "/\\?#@".toList := forall_mem_of_all (by decide)
  have hread : (Location.read? ("HTTP://h.example:8080".toList ++ ['/'])).isSome = true := by
    decide +kernel
  exact ⟨"HTTP".toList, "h.example:8080".toList, by decide, rfl, hhost, hread⟩

/-- The page of an event whose organization, issue and event are called like the words before
them. -/
theorem namesakeIssue_scrubbed :
    IsSite "HTTP://h.example:8080".toList ∧ IsSlug namesakeIssue.organizationSlug.toList ∧
      IsSlug namesakeIssue.id.toList ∧ (∀ id ∈ some "events", IsSlug id.toList) ∧
      scrub? (issueUrl "HTTP://h.example:8080" namesakeIssue (some "events")) =
        some (pageLink true) := by
  have hslug : IsSlug namesakeIssue.organizationSlug.toList :=
    isSlug_of_mem_pageWords _ (by decide)
  have hid : IsSlug namesakeIssue.id.toList := isSlug_of_mem_pageWords _ (by decide)
  have hevent : ∀ id ∈ some "events", IsSlug id.toList := by
    rintro id ⟨⟩
    exact isSlug_of_mem_pageWords _ (by decide)
  exact ⟨isSite_port, hslug, hid, hevent,
    scrub?_issueUrl "HTTP://h.example:8080" namesakeIssue (some "events") isSite_port hslug hid
      hevent⟩

end Issues

end AlertRelay.Link
