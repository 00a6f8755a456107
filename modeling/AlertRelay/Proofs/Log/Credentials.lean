import AlertRelay.Log.Secret
import AlertRelay.Proofs.Text.Letters
import Mathlib.Data.List.Infix

/-!
Texts from which credentials are removed.

`Credential.Spells` says how credentials of each kind are spelled, apart from how they are found,
and `Credential.Occurs` that one stands somewhere in a text.  `Redacted` relates a text to what is
left of it, credential by credential from left to right (`redactKind_redacted`).  A mark begins no
credential and ends none, and no credential reaches over the brackets of a mark, so that none is
left (`not_occurs_redact`).
-/

namespace AlertRelay.Log

open AlertRelay.Text

namespace Credential

/-- How the tokens of a kind begin. -/
def IsStem : Credential → List Char → Prop
  | .slackToken, stem => ∃ kind, isTokenKind kind = true ∧ stem = ['x', 'o', 'x', kind, '-']
  | .appToken, stem => stem = ['x', 'a', 'p', 'p', '-']
  | .bearer, _ => False

/-- The spelling of a credential: a stem and at least ten letters, digits and hyphens, or the word
`bearer` in upper or lower case, white space, and what is borne, which may end with signs of
equality. -/
inductive Spells : Credential → List Char → Prop
  | token {k : Credential} {stem body : List Char} (hstem : k.IsStem stem)
      (hbody : ∀ c ∈ body, isTokenChar c = true) (hlength : 10 ≤ body.length) :
      Spells k (stem ++ body)
  | bearer {word blanks body signs : List Char} (hword : word.map Char.toLower = "bearer".toList)
      (hblanks : blanks ≠ []) (hblank : ∀ c ∈ blanks, isBlank c = true) (hbody : body ≠ [])
      (hchar : ∀ c ∈ body, isBearerChar c = true) (hsigns : ∀ c ∈ signs, c = '=') :
      Spells .bearer (word ++ (blanks ++ (body ++ signs)))

/-- Whether a credential may begin with a character. -/
def isInitial (c : Char) : Bool :=
  c == 'x' || c.toLower == 'b'

/-- Whether a credential stands somewhere in a text. -/
def Occurs (k : Credential) (cs : List Char) : Prop :=
  ∃ m, k.Spells m ∧ m <:+: cs

theorem IsStem.exists_concat {k : Credential} {stem : List Char} (h : k.IsStem stem) :
    ∃ letters, stem = letters ++ ['-'] := by
  cases k with
  | slackToken =>
      obtain ⟨kind, -, rfl⟩ := h
      exact ⟨['x', 'o', 'x', kind], rfl⟩
  | appToken =>
      cases h
      exact ⟨['x', 'a', 'p', 'p'], rfl⟩
  | bearer => cases h

end Credential

/-- The letters of a word that reads `bearer` when it is lowered. -/
theorem isAlphanum_of_bearer {word : List Char} (hword : word.map Char.toLower = "bearer".toList) :
    ∀ c ∈ word, c.isAlphanum = true := by
  intro c hc
  have hlower : c.toLower ∈ "bearer".toList := hword ▸ List.mem_map_of_mem hc
  have hletters : ∀ d ∈ "bearer".toList, d.isAlphanum = true :=
    List.all_eq_true.mp (by decide)
  exact isAlphanum_of_toLower (hletters _ hlower)

theorem isBlank_of_isBearerChar {c : Char} (h : isBearerChar c = true) : isBlank c = false := by
  simp only [isBearerChar, Bool.or_eq_true, beq_iff_eq] at h
  rcases h with (((((h | rfl) | rfl) | rfl) | rfl) | rfl) | rfl
  · have := toNat_of_isAlphanum h
    simp only [isBlank, Bool.or_eq_false_iff, Bool.and_eq_false_iff, decide_eq_false_iff_not,
      beq_eq_false_iff_ne]
    omega
  all_goals decide

section Runs

variable {p : Char → Bool} {least : Nat}

theorem eq_append_of_afterRun? {cs rest : List Char} (h : afterRun? p least cs = some rest) :
    ∃ run, cs = run ++ rest ∧ least ≤ run.length ∧ ∀ c ∈ run, p c = true := by
  unfold afterRun? at h
  split at h
  · next hleast =>
      cases h
      exact ⟨cs.takeWhile p, List.takeWhile_append_dropWhile.symm, hleast,
        List.all_eq_true.mp List.all_takeWhile⟩
  · cases h

theorem afterRun?_append {run : List Char} (hrun : ∀ c ∈ run, p c = true)
    (hleast : least ≤ run.length) (cs : List Char) :
    afterRun? p least (run ++ cs) = some (cs.dropWhile p) := by
  have hlength : least ≤ ((run ++ cs).takeWhile p).length := by
    rw [List.takeWhile_append_of_pos hrun, List.length_append]
    omega
  rw [afterRun?, if_pos hlength, List.dropWhile_append_of_pos hrun]

theorem eq_append_of_afterWord? {w cs rest : List Char} (h : afterWord? w cs = some rest) :
    ∃ word, cs = word ++ rest ∧ word.map Char.toLower = w := by
  induction w generalizing cs with
  | nil =>
      cases h
      exact ⟨[], rfl, rfl⟩
  | cons a w ih =>
      cases cs with
      | nil => cases h
      | cons c cs =>
          simp only [afterWord?] at h
          split at h
          · next hc =>
              obtain ⟨word, rfl, hword⟩ := ih h
              exact ⟨c :: word, rfl, congrArg₂ List.cons hc hword⟩
          · cases h

theorem afterWord?_append (word cs : List Char) :
    afterWord? (word.map Char.toLower) (word ++ cs) = some cs := by
  induction word with
  | nil => rfl
  | cons c word ih => simpa [afterWord?] using ih

end Runs

namespace Credential

/-- What is found at the front of a text is a credential. -/
theorem spells_of_rest? {k : Credential} {cs rest : List Char} (h : k.rest? cs = some rest) :
    ∃ m, k.Spells m ∧ cs = m ++ rest := by
  unfold rest? at h
  split at h
  · next kind cs =>
      split at h
      · next hkind =>
          obtain ⟨body, rfl, hlength, hbody⟩ := eq_append_of_afterRun? h
          exact ⟨_, .token ⟨kind, hkind, rfl⟩ hbody hlength, rfl⟩
      · cases h
  · cases h
  · obtain ⟨body, rfl, hlength, hbody⟩ := eq_append_of_afterRun? h
    exact ⟨_, .token rfl hbody hlength, rfl⟩
  · cases h
  · obtain ⟨_, hword, h⟩ := Option.bind_eq_some_iff.mp h
    obtain ⟨_, hblanks, h⟩ := Option.bind_eq_some_iff.mp h
    obtain ⟨cs, hbody, rfl⟩ := Option.map_eq_some_iff.mp h
    obtain ⟨word, rfl, hbearer⟩ := eq_append_of_afterWord? hword
    obtain ⟨blanks, rfl, hsome, hblank⟩ := eq_append_of_afterRun? hblanks
    obtain ⟨body, rfl, hfilled, hchar⟩ := eq_append_of_afterRun? hbody
    have hsigns : ∀ c ∈ cs.takeWhile (· == '='), c = '=' := fun c hc =>
      beq_iff_eq.mp (List.all_eq_true.mp List.all_takeWhile c hc)
    refine ⟨_, .bearer hbearer (List.ne_nil_of_length_pos hsome) hblank
      (List.ne_nil_of_length_pos hfilled) hchar hsigns, ?_⟩
    simp only [List.append_assoc, List.takeWhile_append_dropWhile]

/-- A credential at the front of a text is found. -/
theorem exists_rest?_of_spells {k : Credential} {m : List Char} (h : k.Spells m)
    (cs : List Char) : ∃ rest, k.rest? (m ++ cs) = some rest := by
  cases h with
  | @token _ stem body hstem hbody hlength =>
      rw [List.append_assoc]
      cases k with
      | slackToken =>
          obtain ⟨kind, hkind, rfl⟩ := hstem
          simp only [List.cons_append, List.nil_append, rest?, if_pos hkind]
          exact ⟨_, afterRun?_append hbody hlength cs⟩
      | appToken =>
          cases hstem
          exact ⟨_, afterRun?_append hbody hlength cs⟩
      | bearer => cases hstem
  | @bearer word blanks body signs hword hblanks hblank hbody hchar hsigns =>
      have hrest : (word ++ (blanks ++ (body ++ signs))) ++ cs =
          word ++ (blanks ++ (body ++ (signs ++ cs))) := by
        simp only [List.append_assoc]
      -- What follows the white space is none, so that the white space is passed excess exactly.
      have hstop : (body ++ (signs ++ cs)).dropWhile isBlank = body ++ (signs ++ cs) := by
        obtain ⟨c, body, rfl⟩ := List.exists_cons_of_ne_nil hbody
        rw [List.cons_append, List.dropWhile_cons_of_neg]
        simp [isBlank_of_isBearerChar (hchar c List.mem_cons_self)]
      rw [hrest, rest?, ← hword, afterWord?_append, Option.bind_some,
        afterRun?_append hblank (List.length_pos_iff.mpr hblanks), Option.bind_some, hstop,
        afterRun?_append hchar (List.length_pos_iff.mpr hbody), Option.map_some]
      exact ⟨_, rfl⟩

namespace Spells

variable {k : Credential} {m : List Char}

theorem ne_nil (h : k.Spells m) : m ≠ [] := by
  rintro rfl
  obtain ⟨rest, hrest⟩ := exists_rest?_of_spells h []
  cases rest?_length_lt hrest

/-- A credential begins with one of two letters. -/
theorem exists_initial (h : k.Spells m) : ∃ c ∈ m, isInitial c = true := by
  cases h with
  | @token _ stem body hstem hbody hlength =>
      cases k with
      | slackToken =>
          obtain ⟨kind, -, rfl⟩ := hstem
          exact ⟨'x', List.mem_append_left _ List.mem_cons_self, by decide⟩
      | appToken =>
          cases hstem
          exact ⟨'x', List.mem_append_left _ List.mem_cons_self, by decide⟩
      | bearer => cases hstem
  | @bearer word blanks body signs hword hblanks hblank hbody hchar hsigns =>
      cases word with
      | nil => cases hword
      | cons c word =>
          have hc : c.toLower = 'b' := (List.cons.inj hword).1
          exact ⟨c, List.mem_append_left _ List.mem_cons_self, by simp [isInitial, hc]⟩

/-- A token consists of letters, digits and hyphens. -/
theorem isTokenChar_of_mem (h : k.Spells m) (hk : k ≠ .bearer) :
    ∀ c ∈ m, isTokenChar c = true := by
  cases h with
  | @token _ stem body hstem hbody hlength =>
      have hstemChar : ∀ c ∈ stem, isTokenChar c = true := by
        cases k with
        | slackToken =>
            obtain ⟨kind, hkind, rfl⟩ := hstem
            have hletter : isTokenChar kind = true := by
              simp only [isTokenKind, Bool.or_eq_true, beq_iff_eq] at hkind
              rcases hkind with ((((rfl | rfl) | rfl) | rfl) | rfl) | rfl <;> decide
            intro c hc
            simp only [List.mem_cons, List.not_mem_nil, or_false] at hc
            rcases hc with rfl | rfl | rfl | rfl | rfl
            · decide
            · decide
            · decide
            · exact hletter
            · decide
        | appToken =>
            cases hstem
            exact List.all_eq_true.mp (by decide)
        | bearer => cases hstem
      intro c hc
      rcases List.mem_append.mp hc with hc | hc
      · exact hstemChar c hc
      · exact hbody c hc
  | bearer hword hblanks hblank hbody hchar hsigns => exact absurd rfl hk

/-- What credentials consist of. -/
theorem mem_cases (h : k.Spells m) :
    ∀ c ∈ m, isBearerChar c = true ∨ isBlank c = true ∨ c = '=' := by
  by_cases hk : k = .bearer
  · cases h with
    | token hstem => cases hk; cases hstem
    | @bearer word blanks body signs hword hblanks hblank hbody hchar hsigns =>
        intro c hc
        simp only [List.mem_append] at hc
        rcases hc with hc | hc | hc | hc
        · exact Or.inl (by simp [isBearerChar, isAlphanum_of_bearer hword c hc])
        · exact Or.inr (Or.inl (hblank c hc))
        · exact Or.inl (hchar c hc)
        · exact Or.inr (Or.inr (hsigns c hc))
  · intro c hc
    have htoken := h.isTokenChar_of_mem hk c hc
    simp only [isTokenChar, Bool.or_eq_true] at htoken
    rcases htoken with hc | hc <;> exact Or.inl (by simp [isBearerChar, hc])

theorem not_mem_brackets (h : k.Spells m) : '[' ∉ m ∧ ']' ∉ m := by
  constructor
  · intro hmem
    rcases h.mem_cases _ hmem with h | h | h <;> revert h <;> decide
  · intro hmem
    rcases h.mem_cases _ hmem with h | h | h <;> revert h <;> decide

/-- A bearer credential begins with a character that may be borne. -/
theorem exists_cons_of_bearer (h : Spells .bearer m) :
    ∃ d tail, m = d :: tail ∧ isBearerChar d = true := by
  cases h with
  | token hstem => cases hstem
  | @bearer word blanks body signs hword hblanks hblank hbody hchar hsigns =>
      cases word with
      | nil => cases hword
      | cons d word =>
          have hd := isAlphanum_of_bearer hword d List.mem_cons_self
          exact ⟨d, _, rfl, by simp [isBearerChar, hd]⟩

theorem exists_word_of_bearer (h : Spells .bearer m) :
    ∃ word tail, m = word ++ tail ∧ word.map Char.toLower = "bearer".toList := by
  cases h with
  | token hstem => cases hstem
  | bearer hword => exact ⟨_, _, rfl, hword⟩

/-- One character that is borne is enough. -/
theorem bearer_one {word blanks : List Char} {c : Char}
    (hword : word.map Char.toLower = "bearer".toList) (hblanks : blanks ≠ [])
    (hblank : ∀ c ∈ blanks, isBlank c = true) (hc : isBearerChar c = true) :
    Spells .bearer (word ++ (blanks ++ [c])) := by
  have h : Spells .bearer (word ++ (blanks ++ ([c] ++ []))) :=
    .bearer hword hblanks hblank (List.cons_ne_nil c []) (by simpa using hc)
      fun _ h => absurd h List.not_mem_nil
  simpa using h

end Spells

end Credential

/-- What stands on one side of a character that is not part of it. -/
theorem infix_of_infix_append_cons {α : Type} {m before after : List α} {x : α}
    (h : m <:+: before ++ x :: after) (hx : x ∉ m) : m <:+: before ∨ m <:+: after := by
  obtain ⟨a, b, h⟩ := h
  rw [List.append_assoc, List.append_eq_append_iff] at h
  rcases h with ⟨c, hbefore, hsplit⟩ | ⟨c, ha, hsplit⟩
  · rcases List.append_eq_append_iff.mp hsplit with ⟨d, rfl, _⟩ | ⟨d, rfl, hd⟩
    · exact Or.inl ⟨a, d, by rw [List.append_assoc, hbefore]⟩
    · cases d with
      | nil => exact Or.inl ⟨a, [], by rw [hbefore]; simp⟩
      | cons y d =>
          cases hd
          exact absurd (List.mem_append_right _ List.mem_cons_self) hx
  · cases c with
    | nil =>
        rw [List.nil_append] at hsplit
        cases m with
        | nil => exact Or.inl List.nil_infix
        | cons y m =>
            cases hsplit
            exact absurd List.mem_cons_self hx
    | cons y c =>
        rw [List.cons_append] at hsplit
        obtain ⟨-, hafter⟩ := List.cons.inj hsplit
        exact Or.inr ⟨c, b, by rw [hafter, List.append_assoc]⟩

/-- A text and what is left of it when the credentials of a kind are replaced, the first one of
them first. -/
inductive Redacted (k : Credential) : List Char → List Char → Prop
  | clean {cs : List Char} (hclean : ¬ k.Occurs cs) : Redacted k cs cs
  | found {before m rest out : List Char} (hm : k.Spells m)
      (hfirst : ∀ a m' b, k.Spells m' → a ++ m' ++ b = before ++ m ++ rest →
        before.length ≤ a.length)
      (h : Redacted k rest out) : Redacted k (before ++ m ++ rest) (before ++ k.mark ++ out)

theorem Redacted.cons {k : Credential} {c : Char} {cs out : List Char} (h : Redacted k cs out)
    (hnone : k.rest? (c :: cs) = none) : Redacted k (c :: cs) (c :: out) := by
  have hfront {m b : List Char} (hm : k.Spells m) (hcs : m ++ b = c :: cs) : False := by
    obtain ⟨rest, hrest⟩ := Credential.exists_rest?_of_spells hm b
    rw [hcs, hnone] at hrest
    cases hrest
  cases h with
  | clean hclean =>
      refine .clean ?_
      rintro ⟨m, hm, hpart⟩
      rcases List.infix_cons_iff.mp hpart with ⟨b, hb⟩ | hpart
      · exact hfront hm hb
      · exact hclean ⟨m, hm, hpart⟩
  | @found before m rest out hm hfirst h =>
      have hfirst' : ∀ a m' b, k.Spells m' → a ++ m' ++ b = (c :: before) ++ m ++ rest →
          (c :: before).length ≤ a.length := by
        intro a m' b hm' hcs
        cases a with
        | nil => exact (hfront hm' hcs).elim
        | cons x a =>
            obtain ⟨-, htail⟩ := List.cons.inj hcs
            exact Nat.succ_le_succ (hfirst a m' b hm' htail)
      exact .found hm hfirst' h

theorem redactKind_redacted (k : Credential) (cs : List Char) :
    Redacted k cs (redactKind k cs) := by
  induction cs using redactKind.induct (k := k) with
  | case1 =>
      rw [redactKind]
      exact .clean fun ⟨m, hm, hpart⟩ => hm.ne_nil (List.infix_nil.mp hpart)
  | case2 c cs rest hrest ih =>
      obtain ⟨m, hm, hcs⟩ := Credential.spells_of_rest? hrest
      rw [redactKind]
      split
      · next rest' hrest' =>
          rw [hrest] at hrest'
          cases hrest'
          rw [hcs]
          have hfound : Redacted k ([] ++ m ++ rest) ([] ++ k.mark ++ redactKind k rest) :=
            .found hm (fun _ _ _ _ _ => Nat.zero_le _) ih
          exact hfound
      · next hnone =>
          rw [hrest] at hnone
          cases hnone
  | case3 c cs hnone ih =>
      rw [redactKind]
      split
      · next rest hrest =>
          rw [hnone] at hrest
          cases hrest
      · exact ih.cons hnone

/-- What stands before the brackets in the mark of a credential. -/
def Credential.lead : Credential → List Char
  | .bearer => "Bearer ".toList
  | _ => []

theorem Credential.lead_of_ne {k : Credential} (hk : k ≠ .bearer) : k.lead = [] := by
  cases k with
  | bearer => exact absurd rfl hk
  | _ => rfl

/-- A credential does not reach over the brackets of a mark, and does not fit between them. -/
theorem infix_of_infix_mark {k k' : Credential} {m before out : List Char} (hm : k'.Spells m)
    (h : m <:+: before ++ k.mark ++ out) : m <:+: before ++ k.lead ∨ m <:+: out := by
  have hmark : k.mark = k.lead ++ '[' :: ("REDACTED".toList ++ [']']) := by
    cases k <;> rfl
  have hsplit : before ++ k.mark ++ out =
      (before ++ k.lead) ++ '[' :: ("REDACTED".toList ++ ']' :: out) := by
    simp [hmark]
  rw [hsplit] at h
  rcases infix_of_infix_append_cons h hm.not_mem_brackets.1 with h | h
  · exact Or.inl h
  · rcases infix_of_infix_append_cons h hm.not_mem_brackets.2 with h | h
    · obtain ⟨c, hc, hinitial⟩ := hm.exists_initial
      have hnone : ∀ c ∈ "REDACTED".toList, ¬ Credential.isInitial c = true :=
        List.any_eq_false.mp (by decide)
      exact absurd hinitial (hnone c (h.mem hc))
    · exact Or.inr h

section First

variable {k : Credential} {before m rest m' : List Char}

/-- Before the first credential there is none. -/
theorem not_infix_before
    (hfirst : ∀ a m' b, k.Spells m' → a ++ m' ++ b = before ++ m ++ rest →
      before.length ≤ a.length)
    (hm' : k.Spells m') : ¬ m' <:+: before := by
  rintro ⟨a, b, rfl⟩
  have hle := hfirst a m' (b ++ m ++ rest) hm' (by simp)
  have hpos := List.length_pos_iff.mpr hm'.ne_nil
  simp only [List.length_append] at hle
  omega

/-- White space that is followed by something is not the blank at the end of `Bearer `. -/
theorem eq_nil_of_blank_end {front blanks excess after : List Char} {c : Char}
    (hblanks : blanks ≠ []) (hblank : ∀ c ∈ blanks, isBlank c = true)
    (hfront : front ++ blanks = before ++ excess)
    (hexcess : "Bearer ".toList = excess ++ c :: after) :
    excess = [] := by
  rcases List.eq_nil_or_concat' excess with hnil | ⟨excess', y, rfl⟩
  · exact hnil
  · rcases List.eq_nil_or_concat' blanks with hnil | ⟨blanks', x, rfl⟩
    · exact absurd hnil hblanks
    · rw [← List.append_assoc, ← List.append_assoc] at hfront
      obtain ⟨rfl, -⟩ := List.cons.inj (List.append_inj_right' hfront rfl)
      have hx : isBlank x = true := hblank x (List.mem_append_right _ List.mem_cons_self)
      have hword : x ∈ "Bearer".toList := by
        have hinit : "Bearer".toList = excess' ++ [x] ++ (c :: after).dropLast := by
          rw [← List.dropLast_append_of_ne_nil (List.cons_ne_nil c after), ← hexcess]
          rfl
        rw [hinit]
        simp
      have hnone : ∀ y ∈ "Bearer".toList, ¬ isBlank y = true := List.any_eq_false.mp (by decide)
      exact absurd hx (hnone x hword)

/-- Nor is there one that begins before the first bearer credential and ends in its mark. -/
theorem not_infix_lead (hm : Credential.Spells .bearer m)
    (hfirst : ∀ a m' b, Credential.Spells .bearer m' → a ++ m' ++ b = before ++ m ++ rest →
      before.length ≤ a.length)
    (hm' : Credential.Spells .bearer m') : ¬ m' <:+: before ++ "Bearer ".toList := by
  rintro ⟨a, b, hab⟩
  cases hm' with
  | token hstem => cases hstem
  | @bearer word blanks body signs hword hblanks hblank hbody hchar hsigns =>
      obtain ⟨c, body, rfl⟩ := List.exists_cons_of_ne_nil hbody
      have hsplit : (a ++ (word ++ blanks)) ++ (c :: (body ++ (signs ++ b))) =
          before ++ "Bearer ".toList := by
        rw [← hab]
        simp
      -- The word and the white space stand in the text before.
      obtain ⟨more, hmore, hrest⟩ : ∃ more, before = a ++ (word ++ blanks) ++ more ∧
          c :: (body ++ (signs ++ b)) = more ++ "Bearer ".toList := by
        rcases List.append_eq_append_iff.mp hsplit with h | ⟨excess, hexcess, hrest⟩
        · exact h
        · have hfront : (a ++ word) ++ blanks = before ++ excess := by
            rw [← hexcess, List.append_assoc]
          cases eq_nil_of_blank_end hblanks hblank hfront hrest
          exact ⟨[], by simpa using hexcess.symm, by simpa using hrest.symm⟩
      -- Whichever character follows them in the text may be borne.
      obtain ⟨d, tail, hd, htail⟩ : ∃ d tail, isBearerChar d = true ∧
          more ++ (m ++ rest) = d :: tail := by
        cases more with
        | nil =>
            obtain ⟨d, tail, rfl, hd⟩ := hm.exists_cons_of_bearer
            exact ⟨d, tail ++ rest, hd, rfl⟩
        | cons d more =>
            obtain ⟨rfl, -⟩ := List.cons.inj hrest
            exact ⟨c, more ++ (m ++ rest), hchar c List.mem_cons_self, rfl⟩
      have hcs : a ++ (word ++ (blanks ++ [d])) ++ tail = before ++ m ++ rest := by
        have htext : before ++ m ++ rest = a ++ (word ++ blanks) ++ (more ++ (m ++ rest)) := by
          rw [hmore]
          simp
        rw [htext, htail]
        simp
      have hle := hfirst a _ tail (.bearer_one hword hblanks hblank hd) hcs
      have hpos := List.length_pos_iff.mpr hblanks
      simp only [hmore, List.length_append] at hle
      omega

/-- A token that ends in the word of a mark was a token with the word that stood there before. -/
theorem occurs_of_infix_word {word : List Char} (hk : k ≠ .bearer) (hm : k.Spells m)
    (hword : word.map Char.toLower = "bearer".toList)
    (h : m <:+: before ++ "Bearer".toList) : k.Occurs (before ++ word) := by
  obtain ⟨a, b, hab⟩ := h
  cases hm with
  | @token _ stem body hstem hbody hlength =>
      -- The stem ends with a hyphen, which the word does not have, and so stands before it.
      obtain ⟨more, rfl, hrest⟩ : ∃ more, before = a ++ stem ++ more ∧
          body ++ b = more ++ "Bearer".toList := by
        rw [← List.append_assoc, List.append_assoc (a ++ stem)] at hab
        rcases List.append_eq_append_iff.mp hab with h | ⟨excess, hexcess, hrest⟩
        · exact h
        · obtain ⟨letters, rfl⟩ := hstem.exists_concat
          rcases List.eq_nil_or_concat' excess with rfl | ⟨excess', y, rfl⟩
          · exact ⟨[], by simpa using hexcess.symm, by simpa using hrest.symm⟩
          · rw [← List.append_assoc, ← List.append_assoc] at hexcess
            obtain ⟨rfl, -⟩ := List.cons.inj (List.append_inj_right' hexcess rfl)
            have hmem : '-' ∈ "Bearer".toList := by
              rw [hrest]
              simp
            exact absurd hmem (by decide)
      rcases List.append_eq_append_iff.mp hrest with ⟨more', rfl, -⟩ | ⟨excess, rfl, hexcess⟩
      · exact ⟨_, .token hstem hbody hlength, a, more' ++ word, by simp⟩
      · -- The whole word is at least as long as the part of it that belonged to the token.
        have hwordLength : word.length = 6 := by simpa using congrArg List.length hword
        have hexcessLength : 6 = excess.length + b.length := by
          simpa using congrArg List.length hexcess
        have hbody' : ∀ c ∈ more ++ word, isTokenChar c = true := by
          intro c hc
          rcases List.mem_append.mp hc with hc | hc
          · exact hbody c (List.mem_append_left _ hc)
          · simp [isTokenChar, isAlphanum_of_bearer hword c hc]
        have hlength' : 10 ≤ (more ++ word).length := by
          rw [List.length_append] at hlength ⊢
          omega
        exact ⟨_, .token hstem hbody' hlength', a, [], by simp⟩
  | bearer => exact absurd rfl hk

end First

namespace Redacted

variable {k : Credential} {cs out : List Char}

/-- No credential of the kind is left. -/
theorem not_occurs (h : Redacted k cs out) : ¬ k.Occurs out := by
  induction h with
  | clean hclean => exact hclean
  | @found before m rest out hm hfirst h ih =>
      rintro ⟨m', hm', hpart⟩
      rcases infix_of_infix_mark hm' hpart with hpart | hpart
      · by_cases hk : k = .bearer
        · cases hk
          exact not_infix_lead hm hfirst hm' hpart
        · rw [Credential.lead_of_ne hk, List.append_nil] at hpart
          exact not_infix_before hfirst hm' hpart
      · exact ih ⟨m', hm', hpart⟩

/-- Where there was no token of a kind, none arises. -/
theorem not_occurs_token (h : Redacted k cs out) {k' : Credential} (hk' : k' ≠ .bearer)
    (hclean : ¬ k'.Occurs cs) : ¬ k'.Occurs out := by
  induction h with
  | clean _ => exact hclean
  | @found before m rest out hm hfirst h ih =>
      have hrest : ¬ k'.Occurs rest := fun ⟨m', hm', hpart⟩ =>
        hclean ⟨m', hm', hpart.trans ⟨before ++ m, [], by simp⟩⟩
      rintro ⟨m', hm', hpart⟩
      rcases infix_of_infix_mark hm' hpart with hpart | hpart
      · by_cases hk : k = .bearer
        · cases hk
          have hblank : ' ' ∉ m' := fun hmem =>
            absurd (hm'.isTokenChar_of_mem hk' ' ' hmem) (by decide)
          have hlead : Credential.bearer.lead = "Bearer".toList ++ [' '] := rfl
          rw [hlead, ← List.append_assoc] at hpart
          rcases infix_of_infix_append_cons hpart hblank with hpart | hpart
          · obtain ⟨word, tail, rfl, hword⟩ := hm.exists_word_of_bearer
            obtain ⟨m'', hm'', h⟩ := occurs_of_infix_word hk' hm' hword hpart
            exact hclean ⟨m'', hm'', h.trans ⟨[], tail ++ rest, by simp⟩⟩
          · exact hm'.ne_nil (List.infix_nil.mp hpart)
        · rw [Credential.lead_of_ne hk, List.append_nil] at hpart
          exact hclean ⟨m', hm', hpart.trans ⟨[], m ++ rest, by simp⟩⟩
      · exact ih hrest ⟨m', hm', hpart⟩

theorem eq_of_not_occurs (h : Redacted k cs out) (hclean : ¬ k.Occurs cs) : out = cs := by
  cases h with
  | clean _ => rfl
  | @found before m rest out hm hfirst h => exact absurd ⟨m, hm, before, rest, rfl⟩ hclean

/-- Where something was replaced, a mark is left. -/
theorem eq_or_mark_part (h : Redacted k cs out) : out = cs ∨ k.mark <:+: out := by
  cases h with
  | clean _ => exact Or.inl rfl
  | @found before m rest out hm hfirst h => exact Or.inr ⟨before, out, rfl⟩

end Redacted

/-- A text from which all credentials are removed holds none, of any kind. -/
theorem not_occurs_redact (k : Credential) (cs : List Char) : ¬ k.Occurs (redact cs) := by
  have hslack := redactKind_redacted .slackToken cs
  have happ := redactKind_redacted .appToken (redactKind .slackToken cs)
  have hbearer := redactKind_redacted .bearer (redactKind .appToken (redactKind .slackToken cs))
  cases k with
  | slackToken =>
      exact hbearer.not_occurs_token (by decide)
        (happ.not_occurs_token (by decide) hslack.not_occurs)
  | appToken => exact hbearer.not_occurs_token (by decide) happ.not_occurs
  | bearer => exact hbearer.not_occurs

/-- A text without credentials is left as it is. -/
theorem redact_of_not_occurs {cs : List Char} (h : ∀ k : Credential, ¬ k.Occurs cs) :
    redact cs = cs := by
  have hkind (k : Credential) : redactKind k cs = cs :=
    (redactKind_redacted k cs).eq_of_not_occurs (h k)
  rw [redact, hkind, hkind, hkind]

end AlertRelay.Log
