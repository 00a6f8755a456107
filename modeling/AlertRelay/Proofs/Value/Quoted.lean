import AlertRelay.Value.Quoted

/-!
Texts between quotation marks, read back.

What is written between quotation marks has no control character in it (`visible_quoted`), and is
read back as the text that was written (`readQuoted?_quoted`).  An escape is read together with one
that follows it, so that what follows an escape has to be known: it is either no escape of that kind
or a complete one (`Continues`).
-/

namespace AlertRelay.Json

open AlertRelay.Text

/-- Whether a text has no beginning that is half an escape of a unit. -/
def Continues (rest : List Char) : Prop :=
  ∀ tail, rest = '\\' :: 'u' :: tail →
    ∃ n behind, n < 0x10000 ∧ tail = hexUnit n ++ behind

theorem digitValue_digitChar : ∀ k, k < 16 →
    Numeral.digitValue (Nat.digitChar k) = k := by
  decide

theorem readUnit?_hexUnit {n : Nat} (hn : n < 0x10000) :
    readUnit? (Nat.digitChar (n / 4096 % 16)) (Nat.digitChar (n / 256 % 16))
      (Nat.digitChar (n / 16 % 16)) (Nat.digitChar (n % 16)) = some n := by
  have hdigit (k : Nat) : Numeral.digitValue (Nat.digitChar (k % 16)) = k % 16 :=
    digitValue_digitChar _ (Nat.mod_lt _ (by decide))
  have hlt (k : Nat) : k % 16 < 16 := Nat.mod_lt _ (by decide)
  have hall : [Nat.digitChar (n / 4096 % 16), Nat.digitChar (n / 256 % 16),
      Nat.digitChar (n / 16 % 16), Nat.digitChar (n % 16)].all isHexDigit = true := by
    simp only [List.all_cons, List.all_nil, isHexDigit, hdigit, hlt, decide_true, Bool.and_self]
  have hsum : Numeral.natOf 16 [Nat.digitChar (n / 4096 % 16), Nat.digitChar (n / 256 % 16),
      Nat.digitChar (n / 16 % 16), Nat.digitChar (n % 16)] = n := by
    simp only [Numeral.natOf, List.foldl_cons, List.foldl_nil, hdigit]
    omega
  rw [readUnit?, if_pos hall, hsum]

/-- The characters that have a simple escape, with it. -/
def simpleEscapes : List (Char × Char) :=
  [('\x22', '\x22'), ('\\', '\\'), ('\n', 'n'), ('\r', 'r'), ('\t', 't'), ('\x08', 'b'),
    ('\x0c', 'f')]

theorem quotedChar_of_mem_simpleEscapes : ∀ p ∈ simpleEscapes, quotedChar p.1 = ['\\', p.2] ∧
    simpleEscape? p.2 = some p.1 ∧ p.2 ≠ 'u' ∧ 0x20 ≤ p.2.toNat := by
  decide

/-- How a character is written: by a simple escape, by its unit, or as it is. -/
inductive Spelling (c : Char) : Prop
  | simple {e : Char} (hmem : (c, e) ∈ simpleEscapes) : Spelling c
  | unit (htext : quotedChar c = unitEscape c.toNat) (hcontrol : c.toNat < 0x20) : Spelling c
  | plain (htext : quotedChar c = [c]) (hquote : c ≠ '\x22') (hback : c ≠ '\\')
      (hcontrol : ¬ c.toNat < 0x20) : Spelling c

theorem quotedChar_cases (c : Char) : Spelling c := by
  by_cases hsimple : c ∈ simpleEscapes.map Prod.fst
  · obtain ⟨⟨d, e⟩, hmem, rfl⟩ := List.mem_map.mp hsimple
    exact .simple hmem
  · simp only [simpleEscapes, List.map_cons, List.map_nil, List.mem_cons, List.not_mem_nil,
      or_false, not_or] at hsimple
    obtain ⟨hquote, hback, hline, hreturn, htab, hbackspace, hfeed⟩ := hsimple
    have hrest : quotedChar c = if c.toNat < 0x20 then unitEscape c.toNat else [c] := by
      rw [quotedChar, if_neg hquote, if_neg hback, if_neg hline, if_neg hreturn, if_neg htab,
        if_neg hbackspace, if_neg hfeed]
    by_cases hcontrol : c.toNat < 0x20
    · rw [if_pos hcontrol] at hrest
      exact .unit hrest hcontrol
    · rw [if_neg hcontrol] at hrest
      exact .plain hrest hquote hback hcontrol

/-- Whether a character is written as it is. -/
def isPlainChar (c : Char) : Bool :=
  c != '\x22' && c != '\\' && decide (0x20 ≤ c.toNat)

theorem quotedChar_of_isPlainChar {c : Char} (h : isPlainChar c = true) : quotedChar c = [c] := by
  have hnone : ∀ p ∈ simpleEscapes, isPlainChar p.1 = false := by decide
  cases quotedChar_cases c with
  | simple hmem =>
      rw [hnone _ hmem] at h
      cases h
  | unit _ hcontrol =>
      simp only [isPlainChar, Bool.and_eq_true, decide_eq_true_eq] at h
      omega
  | plain htext _ _ _ => exact htext

theorem flatMap_of_isPlainChar {cs : List Char} (h : ∀ c ∈ cs, isPlainChar c = true) :
    cs.flatMap quotedChar = cs := by
  induction cs with
  | nil => rfl
  | cons c cs ih =>
      rw [List.flatMap_cons, quotedChar_of_isPlainChar (h c List.mem_cons_self),
        ih fun d hd => h d (List.mem_cons_of_mem c hd), List.singleton_append]

/-- The character that a unit by itself is read as. -/
def unitChar (n : Nat) : Char :=
  if 0xD800 ≤ n ∧ n < 0xE000 then '\uFFFD' else Char.ofNat n

section Reading

variable {done rest : List Char}

/-- A unit is read by itself if no escape of a unit follows it. -/
theorem readQuoted?_unitEscape_of_ne {n : Nat} (hn : n < 0x10000)
    (hrest : ∀ tail, rest ≠ '\\' :: 'u' :: tail) :
    readQuoted? done (unitEscape n ++ rest) = readQuoted? (unitChar n :: done) rest := by
  simp only [unitEscape, hexUnit, List.cons_append, List.nil_append]
  rw [readQuoted?.eq_def]
  split
  · next heq => cases heq
  · next heq => cases heq
  · next heq =>
      cases heq
      exact absurd rfl (hrest _)
  · next heq =>
      cases heq
      simp only [readUnit?_hexUnit hn, unitChar]
  · next hunit heq =>
      cases heq
      exact (hunit _ _ _ _ _ rfl rfl).elim
  · next hescape heq =>
      cases heq
      exact (hescape _ _ rfl rfl).elim

/-- A unit that is no half of a character is read by itself. -/
theorem readQuoted?_unitEscape {n : Nat} (hn : n < 0xD800) (hrest : Continues rest) :
    readQuoted? done (unitEscape n ++ rest) = readQuoted? (Char.ofNat n :: done) rest := by
  have hplain : unitChar n = Char.ofNat n := if_neg (by omega)
  by_cases hnext : ∃ tail, rest = '\\' :: 'u' :: tail
  · obtain ⟨tail, rfl⟩ := hnext
    obtain ⟨m, behind, hm, rfl⟩ := hrest tail rfl
    have hread := readUnit?_hexUnit (show n < 0x10000 by omega)
    simp only [unitEscape, hexUnit, List.cons_append, List.nil_append]
    rw [readQuoted?]
    simp only [hread, readUnit?_hexUnit hm]
    rw [if_neg (by omega), if_neg (by omega)]
  · rw [readQuoted?_unitEscape_of_ne (by omega) fun tail htail => hnext ⟨tail, htail⟩, hplain]

theorem readQuoted?_simpleEscape {c d : Char} (hc : simpleEscape? c = some d) (hne : c ≠ 'u') :
    readQuoted? done ('\\' :: c :: rest) = readQuoted? (d :: done) rest := by
  rw [readQuoted?.eq_def]
  split
  · next heq => cases heq
  · next heq => cases heq
  · next heq =>
      cases heq
      exact absurd rfl hne
  · next heq =>
      cases heq
      exact absurd rfl hne
  · next heq =>
      cases heq
      simp only [hc]
  · next hescape heq =>
      cases heq
      exact (hescape _ _ rfl rfl).elim

theorem readQuoted?_plain {c : Char} (hquote : c ≠ '\x22') (hback : c ≠ '\\')
    (hcontrol : ¬ c.toNat < 0x20) :
    readQuoted? done (c :: rest) = readQuoted? (c :: done) rest := by
  rw [readQuoted?.eq_def]
  split
  · next heq => cases heq
  · next heq =>
      cases heq
      exact absurd rfl hquote
  · next heq =>
      cases heq
      exact absurd rfl hback
  · next heq =>
      cases heq
      exact absurd rfl hback
  · next heq =>
      cases heq
      exact absurd rfl hback
  · next heq =>
      cases heq
      rw [if_neg (not_or.mpr ⟨hcontrol, hback⟩)]

/-- A character is read back as it was written. -/
theorem readQuoted?_quotedChar (c : Char) (hrest : Continues rest) :
    readQuoted? done (quotedChar c ++ rest) = readQuoted? (c :: done) rest := by
  cases quotedChar_cases c with
  | simple hmem =>
      obtain ⟨htext, hread, hne, -⟩ := quotedChar_of_mem_simpleEscapes _ hmem
      rw [htext]
      exact readQuoted?_simpleEscape hread hne
  | unit htext hcontrol =>
      rw [htext, readQuoted?_unitEscape (by omega) hrest, Char.ofNat_toNat]
  | plain htext hquote hback hcontrol =>
      rw [htext]
      exact readQuoted?_plain hquote hback hcontrol

theorem continues_quotedChar (c : Char) (rest : List Char) : Continues (quotedChar c ++ rest) := by
  intro tail htail
  cases quotedChar_cases c with
  | simple hmem =>
      obtain ⟨htext, -, hne, -⟩ := quotedChar_of_mem_simpleEscapes _ hmem
      rw [htext] at htail
      cases htail
      exact absurd rfl hne
  | unit htext hcontrol =>
      rw [htext] at htail
      cases htail
      exact ⟨c.toNat, rest, by omega, rfl⟩
  | plain htext _ hback _ =>
      rw [htext] at htail
      cases htail
      exact absurd rfl hback

theorem continues_flatMap (cs : List Char) (hrest : Continues rest) :
    Continues (cs.flatMap quotedChar ++ rest) := by
  cases cs with
  | nil => exact hrest
  | cons c cs =>
      rw [List.flatMap_cons, List.append_assoc]
      exact continues_quotedChar c _

/-- A text is read back as it was written. -/
theorem readQuoted?_flatMap (cs : List Char) (hrest : Continues rest) :
    readQuoted? done (cs.flatMap quotedChar ++ rest) = readQuoted? (cs.reverse ++ done) rest := by
  induction cs generalizing done with
  | nil => rfl
  | cons c cs ih =>
      rw [List.flatMap_cons, List.append_assoc,
        readQuoted?_quotedChar c (continues_flatMap cs hrest), ih, List.reverse_cons,
        List.append_assoc, List.singleton_append]

theorem continues_of_head {c : Char} (hc : c ≠ '\\') (rest : List Char) : Continues (c :: rest) := by
  intro tail htail
  cases htail
  exact absurd rfl hc

/-- A text between quotation marks is read back as it was written. -/
theorem readQuoted?_quoted (cs : List Char) (rest : List Char) :
    readQuoted? [] (cs.flatMap quotedChar ++ '\x22' :: rest) = some (cs, rest) := by
  rw [readQuoted?_flatMap cs (continues_of_head (by decide) rest), List.append_nil, readQuoted?,
    List.reverse_reverse]

end Reading

section Visible

theorem visible_unitEscape (n : Nat) : ∀ c ∈ unitEscape n, 0x20 ≤ c.toNat := by
  have hdigits : ∀ k, k < 16 → 0x20 ≤ (Nat.digitChar k).toNat := by decide
  have hdigit (k : Nat) : 0x20 ≤ (Nat.digitChar (k % 16)).toNat :=
    hdigits _ (Nat.mod_lt _ (by decide))
  intro c hc
  simp only [unitEscape, hexUnit, List.mem_cons, List.not_mem_nil, or_false] at hc
  rcases hc with rfl | rfl | rfl | rfl | rfl | rfl
  · decide
  · decide
  all_goals exact hdigit _

theorem visible_quotedChar (c : Char) : ∀ d ∈ quotedChar c, 0x20 ≤ d.toNat := by
  intro d hd
  cases quotedChar_cases c with
  | simple hmem =>
      obtain ⟨htext, -, -, hvisible⟩ := quotedChar_of_mem_simpleEscapes _ hmem
      rw [htext, List.mem_cons, List.mem_singleton] at hd
      rcases hd with rfl | rfl
      · decide
      · exact hvisible
  | unit htext _ =>
      rw [htext] at hd
      exact visible_unitEscape _ d hd
  | plain htext _ _ hcontrol =>
      rw [htext, List.mem_singleton] at hd
      rw [hd]
      omega

theorem visible_flatMap (cs : List Char) : ∀ d ∈ cs.flatMap quotedChar, 0x20 ≤ d.toNat := by
  intro d hd
  obtain ⟨c, -, hd⟩ := List.mem_flatMap.mp hd
  exact visible_quotedChar c d hd

/-- Between quotation marks no control character is written. -/
theorem visible_quoted (cs : List Char) : ∀ d ∈ quoted cs, 0x20 ≤ d.toNat := by
  intro d hd
  simp only [quoted, List.cons_append, List.mem_cons, List.mem_append, List.not_mem_nil,
    or_false] at hd
  rcases hd with rfl | hd | rfl
  · decide
  · exact visible_flatMap cs d hd
  · decide

end Visible

end AlertRelay.Json
