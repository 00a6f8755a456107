import AlertRelay.Preference.MemoryStore
import Mathlib.Data.List.Nodup

/-!
Names of rows tell keys apart.

A name is made of the parts of a key with bars between them.  As long as no part of one key has
a bar in it, no other key has the same name (`Key.eq_of_rowName`, `OptionKey.eq_of_rowName`).
-/

namespace AlertRelay.Preference

/-- A text without bars. -/
def Barless (s : String) : Prop :=
  '|' ∉ s.toList

instance (s : String) : Decidable (Barless s) :=
  inferInstanceAs (Decidable ('|' ∉ s.toList))

/-- The number of bars in a text. -/
def bars (s : String) : Nat :=
  s.toList.count '|'

theorem bars_eq_zero {s : String} : bars s = 0 ↔ Barless s :=
  List.count_eq_zero

theorem bars_append (s t : String) : bars (s ++ t) = bars s + bars t := by
  simp [bars, List.count_append]

/-- The number of bars in parts. -/
def barsIn : List String → Nat
  | [] => 0
  | part :: parts => bars part + barsIn parts

theorem barsIn_eq_zero {parts : List String} : barsIn parts = 0 ↔ ∀ p ∈ parts, Barless p := by
  induction parts with
  | nil => simp [barsIn]
  | cons part rest ih =>
      simp only [barsIn, Nat.add_eq_zero_iff, List.forall_mem_cons, bars_eq_zero, ih]

/-- Between parts stands one bar each. -/
theorem bars_barred (part : String) (parts : List String) :
    bars (barred (part :: parts)) = barsIn (part :: parts) + parts.length := by
  induction parts generalizing part with
  | nil => simp [barred, barsIn]
  | cons next rest ih =>
      have hbar : bars "|" = 1 := by decide
      have hrest := ih next
      unfold barred at hrest ⊢
      rw [String.intercalate_cons_cons, bars_append, bars_append, hrest, hbar]
      simp only [barsIn, List.length_cons]
      omega

/-- The part before the first bar is determined. -/
theorem append_bar_inj {s t u v : List Char} (hs : '|' ∉ s) (ht : '|' ∉ t)
    (h : s ++ '|' :: u = t ++ '|' :: v) : s = t ∧ u = v := by
  induction s generalizing t with
  | nil =>
      cases t with
      | nil => exact ⟨rfl, (List.cons.inj h).2⟩
      | cons c rest =>
          obtain ⟨hc, _⟩ := List.cons.inj h
          exact absurd (hc ▸ List.mem_cons_self) ht
  | cons c rest ih =>
      cases t with
      | nil =>
          obtain ⟨hc, _⟩ := List.cons.inj h
          exact absurd (hc ▸ List.mem_cons_self) hs
      | cons d rest' =>
          obtain ⟨rfl, htail⟩ := List.cons.inj h
          obtain ⟨rfl, hrest⟩ := ih (fun hmem => hs (List.mem_cons_of_mem c hmem))
            (fun hmem => ht (List.mem_cons_of_mem c hmem)) htail
          exact ⟨rfl, hrest⟩

/-- Parts without bars can be read off their name. -/
theorem barred_inj {parts others : List String} (hlength : parts.length = others.length)
    (hparts : ∀ p ∈ parts, Barless p) (hothers : ∀ p ∈ others, Barless p)
    (h : barred parts = barred others) : parts = others := by
  induction parts generalizing others with
  | nil => exact (List.length_eq_zero_iff.mp hlength.symm).symm
  | cons part rest ih =>
      cases others with
      | nil => cases hlength
      | cons other rest' =>
          have hpart := hparts part List.mem_cons_self
          have hother := hothers other List.mem_cons_self
          cases rest with
          | nil =>
              obtain rfl := List.length_eq_zero_iff.mp (Nat.succ.inj hlength).symm
              simpa [barred] using h
          | cons next rest =>
              cases rest' with
              | nil => cases hlength
              | cons next' rest' =>
                  unfold barred at h ih
                  rw [String.intercalate_cons_cons, String.intercalate_cons_cons,
                    ← String.toList_inj] at h
                  simp only [String.toList_append] at h
                  obtain ⟨hfirst, hrest⟩ := append_bar_inj hpart hother
                    (by simpa using h)
                  rw [String.toList_inj] at hfirst
                  rw [hfirst, ih (Nat.succ.inj hlength)
                    (fun p hp => hparts p (List.mem_cons_of_mem part hp))
                    (fun p hp => hothers p (List.mem_cons_of_mem other hp))
                    (String.toList_inj.mp (by simpa using hrest))]

/-- Parts without bars can be read off their name, whatever they are compared with. -/
theorem barred_inj_of_barless {parts others : List String}
    (hlength : parts.length = others.length) (hparts : ∀ p ∈ parts, Barless p)
    (h : barred parts = barred others) : parts = others := by
  refine barred_inj hlength hparts ?_ h
  cases others with
  | nil => simp
  | cons other others =>
      cases parts with
      | nil => cases hlength
      | cons part parts =>
          -- The numbers of bars agree, so the other parts have none to spare.
          have hnone : barsIn (part :: parts) = 0 := barsIn_eq_zero.mpr hparts
          have hbars := congrArg bars h
          rw [bars_barred, bars_barred, hnone, Nat.succ.inj hlength] at hbars
          have hothers : barsIn (other :: others) = 0 := by omega
          exact barsIn_eq_zero.mp hothers

/-- An identity that may be part of a name: not empty and without bars. -/
def PlainId (id : String) : Prop :=
  id ≠ "" ∧ Barless id

instance (id : String) : Decidable (PlainId id) :=
  inferInstanceAs (Decidable (_ ∧ _))

/-- Codes of providers and of topics have different texts, all without bars. -/
theorem Provider.eq_of_text : ∀ p ∈ all, ∀ q ∈ all, p.code.text = q.code.text → p = q := by
  decide +kernel

theorem Topic.eq_of_text : ∀ t ∈ all, ∀ u ∈ all, t.code.text = u.code.text → t = u := by
  decide +kernel

theorem Provider.text_barless : ∀ p ∈ all, Barless p.code.text := by
  decide +kernel

theorem Topic.text_barless : ∀ t ∈ all, Barless t.code.text := by
  decide +kernel

theorem ScopeKind.text_barless (k : ScopeKind) : Barless k.code.text := by
  cases k <;> decide +kernel

theorem ScopeKind.eq_of_text {k l : ScopeKind} (h : k.code.text = l.code.text) : k = l := by
  revert h
  cases k <;> cases l <;> decide +kernel

theorem TargetKind.name_barless (k : TargetKind) : Barless k.name := by
  cases k <;> decide

theorem TargetKind.eq_of_name {k l : TargetKind} (h : k.name = l.name) : k = l := by
  revert h
  cases k <;> cases l <;> decide

/-- A key made of known codes and plain identities, as coordinates name it: a preference that
applies everywhere for a user is that user's own. -/
structure Key.Plain (k : Key) : Prop where
  provider : k.provider ∈ Provider.all
  topic : k.topic ∈ Topic.all
  target : PlainId k.target.id
  scope : PlainId k.scope.id
  own : k.scope.kind = .user → k.target = ⟨.user, k.scope.id⟩

/-- The parts that the name of a key is made of. -/
def Key.nameParts (k : Key) : List String :=
  [k.provider.code.text, k.topic.code.text, k.scope.kind.code.text, k.scope.id,
    k.target.kind.name, k.target.id]

/-- A plain key is the only one with its name. -/
theorem Key.eq_of_rowName {k l : Key} (hk : k.Plain) (hprovider : l.provider ∈ Provider.all)
    (htopic : l.topic ∈ Topic.all) (h : k.rowName = l.rowName) : k = l := by
  have hparts : ∀ p ∈ k.nameParts, Barless p := by
    simp only [Key.nameParts, List.forall_mem_cons]
    exact ⟨Provider.text_barless _ hk.provider, Topic.text_barless _ hk.topic,
      ScopeKind.text_barless _, hk.scope.2, TargetKind.name_barless _, hk.target.2, by simp⟩
  have hsame : k.nameParts = l.nameParts := barred_inj_of_barless rfl hparts h
  simp only [Key.nameParts, List.cons.injEq, and_true] at hsame
  obtain ⟨hprovider', htopic', hscopeKind, hscopeId, htargetKind, htargetId⟩ := hsame
  obtain ⟨provider, topic, ⟨targetKind, targetId⟩, ⟨scopeKind, scopeId⟩⟩ := k
  obtain ⟨provider', topic', ⟨targetKind', targetId'⟩, ⟨scopeKind', scopeId'⟩⟩ := l
  obtain rfl := Provider.eq_of_text _ hk.provider _ hprovider hprovider'
  obtain rfl := Topic.eq_of_text _ hk.topic _ htopic htopic'
  obtain rfl := ScopeKind.eq_of_text hscopeKind
  obtain rfl := TargetKind.eq_of_name htargetKind
  obtain rfl := hscopeId
  obtain rfl := htargetId
  rfl

theorem Key.eq_of_rowName_of_plain {k l : Key} (hk : k.Plain) (hl : l.Plain)
    (h : k.rowName = l.rowName) : k = l :=
  eq_of_rowName hk hl.provider hl.topic h

/-- The key of an option made of a known option key and plain identities. -/
structure OptionKey.Plain (o : OptionKey) : Prop where
  user : PlainId o.user
  project : ∀ id, o.project = some id → PlainId id
  organization : ∀ id, o.organization = some id → PlainId id
  key : o.key ∈ allOptionKeys

theorem allOptionKeys_barless : ∀ key ∈ allOptionKeys, Barless key := by
  decide

theorem getD_barless {id : Option String} (h : ∀ s, id = some s → PlainId s) :
    Barless (id.getD "") := by
  cases id with
  | none => decide
  | some s => exact (h s rfl).2

/-- A missing identity is not mistaken for one that is there. -/
theorem eq_of_getD {id other : Option String} (hid : ∀ s, id = some s → PlainId s)
    (hother : ∀ s, other = some s → PlainId s) (h : id.getD "" = other.getD "") :
    id = other := by
  cases id with
  | none =>
      cases other with
      | none => rfl
      | some t => exact absurd h.symm (hother t rfl).1
  | some s =>
      cases other with
      | none => exact absurd h (hid s rfl).1
      | some t => exact congrArg some h

/-- The parts that the name of an option is made of. -/
def OptionKey.nameParts (o : OptionKey) : List String :=
  [o.user, o.project.getD "", o.organization.getD "", o.key]

/-- Plain keys of options have different names. -/
theorem OptionKey.eq_of_rowName {o p : OptionKey} (ho : o.Plain) (hp : p.Plain)
    (h : o.rowName = p.rowName) : o = p := by
  have hparts : ∀ q ∈ o.nameParts, Barless q := by
    simp only [OptionKey.nameParts, List.forall_mem_cons]
    exact ⟨ho.user.2, getD_barless ho.project, getD_barless ho.organization,
      allOptionKeys_barless _ ho.key, by simp⟩
  have hsame : o.nameParts = p.nameParts := barred_inj_of_barless rfl hparts h
  simp only [OptionKey.nameParts, List.cons.injEq, and_true] at hsame
  obtain ⟨huser, hproject, horganization, hkey⟩ := hsame
  have hproject := eq_of_getD ho.project hp.project hproject
  have horganization := eq_of_getD ho.organization hp.organization horganization
  obtain ⟨user, key, project, organization⟩ := o
  obtain ⟨user', key', project', organization'⟩ := p
  obtain rfl := huser
  obtain rfl := hkey
  obtain rfl := hproject
  obtain rfl := horganization
  rfl

end AlertRelay.Preference
