import AlertRelay.Log.Line
import Mathlib.Data.List.Forall2

/-!
Secrets in the context of a log record.

`SameButSecrets` relates two values of one shape that may differ in whatever stands under the
name of a secret.  Such values are made safe alike, step by step: they leave the same trace of
lists and records already written, and errors that enclose them are related again
(`Met.Alike`).  Main statement: the line of a record does not depend on the secrets in its
context (`line_of_sameButSecrets`).
-/

namespace AlertRelay.Log

/-- The fields of an error that are written as they are. -/
def errorTexts : List String := ["name", "message", "stack"]

/-- Whether a value has parts. -/
def hasParts : Value → Bool
  | .list _ _ => true
  | .record _ _ => true
  | .error _ _ _ => true
  | _ => false

mutual

/-- Two values that are the same but for what stands under the names of secrets. -/
inductive SameButSecrets : Value → Value → Prop
  | leaf (v : Value) (hleaf : hasParts v = false) : SameButSecrets v v
  | list (id : Option Nat) {xs ys : List Value} (h : SameItems xs ys) :
      SameButSecrets (.list id xs) (.list id ys)
  | record (id : Option Nat) {fs gs : List (String × Value)} (h : SameFields fs gs) :
      SameButSecrets (.record id fs) (.record id gs)
  | error (id : Option Nat) (kind : ErrorClass) {fs gs : List (String × Value)}
      (h : SameErrorFields fs gs) : SameButSecrets (.error id kind fs) (.error id kind gs)

/-- Items that are the same one by one, but for secrets. -/
inductive SameItems : List Value → List Value → Prop
  | nil : SameItems [] []
  | cons {v w : Value} {xs ys : List Value} (hv : SameButSecrets v w) (h : SameItems xs ys) :
      SameItems (v :: xs) (w :: ys)

/-- Fields with the same names in the same order: what stands under the name of a secret is
free, all else is the same but for secrets. -/
inductive SameFields : List (String × Value) → List (String × Value) → Prop
  | nil : SameFields [] []
  | secret (k : String) (hk : isSecretName k = true) (v w : Value)
      {fs gs : List (String × Value)} (h : SameFields fs gs) :
      SameFields ((k, v) :: fs) ((k, w) :: gs)
  | cons (k : String) {v w : Value} (hv : SameButSecrets v w)
      {fs gs : List (String × Value)} (h : SameFields fs gs) :
      SameFields ((k, v) :: fs) ((k, w) :: gs)

/-- Fields of an error: its texts are the same, and all else, its cause among it, is the same
but for secrets. -/
inductive SameErrorFields : List (String × Value) → List (String × Value) → Prop
  | nil : SameErrorFields [] []
  | secret (k : String) (hk : isSecretName k = true) (v w : Value)
      {fs gs : List (String × Value)} (h : SameErrorFields fs gs) :
      SameErrorFields ((k, v) :: fs) ((k, w) :: gs)
  | text (k : String) (hk : k ∈ errorTexts) (v : Value) {fs gs : List (String × Value)}
      (h : SameErrorFields fs gs) : SameErrorFields ((k, v) :: fs) ((k, v) :: gs)
  | cons (k : String) (hk : k ∉ errorTexts) {v w : Value} (hv : SameButSecrets v w)
      {fs gs : List (String × Value)} (h : SameErrorFields fs gs) :
      SameErrorFields ((k, v) :: fs) ((k, w) :: gs)

end

mutual

/-- Every value is the same as itself. -/
theorem SameButSecrets.refl (v : Value) : SameButSecrets v v := by
  cases v with
  | list id xs => exact .list id (SameItems.refl xs)
  | record id fs => exact .record id (SameFields.refl fs)
  | error id kind fs => exact .error id kind (SameErrorFields.refl fs)
  | _ => exact .leaf _ rfl

theorem SameItems.refl (xs : List Value) : SameItems xs xs := by
  cases xs with
  | nil => exact .nil
  | cons v xs => exact .cons (SameButSecrets.refl v) (SameItems.refl xs)

theorem SameFields.refl (fs : List (String × Value)) : SameFields fs fs := by
  match fs with
  | [] => exact .nil
  | (k, v) :: fs => exact .cons k (SameButSecrets.refl v) (SameFields.refl fs)

theorem SameErrorFields.refl (fs : List (String × Value)) : SameErrorFields fs fs := by
  match fs with
  | [] => exact .nil
  | (k, v) :: fs =>
      by_cases hk : k ∈ errorTexts
      · exact .text k hk v (SameErrorFields.refl fs)
      · exact .cons k hk (SameButSecrets.refl v) (SameErrorFields.refl fs)

end

/-- A value that is the same as one that is missing is missing too. -/
theorem SameButSecrets.undefined_iff {v w : Value} (h : SameButSecrets v w) :
    v = .undefined ↔ w = .undefined := by
  cases h with
  | leaf v hleaf => exact Iff.rfl
  | list id h => simp
  | record id h => simp
  | error id kind h => simp

theorem SameFields.length_eq {fs gs : List (String × Value)} (h : SameFields fs gs) :
    fs.length = gs.length := by
  cases h with
  | nil => rfl
  | secret k hk v w h => simp only [List.length_cons, h.length_eq]
  | cons k hv h => simp only [List.length_cons, h.length_eq]

namespace SameErrorFields

/-- The texts of errors that are the same but for secrets are the same. -/
theorem get?_text {fs gs : List (String × Value)} (h : SameErrorFields fs gs) {k : String}
    (hsecret : isSecretName k = false) (hk : k ∈ errorTexts) :
    Assoc.get? k fs = Assoc.get? k gs := by
  cases h with
  | nil => rfl
  | secret k' hk' v w h =>
      have hne : k' ≠ k := by
        rintro rfl
        exact absurd hk' (Bool.eq_false_iff.mp hsecret)
      simp only [Assoc.get?, if_neg hne, h.get?_text hsecret hk]
  | text k' hk' v h => simp only [Assoc.get?, h.get?_text hsecret hk]
  | cons k' hk' hv h =>
      have hne : k' ≠ k := by
        rintro rfl
        exact hk' hk
      simp only [Assoc.get?, if_neg hne, h.get?_text hsecret hk]

/-- Fields that hold no secret are the same but for secrets. -/
theorem get?_rel {fs gs : List (String × Value)} (h : SameErrorFields fs gs) {k : String}
    (hsecret : isSecretName k = false) :
    Option.Rel SameButSecrets (Assoc.get? k fs) (Assoc.get? k gs) := by
  cases h with
  | nil => exact .none
  | secret k' hk' v w h =>
      have hne : k' ≠ k := by
        rintro rfl
        exact absurd hk' (Bool.eq_false_iff.mp hsecret)
      simp only [Assoc.get?, if_neg hne]
      exact h.get?_rel hsecret
  | text k' hk' v h =>
      simp only [Assoc.get?]
      split
      · exact .some (.refl v)
      · exact h.get?_rel hsecret
  | cons k' hk' hv h =>
      simp only [Assoc.get?]
      split
      · exact .some hv
      · exact h.get?_rel hsecret

end SameErrorFields

/-- The same has been met on the way, but for secrets in enclosing errors. -/
structure Sanitized.Met.Alike (m m' : Sanitized.Met) : Prop where
  written : m.written = m'.written
  enclosing : List.Forall₂ (fun e e' => e.1 = e'.1 ∧ SameButSecrets e.2 e'.2) m.enclosing
    m'.enclosing

namespace Sanitized

/-- Results are the same, and so is what was met on the way, but for secrets. -/
def Agree {β : Type} (r r' : β × Met) : Prop :=
  r.1 = r'.1 ∧ r.2.Alike r'.2

/-- A reader of causes that does not see secrets. -/
def CauseReader.Blind (follow : CauseReader) : Prop :=
  ∀ (depth : Nat) {m m' : Met} {v w : Value}, m.Alike m' → SameButSecrets v w →
    Agree (follow depth m v) (follow depth m' w)

namespace Met.Alike

variable {m m' : Met}

theorem has_eq (h : m.Alike m') (id : Option Nat) : m.has id = m'.has id := by
  cases id with
  | none => rfl
  | some n => simp only [Met.has, h.written]

theorem write (h : m.Alike m') (id : Option Nat) : (m.write id).Alike (m'.write id) := by
  cases id with
  | none => exact h
  | some n => exact ⟨congrArg (n :: ·) h.written, h.enclosing⟩

theorem error? (h : m.Alike m') (n : Nat) :
    Option.Rel SameButSecrets (m.error? n) (m'.error? n) := by
  obtain ⟨written, enclosing⟩ := m
  obtain ⟨written', enclosing'⟩ := m'
  have hforall := h.enclosing
  simp only at hforall
  simp only [Met.error?]
  induction hforall with
  | nil => exact .none
  | @cons e e' rest rest' he hrest ih =>
      simp only [List.find?_cons, ← he.1]
      split
      · exact .some he.2
      · exact ih ⟨h.written, hrest⟩

end Met.Alike

/-- The entries of an error hold no secret, so errors that are the same but for secrets have the
same entries. -/
theorem errorEntries_congr (kind : ErrorClass) {fs gs : List (String × Value)}
    (h : SameErrorFields fs gs) : errorEntries kind fs = errorEntries kind gs := by
  have hname := h.get?_text (k := "name") (by decide +kernel) (by decide)
  have hmessage := h.get?_text (k := "message") (by decide +kernel) (by decide)
  have hstack := h.get?_text (k := "stack") (by decide +kernel) (by decide)
  have hcode := h.get?_rel (k := "code") (by decide +kernel)
  unfold errorEntries
  rw [hname, hmessage, hstack]
  generalize Assoc.get? "code" fs = code at hcode
  generalize Assoc.get? "code" gs = code' at hcode
  -- A code is written only if it is a text.
  cases hcode with
  | none => rfl
  | some hsame => cases hsame <;> rfl

theorem ofError_agree {follow : CauseReader} (hblind : follow.Blind) (depth : Nat)
    {m m' : Met} (hm : m.Alike m') (id : Option Nat) (kind : ErrorClass)
    {fs gs : List (String × Value)} (h : SameErrorFields fs gs) :
    Agree (ofError follow depth m id kind fs) (ofError follow depth m' id kind gs) := by
  have hcause := h.get?_rel (k := "cause") (by decide +kernel)
  unfold ofError
  rw [errorEntries_congr kind h]
  generalize Assoc.get? "cause" fs = cause at hcause
  generalize Assoc.get? "cause" gs = cause' at hcause
  cases hcause with
  | none => exact ⟨rfl, hm⟩
  | @some v w hsame =>
      -- A missing cause is no cause; any other one is too deep, or is followed.
      by_cases hundefined : v = .undefined
      · rw [hundefined, hsame.undefined_iff.mp hundefined]
        exact ⟨rfl, hm⟩
      · have hundefined' := mt hsame.undefined_iff.mpr hundefined
        by_cases hdeep : maxDepth ≤ depth + 1
        · simp only [if_pos hdeep]
          exact ⟨rfl, hm⟩
        · simp only [if_neg hdeep]
          have hfollowed {inner inner' : Met} (hinner : inner.Alike inner') :
              Agree
                (record [] (errorEntries kind gs ++ [("cause", (follow (depth + 1) inner v).1)]),
                  { m with written := (follow (depth + 1) inner v).2.written })
                (record [] (errorEntries kind gs ++ [("cause", (follow (depth + 1) inner' w).1)]),
                  { m' with written := (follow (depth + 1) inner' w).2.written }) := by
            obtain ⟨hsafe, hafter⟩ := hblind (depth + 1) hinner hsame
            exact ⟨congrArg (fun safe => record [] (errorEntries kind gs ++ [("cause", safe)]))
              hsafe, ⟨hafter.written, hm.enclosing⟩⟩
          -- Only an error with a place of its own can be met again inside its cause.
          cases id with
          | none => exact hfollowed hm
          | some n =>
              exact hfollowed ⟨hm.written, .cons ⟨rfl, .error (some n) kind h⟩ hm.enclosing⟩

mutual

/-- Values that are the same but for secrets are made safe alike. -/
theorem ofValueWith_agree {follow : CauseReader} (hblind : follow.Blind) (depth : Nat)
    {m m' : Met} (hm : m.Alike m') {v w : Value} (h : SameButSecrets v w) :
    Agree (ofValueWith follow depth m v) (ofValueWith follow depth m' w) := by
  cases h with
  | leaf v hleaf =>
      cases v with
      | list id xs => exact absurd hleaf (by simp [hasParts])
      | record id fs => exact absurd hleaf (by simp [hasParts])
      | error id kind fs => exact absurd hleaf (by simp [hasParts])
      | again n =>
          have herror := hm.error? n
          simp only [ofValueWith]
          generalize m.error? n = e at herror
          generalize m'.error? n = e' at herror
          cases herror with
          | none => exact ⟨rfl, hm⟩
          | @some e e' hsame =>
              cases hsame with
              | leaf _ hleaf =>
                  cases e with
                  | error id kind fs => exact absurd hleaf (by simp [hasParts])
                  | _ => exact ⟨rfl, hm⟩
              | list id h => exact ⟨rfl, hm⟩
              | record id h => exact ⟨rfl, hm⟩
              | error id kind h => exact ofError_agree hblind depth hm id kind h
      | _ => exact ⟨rfl, hm⟩
  | list id h =>
      simp only [ofValueWith, hm.has_eq id]
      split
      · exact ⟨rfl, hm⟩
      · obtain ⟨hsafe, hafter⟩ :=
          ofItemsWith_agree hblind (depth + 1) (hm.write id) maxEntries h
        exact ⟨congrArg Sanitized.list hsafe, hafter⟩
  | record id h =>
      simp only [ofValueWith, hm.has_eq id, h.length_eq]
      split
      · exact ⟨rfl, hm⟩
      · obtain ⟨hsafe, hafter⟩ :=
          ofFieldsWith_agree hblind (depth + 1) (hm.write id) _ maxEntries h
        exact ⟨congrArg (ofEntries [] []) hsafe, hafter⟩
  | error id kind h => exact ofError_agree hblind depth hm id kind h

theorem ofItemsWith_agree {follow : CauseReader} (hblind : follow.Blind) (depth : Nat)
    {m m' : Met} (hm : m.Alike m') (left : Nat) {xs ys : List Value} (h : SameItems xs ys) :
    Agree (ofItemsWith follow depth m left xs) (ofItemsWith follow depth m' left ys) := by
  cases h with
  | nil => exact ⟨rfl, hm⟩
  | cons hv h =>
      cases left with
      | zero => exact ⟨rfl, hm⟩
      | succ left =>
          obtain ⟨hfirst, hnext⟩ := ofValueWith_agree hblind depth hm hv
          obtain ⟨hmore, hafter⟩ := ofItemsWith_agree hblind depth hnext left h
          exact ⟨congrArg₂ List.cons hfirst hmore, hafter⟩

/-- The value of a secret is not read, and counts as one field whatever it is. -/
theorem ofFieldsWith_agree {follow : CauseReader} (hblind : follow.Blind) (depth : Nat)
    {m m' : Met} (hm : m.Alike m') (total left : Nat) {fs gs : List (String × Value)}
    (h : SameFields fs gs) :
    Agree (ofFieldsWith follow depth m total left fs)
      (ofFieldsWith follow depth m' total left gs) := by
  cases h with
  | nil => exact ⟨rfl, hm⟩
  | secret k hk v w h =>
      cases left with
      | zero => exact ⟨rfl, hm⟩
      | succ left =>
          obtain ⟨hmore, hafter⟩ := ofFieldsWith_agree hblind depth hm total left h
          simp only [ofFieldsWith, if_pos hk]
          exact ⟨congrArg ((k, redactedMark) :: ·) hmore, hafter⟩
  | cons k hv h =>
      cases left with
      | zero => exact ⟨rfl, hm⟩
      | succ left =>
          by_cases hk : isSecretName k = true
          · obtain ⟨hmore, hafter⟩ := ofFieldsWith_agree hblind depth hm total left h
            simp only [ofFieldsWith, if_pos hk]
            exact ⟨congrArg ((k, redactedMark) :: ·) hmore, hafter⟩
          · obtain ⟨hfirst, hnext⟩ := ofValueWith_agree hblind depth hm hv
            obtain ⟨hmore, hafter⟩ := ofFieldsWith_agree hblind depth hnext total left h
            simp only [ofFieldsWith, if_neg hk]
            exact ⟨congrArg₂ (fun safe more => (k, safe) :: more) hfirst hmore, hafter⟩

end

theorem ofValueUpTo_blind (causes : Nat) : CauseReader.Blind (ofValueUpTo causes) := by
  induction causes with
  | zero =>
      intro depth m m' v w hm h
      exact ofValueWith_agree (fun _ _ _ _ _ hm _ => ⟨rfl, hm⟩) depth hm h
  | succ causes ih =>
      intro depth m m' v w hm h
      exact ofValueWith_agree ih depth hm h

theorem ofValuesFrom_congr {m m' : Met} (hm : m.Alike m') {xs ys : List Value}
    (h : SameItems xs ys) : ofValuesFrom m xs = ofValuesFrom m' ys := by
  cases h with
  | nil => rfl
  | cons hv h =>
      obtain ⟨hfirst, hnext⟩ := ofValueUpTo_blind (maxDepth - 1) 0 hm hv
      exact congrArg₂ List.cons hfirst (ofValuesFrom_congr hnext h)

/-- The cut at the longest context depends on the values made safe only. -/
theorem ofValues_congr {xs ys : List Value} (h : SameItems xs ys) :
    ofValues xs = ofValues ys := by
  have hsafe : ofValuesFrom ⟨[], []⟩ xs = ofValuesFrom ⟨[], []⟩ ys :=
    ofValuesFrom_congr ⟨rfl, .nil⟩ h
  unfold ofValues
  rw [hsafe]

end Sanitized

/-- The line of a record is the same whatever the secrets in its context are. -/
theorem line_of_sameButSecrets (now : Int) (level : Level) (message : String)
    {context context' : List Value} (h : SameItems context context') :
    line now level message context = line now level message context' := by
  unfold line
  rw [Sanitized.ofValues_congr h]

/-- The context of a failed login: a token, and an error whose cause holds a password. -/
def failedLogin (token password : Value) : List Value :=
  [.ofFields [("apiToken", token), ("errors", .ofList [.error none .error
    [("message", .text "no"), ("cause", .ofFields [("password", password)])]])]]

/-- Texts in one context, a list with a record and nothing in the other. -/
theorem line_of_failedLogin :
    SameItems (failedLogin (.text "t") (.text "1234"))
        (failedLogin (.ofList [.number 1, .ofFields [("ts", .text "x")]]) .null) ∧
      line 0 .error "login" (failedLogin (.text "t") (.text "1234")) =
        line 0 .error "login"
          (failedLogin (.ofList [.number 1, .ofFields [("ts", .text "x")]]) .null) := by
  have hcause (v w : Value) :
      SameButSecrets (.ofFields [("password", v)]) (.ofFields [("password", w)]) :=
    .record none (.secret "password" (by decide +kernel) v w .nil)
  have herror (v w : Value) : SameButSecrets
      (.error none .error [("message", .text "no"), ("cause", .ofFields [("password", v)])])
      (.error none .error [("message", .text "no"), ("cause", .ofFields [("password", w)])]) :=
    .error none .error
      (.text "message" (by decide) _ (.cons "cause" (by decide) (hcause v w) .nil))
  have hsame : SameItems (failedLogin (.text "t") (.text "1234"))
      (failedLogin (.ofList [.number 1, .ofFields [("ts", .text "x")]]) .null) :=
    .cons (.record none
      (.secret "apiToken" (by decide +kernel) _ _
        (.cons "errors" (.list none (.cons (herror _ _) .nil)) .nil))) .nil
  exact ⟨hsame, line_of_sameButSecrets 0 .error "login" hsame⟩

end AlertRelay.Log
