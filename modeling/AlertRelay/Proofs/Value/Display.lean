import AlertRelay.Value.Display

/-!
Values that have no text.

There are but two errors for them, whatever the value (`textFailure?_cases`).
-/

namespace AlertRelay

namespace Value

mutual

/-- There are but two reasons not to have a text. -/
theorem textFailure?_cases {within : List Nat} {v e : Value}
    (h : v.textFailure? within = some e) : e = noTextError ∨ e = endlessTextError := by
  cases v with
  | list i items => exact itemsTextFailure?_cases h
  | record i fields =>
      simp only [textFailure?] at h
      split at h
      · cases h
        exact .inl rfl
      · cases h
  | error i kind fields =>
      simp only [textFailure?] at h
      split at h
      · cases h
        exact .inl rfl
      · rcases Option.or_eq_some_iff.mp h with hname | ⟨_, hmessage⟩
        · exact fieldTextFailure?_cases hname
        · exact fieldTextFailure?_cases hmessage
  | again n =>
      simp only [textFailure?] at h
      split at h
      · cases h
        exact .inr rfl
      · cases h
  | _ => cases h

theorem itemsTextFailure?_cases {items : List Value} {e : Value}
    (h : itemsTextFailure? items = some e) : e = noTextError ∨ e = endlessTextError := by
  cases items with
  | nil => cases h
  | cons v rest =>
      rcases Option.or_eq_some_iff.mp h with hfirst | ⟨_, hrest⟩
      · exact textFailure?_cases hfirst
      · exact itemsTextFailure?_cases hrest

theorem fieldTextFailure?_cases {within : List Nat} {name : String}
    {fields : List (String × Value)} {e : Value}
    (h : fieldTextFailure? within name fields = some e) :
    e = noTextError ∨ e = endlessTextError := by
  match fields with
  | [] => cases h
  | (k, v) :: rest =>
      simp only [fieldTextFailure?] at h
      split at h
      · exact textFailure?_cases h
      · exact fieldTextFailure?_cases h

end

end Value

end AlertRelay
