/-!
Results of computations that can fail.  A computation in two parts succeeds when both parts do, and
fails where the first part that fails does (`bind_eq_ok_iff`, `bind_eq_error_iff`).
-/

namespace CompilerDriver

variable {ε α β : Type} {first : Except ε α} {next : α → Except ε β}

theorem bind_eq_ok_iff {result : β} :
    first >>= next = .ok result ↔ ∃ middle, first = .ok middle ∧ next middle = .ok result := by
  cases first with
  | error fault =>
      constructor
      · intro hresult
        cases hresult
      · rintro ⟨middle, hfirst, _⟩
        cases hfirst
  | ok middle =>
      constructor
      · intro hresult
        exact ⟨middle, rfl, hresult⟩
      · rintro ⟨other, hfirst, hresult⟩
        cases hfirst
        exact hresult

theorem bind_eq_error_iff {fault : ε} :
    first >>= next = .error fault ↔
      first = .error fault ∨ ∃ middle, first = .ok middle ∧ next middle = .error fault := by
  cases first with
  | error other =>
      constructor
      · intro hfault
        cases hfault
        exact Or.inl rfl
      · rintro (hfault | ⟨middle, hfirst, _⟩)
        · cases hfault
          rfl
        · cases hfirst
  | ok middle =>
      constructor
      · intro hfault
        exact Or.inr ⟨middle, rfl, hfault⟩
      · rintro (hfirst | ⟨other, hfirst, hfault⟩)
        · cases hfirst
        · cases hfirst
          exact hfault

/-- What comes second matters only for the results of what comes first. -/
theorem bind_congr_of_ok {other : α → Except ε β}
    (hnext : ∀ middle, first = .ok middle → next middle = other middle) :
    first >>= next = first >>= other := by
  cases first with
  | error fault => rfl
  | ok middle => exact hnext middle rfl

variable {δ : Type} {f : ε → δ}

theorem mapError_eq_ok_iff {result : α} :
    first.mapError f = .ok result ↔ first = .ok result := by
  constructor
  · intro hresult
    cases first with
    | error fault => cases hresult
    | ok other => exact congrArg Except.ok (Except.ok.inj hresult)
  · rintro rfl
    rfl

theorem mapError_eq_error_iff {kind : δ} :
    first.mapError f = .error kind ↔ ∃ fault, first = .error fault ∧ f fault = kind := by
  constructor
  · intro hkind
    cases first with
    | error fault => exact ⟨fault, rfl, Except.error.inj hkind⟩
    | ok result => cases hkind
  · rintro ⟨fault, rfl, rfl⟩
    rfl

end CompilerDriver
