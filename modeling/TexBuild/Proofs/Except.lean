namespace TexBuild

variable {ε ε' α β : Type}

@[simp] theorem mapError_ok (f : ε → ε') (x : α) :
    (Except.ok x : Except ε α).mapError f = .ok x := rfl

@[simp] theorem mapError_error (f : ε → ε') (e : ε) :
    (Except.error e : Except ε α).mapError f = .error (f e) := rfl

theorem mapError_eq_ok_iff {a : Except ε α} {f : ε → ε'} {x : α} :
    a.mapError f = .ok x ↔ a = .ok x := by
  cases a <;> simp

theorem mapError_eq_error_iff {a : Except ε α} {f : ε → ε'} {e' : ε'} :
    a.mapError f = .error e' ↔ ∃ e, a = .error e ∧ f e = e' := by
  cases a <;> simp

theorem toOption_eq_some_iff {a : Except ε α} {x : α} : a.toOption = some x ↔ a = .ok x := by
  cases a <;> simp [Except.toOption]

theorem bind_eq_error_iff {a : Except ε α} {f : α → Except ε β} {e : ε} :
    (a >>= f) = .error e ↔ a = .error e ∨ ∃ x, a = .ok x ∧ f x = .error e := by
  cases a with
  | error e' => simp [bind, Except.bind]
  | ok x => simp [bind, Except.bind]

theorem bind_eq_ok_iff {a : Except ε α} {f : α → Except ε β} {y : β} :
    (a >>= f) = .ok y ↔ ∃ x, a = .ok x ∧ f x = .ok y := by
  cases a with
  | error e => simp [bind, Except.bind]
  | ok x => simp [bind, Except.bind]

theorem toOption_bind (a : Except ε α) (f : α → Except ε β) :
    (a >>= f).toOption = a.toOption.bind fun x => (f x).toOption := by
  cases a <;> rfl

end TexBuild
