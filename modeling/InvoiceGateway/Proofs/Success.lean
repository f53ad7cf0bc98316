/-! # When a fallible computation succeeds -/

namespace InvoiceGateway

variable {ε α β : Type}

theorem map_eq_ok_iff {r : Except ε α} {f : α → β} {b : β} :
    r.map f = .ok b ↔ ∃ a, r = .ok a ∧ f a = b := by
  cases r <;> simp [Except.map]

theorem bind_eq_ok_iff {r : Except ε α} {f : α → Except ε β} {b : β} :
    (r >>= f) = .ok b ↔ ∃ a, r = .ok a ∧ f a = .ok b := by
  cases r <;> simp [bind, Except.bind]

/-- The first part that fails decides how the whole fails. -/
theorem bind_eq_error_iff {r : Except ε α} {f : α → Except ε β} {e : ε} :
    (r >>= f) = .error e ↔ r = .error e ∨ ∃ a, r = .ok a ∧ f a = .error e := by
  cases r <;> simp [bind, Except.bind]

/-- Of computations in a row, the first that fails decides how all of them fail. -/
theorem mapM_eq_error_iff {f : α → Except ε β} {xs : List α} {e : ε} :
    xs.mapM f = .error e ↔
      ∃ before x after, xs = before ++ x :: after ∧ (∀ y ∈ before, ∃ b, f y = .ok b) ∧
        f x = .error e := by
  induction xs with
  | nil =>
      constructor
      · intro h
        contradiction
      · rintro ⟨before, x, after, h, -, -⟩
        simp at h
  | cons a xs ih =>
      rw [List.mapM_cons]
      constructor
      · intro h
        rcases bind_eq_error_iff.mp h with ha | ⟨b, ha, hrest⟩
        · exact ⟨[], a, xs, rfl, by simp, ha⟩
        · rcases bind_eq_error_iff.mp hrest with hxs | ⟨bs, -, hbs⟩
          · obtain ⟨before, x, after, rfl, hbefore, hx⟩ := ih.mp hxs
            refine ⟨a :: before, x, after, rfl, ?_, hx⟩
            intro y hy
            rcases List.mem_cons.mp hy with rfl | hy
            · exact ⟨b, ha⟩
            · exact hbefore y hy
          · contradiction
      · rintro ⟨before, x, after, h, hbefore, hx⟩
        cases before with
        | nil =>
            injection h with ha hxs
            subst ha hxs
            exact bind_eq_error_iff.mpr (.inl hx)
        | cons y before =>
            injection h with ha hxs
            subst ha hxs
            obtain ⟨b, hb⟩ := hbefore a (by simp)
            have hxs : (before ++ x :: after).mapM f = .error e :=
              ih.mpr ⟨before, x, after, rfl, fun y hy => hbefore y (by simp [hy]), hx⟩
            exact bind_eq_error_iff.mpr (.inr ⟨b, hb, bind_eq_error_iff.mpr (.inl hxs)⟩)

/-- What follows a computation matters only for the results that it can have. -/
theorem bind_congr_of_ok {r : Except ε α} {f g : α → Except ε β}
    (h : ∀ a, r = .ok a → f a = g a) : (r >>= f) = (r >>= g) := by
  cases r with
  | error e => rfl
  | ok a => exact h a rfl

/-- Two computations in a row whose errors are renamed alike. -/
theorem mapError_bind_map {ε' γ : Type} (r : Except ε α) (k : α → Except ε β) (g : β → γ)
    (f : ε → ε') :
    (do
      let a ← r.mapError f
      let b ← (k a).mapError f
      return g b) = ((r >>= k).map g).mapError f := by
  cases r with
  | error e => rfl
  | ok a =>
      change ((k a).mapError f >>= fun b => pure (g b)) = ((k a).map g).mapError f
      cases k a <;> rfl

theorem mapError_eq_ok_iff {ε' : Type} {r : Except ε α} {f : ε → ε'} {a : α} :
    r.mapError f = .ok a ↔ r = .ok a := by
  cases r with
  | error e => constructor <;> intro h <;> cases h
  | ok b =>
      constructor
      · intro h
        injection h with h
        rw [h]
      · intro h
        injection h with h
        rw [h]
        rfl

theorem mapError_eq_error_iff {ε' : Type} {r : Except ε α} {f : ε → ε'} {e' : ε'} :
    r.mapError f = .error e' ↔ ∃ e, r = .error e ∧ f e = e' := by
  cases r with
  | ok a =>
      constructor
      · intro h
        contradiction
      · rintro ⟨e, he, -⟩
        contradiction
  | error e =>
      constructor
      · intro h
        injection h with h
        exact ⟨e, rfl, h⟩
      · rintro ⟨e₁, he, rfl⟩
        injection he with he
        rw [he]
        rfl

end InvoiceGateway
