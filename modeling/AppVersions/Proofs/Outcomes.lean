-- The laws of outcomes: what is left of a result when its fault does not matter, and where a fault
-- comes from.
import Mathlib.Data.List.Forall2

namespace AppVersions

variable {ε δ α β : Type}

theorem toOption_map (f : α → β) (x : Except ε α) : (x.map f).toOption = x.toOption.map f := by
  cases x <;> rfl

theorem toOption_mapError (f : ε → δ) (x : Except ε α) : (x.mapError f).toOption = x.toOption := by
  cases x <;> rfl

theorem toOption_bind (x : Except ε α) (f : α → Except ε β) :
    (x >>= f).toOption = x.toOption.bind fun a => (f a).toOption := by
  cases x <;> rfl

theorem toOption_eq_none {x : Except ε α} : x.toOption = none ↔ ∃ e, x = .error e := by
  cases x with
  | error e => exact iff_of_true rfl ⟨e, rfl⟩
  | ok a => exact iff_of_false nofun nofun

theorem toOption_eq_some {x : Except ε α} {a : α} : x.toOption = some a ↔ x = .ok a := by
  cases x with
  | error e => exact iff_of_false nofun nofun
  | ok b => exact ⟨fun h => congrArg _ (Option.some.inj h), fun h => congrArg _ (Except.ok.inj h)⟩

theorem error_of_bind {x : Except ε α} {f : α → Except ε β} {e : ε} (h : x >>= f = .error e) :
    x = .error e ∨ ∃ a, x = .ok a ∧ f a = .error e := by
  cases x with
  | error e' => exact .inl (congrArg Except.error (Except.error.inj h))
  | ok a => exact .inr ⟨a, rfl, h⟩

theorem error_of_map {f : α → β} {x : Except ε α} {e : ε} (h : x.map f = .error e) :
    x = .error e := by
  cases x with
  | error e' => exact congrArg Except.error (Except.error.inj h)
  | ok a => cases h

theorem error_of_mapError {f : ε → δ} {x : Except ε α} {e : δ} (h : x.mapError f = .error e) :
    ∃ e', f e' = e := by
  cases x with
  | error e' => exact ⟨e', Except.error.inj h⟩
  | ok a => cases h

/-- Two lists whose items are read alike, one by one, are read alike. -/
theorem toOption_mapM {σ τ : Type} {f : σ → Except ε α} {g : τ → Except δ α} {xs : List σ}
    {ys : List τ} (h : List.Forall₂ (fun x y => (f x).toOption = (g y).toOption) xs ys) :
    (xs.mapM f).toOption = (ys.mapM g).toOption := by
  induction h with
  | nil => rfl
  | cons h _ ih =>
    rw [List.mapM_cons, List.mapM_cons, toOption_bind, toOption_bind, h]
    refine congrArg _ (funext fun a => ?_)
    rw [toOption_bind, toOption_bind, ih]
    rfl

end AppVersions
