import DebugBridge.Failure

/-!
# Runs

A run changes a state and gives a value or ends in a failure; what it has changed until then stays
changed.

A measure of the state says how much there is left to do. `Shrinks` says that a run never makes it
larger, `Consumes` that it makes it smaller whenever it succeeds. Both are kept by running one
thing after another, and a loop whose every round consumes comes to an end.
-/

namespace DebugBridge

/-- A run on states of a type. -/
abbrev Run (σ : Type) := ExceptT Failure (StateM σ)

namespace Run

variable {σ α β : Type}

/-- A run that never leaves more than there was. -/
def Shrinks (size : σ → Nat) (x : Run σ α) : Prop := ∀ s, size (x s).2 ≤ size s

/-- A run that leaves less than there was whenever it succeeds. -/
def Consumes (size : σ → Nat) (x : Run σ α) : Prop :=
  ∀ s a s', x s = (.ok a, s') → size s' < size s

theorem bind_apply (x : Run σ α) (f : α → Run σ β) (s : σ) :
    (x >>= f) s =
      match x s with
      | (.ok a, s') => f a s'
      | (.error e, s') => (.error e, s') := by
  simp only [bind, ExceptT.bind, ExceptT.mk, StateT.bind]
  rcases x s with ⟨_ | _, s'⟩ <;> rfl

theorem shrinks_pure (size : σ → Nat) (a : α) : Shrinks size (pure a : Run σ α) :=
  fun _ => Nat.le_refl _

theorem shrinks_throw (size : σ → Nat) (e : Failure) : Shrinks size (throw e : Run σ α) :=
  fun _ => Nat.le_refl _

theorem shrinks_lift (size : σ → Nat) (x : Except Failure α) :
    Shrinks size (x : Run σ α) := by
  intro s
  cases x <;> exact Nat.le_refl _

theorem Shrinks.bind {size : σ → Nat} {x : Run σ α} {f : α → Run σ β}
    (hx : Shrinks size x) (hf : ∀ a, Shrinks size (f a)) : Shrinks size (x >>= f) := by
  intro s
  rw [bind_apply]
  have := hx s
  split
  · next a s' h => exact Nat.le_trans (hf a s') (by simpa [h] using this)
  · next e s' h => simpa [h] using this

theorem Consumes.bind {size : σ → Nat} {x : Run σ α} {f : α → Run σ β}
    (hx : Consumes size x) (hf : ∀ a, Shrinks size (f a)) : Consumes size (x >>= f) := by
  intro s b s'' h
  rw [bind_apply] at h
  split at h
  · next a s' hs =>
    have := hf a s'
    rw [h] at this
    exact Nat.lt_of_le_of_lt this (hx s a s' hs)
  · cases h

end Run

end DebugBridge
