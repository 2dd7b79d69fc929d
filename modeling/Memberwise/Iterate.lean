/-!
# Bounded iteration

A loop whose every round must make a measure smaller. Reading text and reading tokens both proceed
this way: each round uses up some input. A round that uses up nothing ends the loop, so every loop
built here is total and no bound shows in its type.

## Main statements

* `iterate_eq`: one round of the loop, then the loop again.
* `iterate_invariant`: what every round keeps holds when the loop ends.
-/

namespace Memberwise

/-- At most `bound` rounds of `step`. A round that does not make the measure smaller is the last. -/
def iterateUpTo {σ α : Type} (measure : σ → Nat) (step : σ → σ ⊕ α) (stalled : σ → α) :
    Nat → σ → α
  | 0, state => stalled state
  | bound + 1, state =>
    match step state with
    | .inr result => result
    | .inl next =>
      if measure next < measure state then iterateUpTo measure step stalled bound next
      else stalled next

/-- Repeats `step` until it gives a result. -/
def iterate {σ α : Type} (measure : σ → Nat) (step : σ → σ ⊕ α) (stalled : σ → α) (state : σ) : α :=
  iterateUpTo measure step stalled (measure state + 1) state

/-- Any bound above the measure gives the same result. -/
theorem iterateUpTo_eq_iterate {σ α : Type} (measure : σ → Nat) (step : σ → σ ⊕ α)
    (stalled : σ → α) (bound : Nat) (state : σ) (enough : measure state < bound) :
    iterateUpTo measure step stalled bound state = iterate measure step stalled state := by
  suffices general : ∀ (m n : Nat) (state : σ), measure state < m → measure state < n →
      iterateUpTo measure step stalled m state = iterateUpTo measure step stalled n state from
    general _ _ _ enough (Nat.lt_succ_self _)
  intro m
  induction m with
  | zero => intro n state below; exact absurd below (Nat.not_lt_zero _)
  | succ m ih =>
    intro n state belowM belowN
    cases n with
    | zero => exact absurd belowN (Nat.not_lt_zero _)
    | succ n =>
      simp only [iterateUpTo]
      split
      · rfl
      · split
        · exact ih _ _ (by omega) (by omega)
        · rfl

theorem iterate_eq {σ α : Type} (measure : σ → Nat) (step : σ → σ ⊕ α) (stalled : σ → α)
    (state : σ) :
    iterate measure step stalled state =
      match step state with
      | .inr result => result
      | .inl next =>
        if measure next < measure state then iterate measure step stalled next
        else stalled next := by
  rw [iterate, iterateUpTo]
  split
  · rfl
  · split
    · exact iterateUpTo_eq_iterate _ _ _ _ _ ‹_›
    · rfl

/-- An invariant of the rounds leads to what the last round makes of it. -/
theorem iterate_invariant {σ α : Type} {measure : σ → Nat} {step : σ → σ ⊕ α} {stalled : σ → α}
    (Inv : σ → Prop) (Result : α → Prop)
    (hnext : ∀ s next, Inv s → step s = .inl next → Inv next)
    (hlast : ∀ s result, Inv s → step s = .inr result → Result result)
    (hstalled : ∀ s, Inv s → Result (stalled s)) {state : σ} (h : Inv state) :
    Result (iterate measure step stalled state) := by
  suffices general : ∀ bound state, Inv state →
      Result (iterateUpTo measure step stalled bound state) from general _ _ h
  intro bound
  induction bound with
  | zero => intro state h; exact hstalled state h
  | succ bound ih =>
    intro state h
    simp only [iterateUpTo]
    split
    · next result hstep => exact hlast state result h hstep
    · next next hstep =>
      have hinv := hnext state next h hstep
      split
      · exact ih next hinv
      · exact hstalled next hinv

end Memberwise
