import Memberwise.Proofs.Run

/-!
# What a parser gives

A parser `Gives` a kind of result if every result of it is of that kind, whatever was read for it.

## Main definitions

* `Gives`: what holds of the results of a parser

## Main statements

* `Gives.bind`, `Gives.loop`, `Gives.loop_step`: sequences and repetition
* `gives_list`: the items of a list
-/

namespace Memberwise.Parser

variable {α β σ : Type} {c : Cursor} {p : Parser α} {Q : α → Prop} {Q' : β → Prop}

/-- If the parser succeeds at `c`, then `Q` holds of the result. -/
def Gives (c : Cursor) (p : Parser α) (Q : α → Prop) : Prop := ∀ a c', p c = .ok (a, c') → Q a

namespace Gives

theorem of_ok {a : α} {c' : Cursor} (h : Gives c p Q) (hp : p c = .ok (a, c')) : Q a := h a c' hp

theorem mono {R : α → Prop} (h : Gives c p Q) (hQ : ∀ a, Q a → R a) : Gives c p R :=
  fun a c' hp => hQ a (h a c' hp)

theorem pure {a : α} (h : Q a) : Gives c (pure a) Q := by
  rintro _ _ ⟨⟩
  exact h

theorem bind {f : α → Parser β} (hp : Gives c p Q) (hf : ∀ a d, Q a → Gives d (f a) Q') :
    Gives c (p >>= f) Q' := by
  intro b c' h
  obtain ⟨a, d, ha, hb⟩ := bind_eq_ok.1 h
  exact hf a d (hp a d ha) b c' hb

/-- What is given in the end may not depend on what is given first. -/
theorem then_ {f : α → Parser β} (hf : ∀ a d, Gives d (f a) Q') : Gives c (p >>= f) Q' :=
  bind (Q := fun _ => True) (fun _ _ _ => trivial) fun a d _ => hf a d

theorem map {f : α → β} (hp : Gives c p fun a => Q' (f a)) : Gives c (f <$> p) Q' := by
  rw [← bind_pure_comp]
  exact bind hp fun a d ha => pure ha

theorem ahead {f : List Token → Parser β} (hf : Gives c (f c.tokens) Q') :
    Gives c (ahead >>= f) Q' := hf

theorem here {f : Span → Parser β} (hf : Gives c (f c.span) Q') : Gives c (here >>= f) Q' := hf

theorem ite {b : Prop} [Decidable b] {q : Parser α} (hp : b → Gives c p Q)
    (hq : ¬ b → Gives c q Q) : Gives c (if b then p else q) Q := by
  split
  · next h => exact hp h
  · next h => exact hq h

theorem reject (cause : Cause) : Gives c (reject cause) Q := by rintro _ _ ⟨⟩

theorem rejectAt (cause : Cause) (span : Span) : Gives c (rejectAt cause span) Q := by
  rintro _ _ ⟨⟩

theorem expected (choices : List Terminal) : Gives c (expected choices) Q :=
  fun _ _ h => absurd h (expected_ne_ok _ _ _)

theorem expectedAt (ts : List Token) (choices : List Terminal) : Gives c (expectedAt ts choices) Q :=
  then_ fun _ _ => then_ fun _ _ => expected choices

/-- What is given for a group is what is given for its contents. -/
theorem bracketed {d : Delimiter} (hp : ∀ c, Gives c p Q) :
    Gives c (bracketed d p) fun r => Q r.2.1 := by
  intro r c' h
  obtain ⟨_, _, b, e, -, hb, rfl, -⟩ := bracketed_eq_ok h
  exact hp _ _ _ hb

theorem inside {d : Delimiter} (hp : ∀ c, Gives c p Q) : Gives c (inside d p) Q :=
  (bracketed hp).bind fun _ _ hr => pure hr

/-- A loop whose rounds keep an invariant of the state. -/
theorem loop {step : σ → Parser (σ ⊕ α)} (Inv : σ → Prop)
    (hstep : ∀ s d, Inv s → Gives d (step s) fun r => Sum.elim Inv Q r) {s : σ} (hs : Inv s) :
    Gives c (loop step s) Q := by
  -- Induction on what is left to read.
  generalize hlength : c.tokens.length = n
  induction n using Nat.strongRecOn generalizing s c with
  | ind n ih =>
    subst hlength
    intro a c' h
    rw [loop_eq] at h
    split at h
    · next b d hround =>
      cases h
      exact hstep s c hs _ _ hround
    · next next d hround =>
      split at h
      · next hless => exact ih _ hless (hstep s c hs _ _ hround) rfl a c' h
      · cases h
    · cases h

/-- What a loop gives, by its first round. -/
theorem loop_step {step : σ → Parser (σ ⊕ α)} {s : σ}
    (hstep : Gives c (step s) fun r =>
      Sum.elim (fun next => ∀ d, Gives d (Parser.loop step next) Q) Q r) :
    Gives c (Parser.loop step s) Q := by
  intro a d h
  rw [loop_eq] at h
  split at h
  · next b e hround =>
    cases h
    exact hstep _ _ hround
  · next next e hround =>
    split at h
    · exact hstep _ _ hround e a d h
    · cases h
  · cases h

end Gives

/-- The items of a list are as its parser gives them. -/
theorem gives_list (stop done : List Token → Bool) (text : String) (hp : ∀ c, Gives c p Q) :
    Gives c (loop (listRound stop done text p) []) fun l => ∀ a ∈ l.items, Q a := by
  refine Gives.loop (fun items => ∀ a ∈ items, Q a) (fun items d hitems => ?_) (by simp)
  refine Gives.ahead (Gives.ite (fun _ => Gives.pure (by simpa using hitems)) fun _ => ?_)
  refine (hp d).bind fun a e ha => ?_
  have hmore : ∀ b ∈ a :: items, Q b := by simpa using ⟨ha, hitems⟩
  refine Gives.ahead (Gives.ite (fun _ => Gives.pure ?_) fun _ => Gives.then_ fun _ _ => ?_)
  · simpa [or_comm] using hmore
  · exact Gives.pure hmore

/-- So are items that are read one after the other. -/
theorem gives_repeatUntil (stop : List Token → Bool) (hp : ∀ c, Gives c p Q) :
    Gives c (repeatUntil stop p) fun as => ∀ a ∈ as, Q a := by
  rw [repeatUntil_eq]
  refine Gives.loop (fun items => ∀ a ∈ items, Q a) (fun items d hitems => ?_) (by simp)
  refine Gives.ahead (Gives.ite (fun _ => Gives.pure (by simpa using hitems)) fun _ => ?_)
  exact (hp d).bind fun a e ha => Gives.pure (by simpa using ⟨ha, hitems⟩)

end Memberwise.Parser
