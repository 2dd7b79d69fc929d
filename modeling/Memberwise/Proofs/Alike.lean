import Mathlib.Data.List.Forall2
import Memberwise.Arguments
import Memberwise.Proofs.Run

/-!
# Reading streams that look alike

Two streams look alike if their tokens are the same, wherever these stand. A parser that does not
decide by the places of tokens makes the same of both: results that differ at most in places, or errors
with the same message. Where the streams end does not matter either, which is all that differs if the
tokens also stand in the same places.

## Main definitions

* `SameTokens`: streams that look alike, with the same places if `exact` holds
* `SameOutcome`: a result twice, or an error twice
* `Alike`: parsers that make the same of streams that look alike

## Main statements

* `Alike.bind`, `Alike.loop`: sequences and repetition
* `alike_arguments`: the arguments of an initializer
-/

namespace Memberwise

/-! ## Streams and results -/

/-- The same token, at the same place if `exact` holds. -/
structure Token.Alike (exact : Prop) (t u : Token) : Prop where
  lexeme : t.lexeme = u.lexeme
  span : exact → t.span = u.span

/-- The same tokens, at the same places if `exact` holds. -/
abbrev SameTokens (exact : Prop) : List Token → List Token → Prop := List.Forall₂ (Token.Alike exact)

/-- The same name, at the same place if `exact` holds. -/
structure Name.Alike (exact : Prop) (m n : Name) : Prop where
  text : m.text = n.text
  span : exact → m.span = n.span

/-- The same arguments, with the name at the same place if `exact` holds. -/
def Arguments.Alike (exact : Prop) (a b : Arguments) : Prop :=
  Option.Rel (Name.Alike exact) a.name b.name

theorem Arguments.Alike.eq {exact : Prop} {a b : Arguments} (h : Arguments.Alike exact a b)
    (hexact : exact) : a = b := by
  obtain ⟨m⟩ := a
  obtain ⟨n⟩ := b
  cases h with
  | none => rfl
  | @some m n h =>
    obtain ⟨text, span⟩ := m
    obtain ⟨text', span'⟩ := n
    obtain rfl : text = text' := h.text
    obtain rfl : span = span' := h.span hexact
    rfl

theorem Arguments.Alike.functionName {exact : Prop} {a b : Arguments} (h : a.Alike exact b) :
    a.functionName.text = b.functionName.text := by
  obtain ⟨m⟩ := a
  obtain ⟨n⟩ := b
  cases h with
  | none => rfl
  | some h => exact h.text

/-- Two results of which `R` holds, or two errors with the same message. -/
inductive SameOutcome {α β : Type} (R : α → β → Prop) :
    Except Diagnostic α → Except Diagnostic β → Prop
  | ok {a : α} {b : β} (h : R a b) : SameOutcome R (.ok a) (.ok b)
  | error {e e' : Diagnostic} (h : e'.message = e.message) : SameOutcome R (.error e) (.error e')

theorem SameOutcome.bind {α β γ δ : Type} {R : α → β → Prop} {S : γ → δ → Prop}
    {x : Except Diagnostic α} {y : Except Diagnostic β} {f : α → Except Diagnostic γ}
    {g : β → Except Diagnostic δ} (h : SameOutcome R x y)
    (hfg : ∀ a b, R a b → SameOutcome S (f a) (g b)) : SameOutcome S (x >>= f) (y >>= g) := by
  cases h with
  | ok h => exact hfg _ _ h
  | error h => exact .error h

section Streams

variable {exact : Prop} {ts us : List Token}

theorem sameTokens_of_lexemes (h : lexemes ts = lexemes us) : SameTokens False ts us := by
  induction ts generalizing us with
  | nil =>
    cases us with
    | nil => exact .nil
    | cons u us => cases h
  | cons t ts ih =>
    cases us with
    | nil => cases h
    | cons u us =>
      simp only [lexemes_cons, List.cons.injEq] at h
      exact .cons ⟨h.1, False.elim⟩ (ih h.2)

theorem sameTokens_refl (exact : Prop) (ts : List Token) : SameTokens exact ts ts :=
  List.forall₂_same.2 fun _ _ => ⟨rfl, fun _ => rfl⟩

theorem SameTokens.atEnd_eq (h : SameTokens exact ts us) : atEnd ts = atEnd us := by
  cases h with
  | nil => rfl
  | cons ht _ => simp only [atEnd, ht.lexeme]

/-- Operators are told by their characters. -/
theorem SameTokens.isOp_eq (h : SameTokens exact ts us) (text : String) :
    isOp text ts = isOp text us := by
  suffices general : ∀ cs, operatorStarts cs ts = operatorStarts cs us from general text.toList
  induction h with
  | nil => exact fun _ => rfl
  | @cons t u ts us ht _ ih =>
    intro cs
    obtain ⟨l, span⟩ := t
    obtain ⟨l', span'⟩ := u
    obtain rfl : l = l' := ht.lexeme
    cases cs with
    | nil => rfl
    | cons c cs =>
      cases cs with
      | nil => cases l <;> rfl
      | cons d cs =>
        cases l with
        | punct e spacing => cases spacing <;> simp [operatorStarts, ih]
        | ident | literal | opening | closing => rfl

theorem SameTokens.take (h : SameTokens exact ts us) (n : Nat) :
    SameTokens exact (ts.take n) (us.take n) := List.forall₂_take n h

theorem SameTokens.drop (h : SameTokens exact ts us) (n : Nat) :
    SameTokens exact (ts.drop n) (us.drop n) := List.forall₂_drop n h

/-- The tokens of a string are placed where the string is. -/
theorem sameTokens_placedIn {span span' : Span} (h : exact → span = span') (ts : List Token) :
    SameTokens exact (ts.map (Token.placedIn span)) (ts.map (Token.placedIn span')) := by
  induction ts with
  | nil => exact .nil
  | cons t ts ih =>
    refine .cons ⟨?_, fun hexact => by rw [h hexact]⟩ ih
    obtain ⟨l, _⟩ := t
    cases l <;> rfl

end Streams

/-! ## Parsers -/

/-- The same tokens are left, and what was left over gives the same message. -/
structure Cursor.Alike (exact : Prop) (c c' : Cursor) : Prop where
  tokens : SameTokens exact c.tokens c'.tokens
  leftover : c.leftover.map Diagnostic.message = c'.leftover.map Diagnostic.message

namespace Parser

variable {α β γ δ σ τ : Type}

/-- From streams that look alike the parsers make results of which `R` holds and leave streams that
look alike, or fail with the same message. -/
def Alike (exact : Prop) (R : α → β → Prop) (p : Parser α) (q : Parser β) : Prop :=
  ∀ c c', c.Alike exact c' →
    SameOutcome (fun r r' => R r.1 r'.1 ∧ r.2.Alike exact r'.2) (p c) (q c')

namespace Alike

variable {exact : Prop} {R : α → β → Prop} {S : γ → δ → Prop}

theorem pure {a : α} {b : β} (h : R a b) : Alike exact R (pure a) (pure b) :=
  fun _ _ hc => .ok ⟨h, hc⟩

theorem bind {p : Parser α} {q : Parser β} {f : α → Parser γ} {g : β → Parser δ}
    (hp : Alike exact R p q) (hf : ∀ a b, R a b → Alike exact S (f a) (g b)) :
    Alike exact S (p >>= f) (q >>= g) := by
  intro c c' hc
  have hfirst := hp c c' hc
  rw [bind_apply, bind_apply]
  generalize p c = r, q c' = r' at hfirst
  cases hfirst with
  | ok h => exact hf _ _ h.1 _ _ h.2
  | error h => exact .error h

theorem ite {b b' : Prop} [Decidable b] [Decidable b'] {p p' : Parser α} {q q' : Parser β}
    (hb : b ↔ b') (hp : Alike exact R p q) (hq : Alike exact R p' q') :
    Alike exact R (if b then p else p') (if b' then q else q') := by
  by_cases h : b
  · rw [if_pos h, if_pos (hb.1 h)]
    exact hp
  · rw [if_neg h, if_neg (mt hb.2 h)]
    exact hq

theorem ahead {f : List Token → Parser α} {g : List Token → Parser β}
    (hf : ∀ ts us, SameTokens exact ts us → Alike exact R (f ts) (g us)) :
    Alike exact R (ahead >>= f) (ahead >>= g) :=
  fun c c' hc => hf _ _ hc.tokens c c' hc

theorem ended : Alike exact Eq ended ended := by
  intro c c' hc
  exact .ok ⟨hc.tokens.atEnd_eq, hc⟩

theorem take (n : Nat) : Alike exact (SameTokens exact) (take n) (take n) := by
  intro c c' hc
  exact .ok ⟨hc.tokens.take n, hc.tokens.drop n, hc.leftover⟩

theorem reject (cause : Cause) :
    Alike exact R (reject cause : Parser α) (reject cause : Parser β) := by
  intro c c' hc
  refine .error ?_
  simp only [Cursor.reject, Diagnostic.message, hc.tokens.atEnd_eq]

theorem rejectAt (cause : Cause) (span span' : Span) :
    Alike exact R (rejectAt cause span : Parser α) (rejectAt cause span' : Parser β) :=
  fun _ _ _ => .error rfl

theorem operator (text : String) : Alike exact (fun _ _ => True) (operator text) (operator text) := by
  intro c c' hc
  rw [operator_apply, operator_apply, hc.tokens.isOp_eq]
  by_cases h : isOp text c'.tokens
  · rw [if_pos h, if_pos h]
    exact .ok ⟨trivial, hc.tokens.drop _, hc.leftover⟩
  · rw [if_neg h, if_neg h]
    exact .error rfl

theorem lift {r : Except Diagnostic α} {r' : Except Diagnostic β} (h : SameOutcome R r r') :
    Alike exact R (liftM r : Parser α) (liftM r' : Parser β) := by
  intro c c' hc
  cases h with
  | ok h => exact .ok ⟨h, hc⟩
  | error h => exact .error h

/-- A loop whose rounds keep a relation between the states. -/
theorem loop {step : σ → Parser (σ ⊕ α)} {step' : τ → Parser (τ ⊕ β)} (Inv : σ → τ → Prop)
    (hstep : ∀ s s', Inv s s' → Alike exact (Sum.LiftRel Inv R) (step s) (step' s')) {s : σ} {s' : τ}
    (hs : Inv s s') : Alike exact R (loop step s) (loop step' s') := by
  intro c c' hc
  -- Induction on what is left to read.
  generalize hlength : c.tokens.length = n
  induction n using Nat.strongRecOn generalizing s s' c c' with
  | ind n ih =>
    subst hlength
    have hround := hstep s s' hs c c' hc
    rw [loop_eq, loop_eq]
    generalize step s c = r, step' s' c' = r' at hround
    cases hround with
    | error h => exact .error h
    | @ok r r' h =>
      obtain ⟨next, d⟩ := r
      obtain ⟨next', d'⟩ := r'
      obtain ⟨hnext, hd⟩ := h
      cases hnext with
      | inr h => exact .ok ⟨h, hd⟩
      | inl h =>
        simp only [hc.tokens.length_eq, hd.tokens.length_eq]
        by_cases hless : d'.tokens.length < c'.tokens.length
        · rw [if_pos hless, if_pos hless]
          refine ih _ ?_ h d d' hd rfl
          rw [hc.tokens.length_eq, hd.tokens.length_eq]
          exact hless
        · rw [if_neg hless, if_neg hless]
          exact .error rfl

theorem identifier : Alike exact (SameTokens exact) identifier identifier := by
  refine ahead fun ts us h => ?_
  cases h with
  | nil => exact reject _
  | @cons t u ts us ht _ =>
    obtain ⟨l, span⟩ := t
    obtain ⟨l', span'⟩ := u
    obtain rfl : l = l' := ht.lexeme
    cases l with
    | ident text => exact ite Iff.rfl (reject _) (take 1)
    | punct | literal | opening | closing => exact reject _

theorem name : Alike exact (Name.Alike exact) name name := by
  refine bind identifier fun ts us h => pure ?_
  cases h with
  | nil => exact ⟨rfl, fun _ => rfl⟩
  | cons ht _ => exact ⟨congrArg Lexeme.text ht.lexeme, ht.span⟩

end Alike

/-- Whole streams that look alike are read alike, wherever they end. -/
theorem Alike.parseAll {exact : Prop} {R : α → β → Prop} {p : Parser α} {q : Parser β}
    (h : Alike exact R p q) {ts us : List Token} (hts : SameTokens exact ts us)
    (limit limit' : Span) : SameOutcome R (parseAll p ts limit) (parseAll q us limit') := by
  refine SameOutcome.bind (h _ _ ⟨hts, rfl⟩) ?_
  rintro ⟨a, c⟩ ⟨b, c'⟩ ⟨hab, hc⟩
  have hleft := hc.leftover
  cases hc₁ : c.leftover <;> cases hc₂ : c'.leftover <;> simp only [hc₁, hc₂] at hleft ⊢
  · simp only [hc.tokens.atEnd_eq]
    by_cases hend : atEnd c'.tokens
    · rw [if_pos hend, if_pos hend]
      exact .ok hab
    · rw [if_neg hend, if_neg hend]
      exact .error rfl
  · cases hleft
  · cases hleft
  · exact .error (Option.some.inj hleft).symm

/-! ## Arguments -/

section Arguments

variable {exact : Prop}

theorem alike_ofLiteral (text : String) {span span' : Span} (h : exact → span = span') :
    SameOutcome (Name.Alike exact) (Name.ofLiteral text span) (Name.ofLiteral text span') := by
  unfold Name.ofLiteral
  split
  · exact .error rfl
  · next literal _ =>
    split
    · exact .error rfl
    · next ts _ =>
      refine SameOutcome.bind (Alike.name.parseAll (sameTokens_placedIn h ts) span span') ?_
      intro n n' hn
      split
      · exact .ok hn
      · exact .error rfl

theorem alike_argumentValue : Alike exact (Name.Alike exact) argumentValue argumentValue := by
  refine Alike.ahead fun ts us h => ?_
  cases h with
  | nil => exact Alike.name
  | @cons t u ts us ht _ =>
    obtain ⟨l, span⟩ := t
    obtain ⟨l', span'⟩ := u
    obtain rfl : l = l' := ht.lexeme
    cases l with
    | literal text =>
      refine Alike.ite Iff.rfl (Alike.bind (Alike.take 1) fun _ _ _ => ?_) Alike.name
      exact Alike.lift (alike_ofLiteral text ht.span)
    | ident | punct | opening | closing => exact Alike.name

/-- Arguments are read alike. -/
theorem alike_arguments : Alike exact (Arguments.Alike exact) arguments arguments := by
  refine Alike.loop (Option.Rel (Name.Alike exact)) (fun found found' hfound => ?_) .none
  refine Alike.bind Alike.ended ?_
  rintro last _ rfl
  refine Alike.ite Iff.rfl (Alike.pure (.inr hfound)) ?_
  refine Alike.bind Alike.name fun n n' hn => Alike.ite (by rw [hn.text]) ?_ ?_
  · -- An argument that was given before is an error in both.
    have hvalue : Alike exact (Sum.LiftRel (Option.Rel (Name.Alike exact)) (Arguments.Alike exact))
        (do
          let _ ← operator "="
          let value ← argumentValue
          if ← ended then return .inr ⟨some value⟩
          let _ ← operator ","
          return .inl (some value) : Parser (Option Name ⊕ Arguments))
        (do
          let _ ← operator "="
          let value ← argumentValue
          if ← ended then return .inr ⟨some value⟩
          let _ ← operator ","
          return .inl (some value)) := by
      refine Alike.bind (Alike.operator "=") fun _ _ _ =>
        Alike.bind alike_argumentValue fun value value' hvalue => Alike.bind Alike.ended ?_
      rintro last _ rfl
      refine Alike.ite Iff.rfl (Alike.pure (.inr (.some hvalue))) ?_
      exact Alike.bind (Alike.operator ",") fun _ _ _ => Alike.pure (.inl (.some hvalue))
    have hsome : found.isSome = found'.isSome := by cases hfound <;> rfl
    rw [hn.text]
    refine Alike.ite (by rw [hsome]) ?_ hvalue
    exact Alike.bind (Alike.rejectAt (R := Eq) _ _ _) fun _ _ _ => hvalue
  · rw [hn.text]
    exact Alike.rejectAt _ _ _

end Arguments

end Parser

end Memberwise
