import Memberwise.Proofs.Finds

/-!
# Readers for less

Inside a phrase, the phrases in it are read by a reader that refuses what is not shorter. Whatever is
read with such a reader is read in the same way with the reader for all phrases, since refusing is all
that the two differ in. The rules are instances of a class, as the parsers are put together.

## Main definitions

* `Extends`: what one parser reads, another reads in the same way

## Main statements

* `Extends.finds`: so it finds the same
-/

namespace Memberwise.Parser

variable {α β σ : Type}

/-- What the first parser reads, the second reads in the same way. -/
class Extends (p q : Parser α) : Prop where
  eq_ok : ∀ {c : Cursor} {r : α × Cursor}, p c = .ok r → q c = .ok r

namespace Extends

variable {p q : Parser α}

theorem finds [h : Extends p q] {ts rest : List Token} {a : α} (hp : Finds p ts rest a) :
    Finds q ts rest a := by
  obtain ⟨limit, hread⟩ := hp.read
  exact ⟨hp.whole, hp.closed, limit, h.eq_ok hread⟩

instance refl (p : Parser α) : Extends p p := ⟨id⟩

instance bind (p q : Parser α) (f g : α → Parser β) [hp : Extends p q] [hf : ∀ a, Extends (f a) (g a)] :
    Extends (p >>= f) (q >>= g) := by
  refine ⟨fun {c r} h => ?_⟩
  obtain ⟨b, d⟩ := r
  obtain ⟨a, e, ha, hb⟩ := bind_eq_ok.1 h
  exact bind_eq_ok.2 ⟨a, e, hp.eq_ok ha, (hf a).eq_ok hb⟩

instance ite (b : Prop) [Decidable b] (p q p' q' : Parser α) [Extends p p'] [Extends q q'] :
    Extends (if b then p else q) (if b then p' else q') := by
  split <;> infer_instance

instance loop (step step' : σ → Parser (σ ⊕ α)) (s : σ) [hstep : ∀ s, Extends (step s) (step' s)] :
    Extends (loop step s) (loop step' s) := by
  refine ⟨fun {c r} h => ?_⟩
  -- Induction on what is left to read.
  generalize hlength : c.tokens.length = n
  induction n using Nat.strongRecOn generalizing s c with
  | ind n ih =>
    subst hlength
    rw [loop_eq] at h ⊢
    split at h
    · next a d hround =>
      rw [(hstep s).eq_ok hround]
      exact h
    · next next d hround =>
      rw [(hstep s).eq_ok hround]
      split at h
      · next hless =>
        simp only [hless, if_true]
        exact ih _ hless next h rfl
      · cases h
    · cases h

instance bracketedThen (d : Delimiter) (p q : Parser α) (next next' : Token → α → Token → Parser β)
    [Extends p q] [∀ first a last, Extends (next first a last) (next' first a last)] :
    Extends (bracketedThen d p next) (bracketedThen d q next') := by
  unfold Parser.bracketedThen
  refine @bind _ _ _ _ _ _ _ fun ts => ?_
  cases ts <;> infer_instance

instance bracketed (d : Delimiter) (p q : Parser α) [Extends p q] :
    Extends (bracketed d p) (bracketed d q) := by
  unfold Parser.bracketed
  infer_instance

instance group (d : Delimiter) (p q : Parser (List Token)) [Extends p q] :
    Extends (group d p) (group d q) := by
  unfold Parser.group
  infer_instance

instance seq_cons (p q : Parser (List Token)) (ps qs : List (Parser (List Token))) [Extends p q]
    [Extends (seq ps) (seq qs)] : Extends (seq (p :: ps)) (seq (q :: qs)) := by
  unfold seq
  infer_instance

instance repeatUntil (stop : List Token → Bool) (p q : Parser α) [Extends p q] :
    Extends (repeatUntil stop p) (repeatUntil stop q) := by
  unfold Parser.repeatUntil
  infer_instance

instance separated (stop : List Token → Bool) (text : String) (p q : Parser α) [Extends p q] :
    Extends (separated stop text p) (separated stop text q) := by
  unfold Parser.separated
  infer_instance

instance joined (stop : List Token → Bool) (text : String) (p q : Parser α) [Extends p q] :
    Extends (joined stop text p) (joined stop text q) := by
  unfold Parser.joined
  infer_instance

end Extends

/-! ## Attributes and parameters -/

section Phrases

-- A rule counts once for each step that it is nested in, so long parsers need many.
set_option synthInstance.maxSize 1000

variable {ph ph' : Phrases} [∀ phrase, Extends (ph phrase) (ph' phrase)]

instance (phrase : Phrase) : Extends (ph.tokens phrase) (ph'.tokens phrase) := by
  unfold Phrases.tokens
  infer_instance

instance : Extends (attributeContent ph) (attributeContent ph') := by
  unfold attributeContent
  infer_instance

instance (inner : Bool) (start : Span) :
    Extends (attributeBody ph inner start) (attributeBody ph' inner start) := by
  unfold attributeBody
  infer_instance

instance : Extends (outerAttributes ph) (outerAttributes ph') := by
  unfold outerAttributes outerAttribute
  infer_instance

instance : Extends (inner ph) (inner ph') := by
  unfold inner innerAttributes innerAttribute
  infer_instance

instance (stop : List Token → Bool) (p q : Parser (List Token)) [Extends p q] :
    Extends (bounds stop p) (bounds stop q) := by
  unfold bounds
  infer_instance

instance : Extends (typeParam ph) (typeParam ph') := by
  unfold typeParam
  infer_instance

instance : Extends (constArgument ph) (constArgument ph') := by
  unfold constArgument attributedBlock
  infer_instance

instance : Extends (constParam ph) (constParam ph') := by
  unfold constParam
  infer_instance

instance : Extends (declaredParam ph) (declaredParam ph') := by
  unfold declaredParam
  infer_instance

instance : Extends (boundParam ph) (boundParam ph') := by
  unfold boundParam
  infer_instance

instance : Extends (generics ph) (generics ph') := by
  unfold generics
  infer_instance

end Phrases

/-- A reader for what is shorter reads as the reader for all. -/
instance (count : Nat) (phrase : Phrase) : Extends (phrases.below count phrase) (phrases phrase) := by
  refine ⟨fun {c r} h => ?_⟩
  unfold Phrases.below at h
  split at h
  · exact h
  · cases h

end Memberwise.Parser
