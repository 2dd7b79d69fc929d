import Memberwise.Proofs.ReadsBack

/-!
# Readers for what is shorter

A phrase is read by means of a reader for the phrases in it, which are shorter. Since no parser gives
tokens back to the stream, whatever stands inside a phrase is read by that reader in the same way as
it is read alone.

## Main definitions

* `Shrinks`: a parser leaves no more tokens than it finds

## Main statements

* `reads_phrase`, `reads_below`: a phrase alone, and inside another
* `bind_congr_at`, `loop_congr_at`, `bracketed_congr_at`: parsers that agree as far as they come
* `reads_outer_below`: attributes inside a phrase
-/

namespace Memberwise.Parser

variable {α β σ : Type} {rest : List Token}

/-! ## One level -/

/-- A phrase is read if its reader reads it. -/
theorem reads_phrase {phrase : Phrase} {ts : List Token} {Q : Fragment → Prop}
    (h : Reads ((phrases.below (ts ++ rest).length).body phrase) ts rest Q) :
    Reads (phrases phrase) ts rest Q := by
  intro left limit
  rw [phrases_eq]
  exact h left limit

/-- A phrase is read inside another if it is shorter. -/
theorem reads_below {phrase : Phrase} {count : Nat} {ts : List Token} {Q : Fragment → Prop}
    (hless : (ts ++ rest).length < count) (h : Reads (phrases phrase) ts rest Q) :
    Reads (phrases.below count phrase) ts rest Q := by
  intro left limit
  rw [Phrases.below, if_pos hless]
  exact h left limit

/-- Fewer tokens than the limit are read as if there was none. -/
theorem tokens_below {count : Nat} {c : Cursor} (phrase : Phrase) (h : c.tokens.length < count) :
    (phrases.below count).tokens phrase c = phrases.tokens phrase c := by
  simp only [Phrases.tokens, bind_apply, Phrases.below, if_pos h]

/-! ## What is left -/

/-- The parser leaves no more tokens than it finds. -/
def Shrinks (p : Parser α) : Prop :=
  ∀ c a d, p c = .ok (a, d) → d.tokens.length ≤ c.tokens.length

namespace Shrinks

theorem pure (a : α) : Shrinks (pure a) := by
  rintro c _ _ ⟨⟩
  exact Nat.le_refl _

theorem bind {p : Parser α} {f : α → Parser β} (hp : Shrinks p) (hf : ∀ a, Shrinks (f a)) :
    Shrinks (p >>= f) := by
  intro c b e h
  obtain ⟨a, d, ha, hb⟩ := bind_eq_ok.1 h
  exact Nat.le_trans (hf a d b e hb) (hp c a d ha)

theorem ahead : Shrinks ahead := by
  rintro c _ _ ⟨⟩
  exact Nat.le_refl _

theorem take (n : Nat) : Shrinks (take n) := by
  rintro c _ _ ⟨⟩
  simp

theorem reject (cause : Cause) : Shrinks (reject cause : Parser α) := by rintro c _ _ ⟨⟩

theorem ite {b : Prop} [Decidable b] {p q : Parser α} (hp : Shrinks p) (hq : Shrinks q) :
    Shrinks (if b then p else q) := by
  split
  · exact hp
  · exact hq

theorem operator (text : String) : Shrinks (operator text) := by
  refine bind ahead fun ts => ite (bind (take _) fun _ => pure _) ?_
  rintro c _ _ ⟨⟩

theorem identifier : Shrinks identifier := by
  intro c a d h
  obtain ⟨word, span, rest, -, htokens, hr⟩ := identifier_eq_ok h
  cases hr
  simp [htokens]

theorem loop {step : σ → Parser (σ ⊕ α)} (hstep : ∀ s, Shrinks (step s)) (s : σ) :
    Shrinks (loop step s) := by
  intro c
  -- Induction on what is left to read.
  generalize hlength : c.tokens.length = n
  induction n using Nat.strongRecOn generalizing s c with
  | ind n ih =>
    subst hlength
    intro a d h
    rw [loop_eq] at h
    split at h
    · next b e hround =>
      cases h
      exact hstep s c _ _ hround
    · next next e hround =>
      split at h
      · next hless => exact Nat.le_trans (ih _ hless next e rfl a d h) (Nat.le_of_lt hless)
      · cases h
    · cases h

theorem modPath : Shrinks modPath := by
  refine bind (bind ahead fun _ => ite (operator _) (pure _)) fun _ =>
    bind (loop (fun read => bind ahead fun _ => ite ?_ (ite ?_ (reject _))) _) fun _ => pure _
  · exact bind (take _) fun _ => bind ahead fun _ =>
      ite (bind (operator _) fun _ => pure _) (pure _)
  · exact bind identifier fun _ => pure _

end Shrinks

/-! ## Parsers that agree -/

/-- What follows matters only where it is reached. -/
theorem bind_congr_at {p : Parser α} {f g : α → Parser β} {c : Cursor}
    (h : ∀ a d, p c = .ok (a, d) → f a d = g a d) : (p >>= f) c = (p >>= g) c := by
  rw [bind_apply, bind_apply]
  split
  · next a d hp => exact h a d hp
  · rfl

/-- The contents of a group are shorter than the group. -/
theorem bracketed_congr_at {delimiter : Delimiter} {p q : Parser α} {c : Cursor}
    (h : ∀ d : Cursor, d.tokens.length < c.tokens.length → p d = q d) :
    bracketed delimiter p c = bracketed delimiter q c := by
  refine bind_congr_at fun ts d hd => ?_
  obtain ⟨rfl, rfl⟩ : ts = c.tokens ∧ d = c := by simpa [eq_comm] using hd
  cases htokens : d.tokens with
  | nil => rfl
  | cons t us =>
    simp only [ite_apply]
    refine if_congr Iff.rfl (bind_congr_at fun _ e he => ?_) rfl
    cases he
    rw [bind_apply, bind_apply, h _ (by simp [htokens])]

/-- A loop only comes to what is no longer than what it starts with. -/
theorem loop_congr_at {step step' : σ → Parser (σ ⊕ α)} {c : Cursor}
    (h : ∀ s d, d.tokens.length ≤ c.tokens.length → step s d = step' s d) (s : σ) :
    loop step s c = loop step' s c := by
  -- Induction on what is left to read.
  generalize hlength : c.tokens.length = n
  induction n using Nat.strongRecOn generalizing s c with
  | ind n ih =>
    subst hlength
    rw [loop_eq, loop_eq, h s c (Nat.le_refl _)]
    split
    · rfl
    · next next d hround =>
      by_cases hless : d.tokens.length < c.tokens.length
      · rw [if_pos hless, if_pos hless]
        exact ih _ hless (fun s e he => h s e (by omega)) next rfl
      · rw [if_neg hless, if_neg hless]
    · rfl

/-! ## Attributes -/

theorem attributeContent_below {count : Nat} {c : Cursor} (h : c.tokens.length ≤ count) :
    attributeContent (phrases.below count) c = attributeContent phrases c := by
  refine bind_congr_at fun ts d hd => ?_
  obtain ⟨rfl, rfl⟩ : ts = c.tokens ∧ d = c := by simpa [eq_comm] using hd
  simp only [ite_apply]
  refine if_congr Iff.rfl rfl (if_congr Iff.rfl ?_ rfl)
  refine bind_congr_at fun _ e he => bind_congr_at fun _ f hf => bind_congr_at fun ts g hg => ?_
  cases he
  obtain ⟨rfl, rfl⟩ : ts = f.tokens ∧ g = f := by simpa [eq_comm] using hg
  obtain ⟨hop, hf⟩ := operator_eq_ok hf
  have hless : g.tokens.length < count := by
    cases hf
    cases hd : d.tokens with
    | nil => simp [hd, isOp_nil] at hop
    | cons t ts =>
      rw [hd, List.length_cons] at h
      exact h
  simp only [ite_apply]
  refine if_congr Iff.rfl rfl ?_
  rw [bind_apply, bind_apply, tokens_below _ hless]

/-- An attribute is read in the same way by a reader for what is shorter. -/
theorem outerAttribute_below {count : Nat} {c : Cursor} (h : c.tokens.length ≤ count) :
    outerAttribute (phrases.below count) c = outerAttribute phrases c := by
  refine bind_congr_at fun _ d hd => bind_congr_at fun _ e he => ?_
  cases hd
  have hshort : e.tokens.length ≤ count := Nat.le_trans (Shrinks.operator _ _ _ _ he) h
  have hcontent : ∀ path, ∀ f : Cursor, f.tokens.length ≤ e.tokens.length →
      (do return (path, ← attributeContent (phrases.below count)) : Parser (List Token × _)) f
        = (do return (path, ← attributeContent phrases) : Parser (List Token × _)) f := by
    intro path f hf
    rw [bind_apply, bind_apply, attributeContent_below (Nat.le_trans hf hshort)]
  rw [attributeBody, attributeBody, bind_apply, bind_apply, bracketed_congr_at fun f hf => ?_]
  refine bind_congr_at fun ts g hg => ?_
  cases hg
  rw [ite_apply, ite_apply]
  refine if_congr Iff.rfl (hcontent _ _ ?_) (bind_congr_at fun path g hg => hcontent _ _ ?_)
  · simp
    omega
  · have hmod := Shrinks.modPath _ _ _ hg
    omega

theorem outerAttributes_below {count : Nat} {c : Cursor} (h : c.tokens.length ≤ count) :
    outerAttributes (phrases.below count) c = outerAttributes phrases c := by
  rw [outerAttributes, outerAttributes, repeatUntil_eq, repeatUntil_eq]
  refine loop_congr_at (fun as d hd => bind_congr_at fun ts e he => ?_) []
  cases he
  simp only [ite_apply]
  refine if_congr Iff.rfl rfl ?_
  rw [bind_apply, bind_apply, outerAttribute_below (Nat.le_trans hd h)]

/-- Attributes are read by a reader for what is shorter. -/
theorem reads_outer_below {count : Nat} {as : List Attribute} (h : ∀ a ∈ as, a.ReadsBack)
    (hrest : isOp "#" rest = false) (hless : (Attribute.listTokens as ++ rest).length ≤ count) :
    Reads (outer (phrases.below count)) (Attribute.listTokens as) rest
      fun ts => lexemes ts = lexemes (Attribute.listTokens as) := by
  have hread : Reads (outerAttributes (phrases.below count)) (Attribute.listTokens as) rest
      fun bs => bs.map (fun b => lexemes b.tokens) = as.map fun a => lexemes a.tokens := by
    intro left limit
    rw [outerAttributes_below hless]
    exact reads_outerAttributes h hrest left limit
  exact hread.bind_pure fun bs hbs => lexemes_listTokens hbs

end Memberwise.Parser
