import Memberwise.Grammar.Statement

/-!
# The grammar, tied together

Each phrase is read by a function of a reader for all phrases. Whatever a phrase contains is shorter
than the phrase, so a reader that refuses to be called without anything having been read is as good
as the reader itself, and the recursion is bounded by the number of tokens.

## Main definitions

* `Phrases.body`: a phrase by means of a reader for the phrases in it
* `phrases`: the reader of all phrases

## Main statements

* `phrases_eq`: a phrase is read by means of `phrases` itself for what is shorter
-/

namespace Memberwise

/-- Reads a phrase, with a reader for the phrases in it. -/
def Phrases.body (ph : Phrases) : Phrases
  | .type plus => Parser.type ph plus
  | .bound capture const => Parser.bound ph capture const
  | .expression braces => Parser.expression ph braces
  | .operand braces => Parser.operand ph braces
  | .operators left base braces => Parser.operators ph left base braces
  | .pattern => Parser.pattern ph
  | .alternatives => Parser.alternatives ph
  | .statementExpression => Parser.statementExpression ph
  | .statements => do return ⟨← Parser.statements ph, .plain⟩
  | .item => do return ⟨(← Parser.item ph).tokens, .plain⟩
  | .namedFields => do return ⟨namedTokens (← Parser.namedFields ph), .plain⟩
  | .useTree rooted => Parser.useTree ph rooted

/-- The reader, where fewer than `count` tokens are left. -/
def Phrases.below (ph : Phrases) (count : Nat) : Phrases := fun phrase c =>
  if c.tokens.length < count then ph phrase c else .error (c.surplus none)

/-- The reader of all phrases, to the depth `bound`. -/
def phrasesUpTo : Nat → Phrases
  | 0 => fun _ c => .error (c.surplus none)
  | bound + 1 => fun phrase c =>
    (Phrases.below (phrasesUpTo bound) c.tokens.length).body phrase c

/-- The reader of all phrases. -/
def phrases : Phrases := fun phrase c => phrasesUpTo (c.tokens.length + 1) phrase c

/-- Any depth above the number of tokens gives the same result. -/
theorem phrasesUpTo_eq (bound : Nat) (phrase : Phrase) (c : Cursor)
    (enough : c.tokens.length < bound) : phrasesUpTo bound phrase c = phrases phrase c := by
  suffices general : ∀ (m n : Nat) (phrase : Phrase) (c : Cursor), c.tokens.length < m →
      c.tokens.length < n → phrasesUpTo m phrase c = phrasesUpTo n phrase c from
    general _ _ _ _ enough (Nat.lt_succ_self _)
  intro m
  induction m with
  | zero => intro n phrase c below; exact absurd below (Nat.not_lt_zero _)
  | succ m ih =>
    intro n phrase c belowM belowN
    cases n with
    | zero => exact absurd belowN (Nat.not_lt_zero _)
    | succ n =>
      have same : Phrases.below (phrasesUpTo m) c.tokens.length
          = Phrases.below (phrasesUpTo n) c.tokens.length := by
        funext inner d
        simp only [Phrases.below]
        split
        · exact ih n inner d (by omega) (by omega)
        · rfl
      simp only [phrasesUpTo, same]

/-- A phrase is read by means of the reader itself, for phrases that start after it. -/
theorem phrases_eq (phrase : Phrase) (c : Cursor) :
    phrases phrase c = (phrases.below c.tokens.length).body phrase c := by
  have same : Phrases.below (phrasesUpTo c.tokens.length) c.tokens.length
      = phrases.below c.tokens.length := by
    funext inner d
    simp only [Phrases.below]
    split
    · exact phrasesUpTo_eq _ _ _ ‹_›
    · rfl
  simp only [phrases, phrasesUpTo, same]

end Memberwise
