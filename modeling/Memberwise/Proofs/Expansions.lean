import Memberwise.Proofs.Outcome
import Memberwise.Proofs.WrittenItems

/-!
# The item and what is added to it

An attribute gives the item back whenever it can be read, and adds one thing to it, whatever else goes
wrong. What is given back is the item of the source, written again. A derive gives back nothing and only
adds.

## Main statements

* `expansion_outcomes`: the shape of every expansion, and which of several errors is reported
-/

namespace Memberwise

/-- What an attribute and a derive of `item` expand to. An item that cannot be read is reported, by
the attribute for all arguments in the same way. One that can be read is written again by the attribute,
for all arguments the same, and never by the derive; and one thing is added to it. -/
theorem expansion_outcomes (item : List Token) :
    ((∃ e, readItem item = .error e
        ∧ ∀ arguments, Reports (expandAttribute arguments item).tokens e)
      ∨ ∃ i, readItem item = .ok i ∧ (Whole item → Rewritten .plain item [] i.tokens)
          ∧ ∀ arguments, ∃ added, (expandAttribute arguments item).tokens = i.tokens ++ added
            ∧ Adds added i (readArguments arguments))
    ∧ ((∃ e, readDefinition item = .error e ∧ Reports (expandDerive item).tokens e)
      ∨ ∃ d, readDefinition item = .ok d
          ∧ Adds (expandDerive item).tokens d.item (Arguments.ofAttributes d.attributes)) := by
  constructor
  · cases h : readItem item with
    | error e =>
      refine .inl ⟨e, rfl, fun arguments => ?_⟩
      simp only [expandAttribute, h]
      exact reports_tokens e
    | ok i =>
      refine .inr ⟨i, rfl, fun hwhole => rewritten_of_readItem hwhole h, fun arguments => ?_⟩
      refine ⟨_, ?_, adds_added i (readArguments arguments) (some i)⟩
      simp only [expandAttribute, h]
      rfl
  · cases h : readDefinition item with
    | error e =>
      refine .inl ⟨e, rfl, ?_⟩
      simp only [expandDerive, h]
      exact reports_tokens e
    | ok d =>
      refine .inr ⟨d, rfl, ?_⟩
      have hadded := adds_added d.item (Arguments.ofAttributes d.attributes) none
      rw [declaration_item] at hadded
      simp only [expandDerive, h]
      exact hadded

/-- An enum is given back with the lifetime in front and without the visibility of its variant, although
neither its kind nor the arguments allow for an initializer. -/
theorem expansion_outcomes_shape :
    let source := "pub(crate) enum Shape<T, 'a> where \x7b pub Circle(&'a T), Unit = 3 \x7d"
    let again := ["pub", "(", "crate", ")", "enum", "Shape", "<", "'", "a", ",", "T", ",", ">", "\x7b",
      "Circle", "(", "&", "'", "a", "T", ")", ",", "Unit", "=", "3", "\x7d"]
    let item := (lex source).toOption.getD []
    let arguments := (lex "label = x").toOption.getD []
    ∃ i e added, Whole item ∧ readItem item = .ok i ∧ Rewritten .plain item [] i.tokens
      ∧ texts i.tokens = again ∧ readArguments arguments = .error e
      ∧ (expandAttribute arguments item).tokens = i.tokens ++ added ∧ Reports added e := by
  intro source again item arguments
  have hwhole : Whole item := by decide +kernel
  obtain ⟨i, hread, htexts⟩ := @ok_of_any _ (readItem item) (fun i => texts i.tokens == again)
    (by decide +kernel)
  have hrejected : (readArguments arguments).toOption = none := by decide +kernel
  obtain ⟨⟨e, herror, -⟩ | ⟨j, hitem, hwritten, hadded⟩, -⟩ := expansion_outcomes item
  · rw [hread] at herror
    cases herror
  rw [hread] at hitem
  cases hitem
  obtain ⟨added, htokens, ⟨e, herror, hreports⟩ | ⟨a, ha, -⟩ | ⟨a, ha, -⟩⟩ := hadded arguments
  · exact ⟨i, e, added, hwhole, hread, hwritten hwhole, beq_iff_eq.1 htexts, herror, htokens, hreports⟩
  all_goals
    rw [ha] at hrejected
    cases hrejected

end Memberwise
