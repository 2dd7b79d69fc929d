import Memberwise.Proofs.Alike
import Memberwise.Proofs.Definitions
import Memberwise.Proofs.Outcome
import Memberwise.Proofs.ReadsBack

/-!
# The attribute and the derive

The attribute with some arguments, and a derive with the same arguments in the helper attribute, add
the same to a definition. The two read the item by different parsers and the arguments from different
places; a definition is never taken for another item, and where a stream ends shows only in the places
of errors.

## Main definitions

* `Arguments.helperTokens`: the helper attribute around some arguments

## Main statements

* `readDefinition_helperTokens`: the helper attribute is read in front of a definition
* `readArguments_limit`: arguments may end anywhere
* `attribute_eq_derive`: the two expansions agree
-/

namespace Memberwise

open Generated

/-- The helper attribute around arguments, its own tokens at `place`. -/
def Arguments.helperTokens (place : Span) (arguments : List Token) : List Token :=
  ⟨.punct '#' .alone, place⟩ :: (⟨.opening .bracket, place⟩ ::
    (⟨.ident helper, place⟩ :: (⟨.opening .parenthesis, place⟩ :: arguments
      ++ [⟨.closing .parenthesis, place⟩]))
    ++ [⟨.closing .bracket, place⟩])

namespace Parser

variable {α β σ : Type}

/-! ## The helper attribute -/

section Helper

variable {ph : Phrases} {ts rest : List Token}

/-- The helper attribute is read with the arguments as they are. -/
theorem reads_helperTokens {arguments : List Token} (h : Whole arguments) (place : Span) :
    Reads (outerAttribute ph) (Arguments.helperTokens place arguments) rest fun a =>
      a.isNamed Arguments.helper = true ∧ a.content = .arguments ⟨.opening .parenthesis, place⟩
        arguments ⟨.closing .parenthesis, place⟩ := by
  refine (reads_wordAttribute (by decide) h .parenthesis place place place place place
    place).mono fun a ha => ?_
  obtain ⟨-, hpath, hcontent⟩ := ha
  exact ⟨by rw [Attribute.isNamed, hpath]; rfl, hcontent⟩

/-- The attributes of a definition are only passed on. -/
theorem definition_attributes (attributes attributes' : List Attribute) :
    definition ph attributes'
      = (fun d : Definition => { d with attributes := attributes' })
        <$> definition ph attributes := by
  have hexpected (choices : List Terminal) :
      (expected choices : Parser Definition)
        = (fun d : Definition => { d with attributes := attributes' }) <$> expected choices := by
    funext c
    rw [map_apply]
    simp only [expected, bind_apply, get_apply, ite_apply]
    split <;> rfl
  simp only [definition, map_bind]
  congr 1
  funext v
  congr 1
  funext ts
  split_ifs
  · simp only [map_bind, map_pure]
  · simp only [map_bind, map_pure]
  · simp only [map_bind, map_pure]
  · exact hexpected _

theorem attributes_of_definition {attributes : List Attribute} {c c' : Cursor} {d : Definition}
    (h : definition ph attributes c = .ok (d, c')) : d.attributes = attributes := by
  have hmap := congrFun (@definition_attributes ph attributes attributes) c
  rw [map_apply, h] at hmap
  simp only [Except.ok.injEq, Prod.mk.injEq] at hmap
  rw [hmap.1]

/-- The helper attribute is read in front of a definition, and changes nothing else in it. -/
theorem derivedDefinition_helperTokens {arguments : List Token} (h : Whole arguments)
    (place : Span) {c c' : Cursor} {d : Definition} (hread : derivedDefinition ph c = .ok (d, c')) :
    ∃ a : Attribute, a.isNamed Arguments.helper = true
      ∧ a.content = .arguments ⟨.opening .parenthesis, place⟩ arguments
        ⟨.closing .parenthesis, place⟩
      ∧ derivedDefinition ph { c with tokens := Arguments.helperTokens place arguments ++ c.tokens }
        = .ok ({ d with attributes := a :: d.attributes }, c') := by
  obtain ⟨a, hfirst, hname, hcontent⟩ :=
    @reads_helperTokens ph c.tokens arguments h place c.leftover c.limit
  refine ⟨a, hname, hcontent, ?_⟩
  obtain ⟨attributes, after, hattributes, hdefinition⟩ := bind_eq_ok.1 hread
  have hall : outerAttributes ph
      { c with tokens := Arguments.helperTokens place arguments ++ c.tokens }
      = .ok (a :: attributes, after) := by
    rw [outerAttributes] at hattributes ⊢
    rw [repeatUntil_step rfl hfirst (by simp [Arguments.helperTokens]; omega), map_apply,
      hattributes]
  rw [derivedDefinition, bind_apply, hall]
  simp only
  rw [definition_attributes attributes, map_apply, hdefinition,
    attributes_of_definition hdefinition]

end Helper

end Parser

/-! ## The two expansions -/

/-- Arguments are read the same in the attribute and in the helper attribute, or rejected with the
same message. -/
theorem readArguments_limit (arguments : List Token) (place : Span) :
    (∃ a, readArguments arguments = .ok a ∧ parseAll Parser.arguments arguments place = .ok a)
      ∨ ∃ e e', readArguments arguments = .error e
        ∧ parseAll Parser.arguments arguments place = .error e' ∧ e'.message = e.message := by
  have h := Parser.alike_arguments.parseAll (sameTokens_refl True arguments) .outside place
  rw [readArguments]
  generalize parseAll Parser.arguments arguments .outside = r, parseAll _ _ place = r' at h
  cases h with
  | ok h => exact .inl ⟨_, rfl, by rw [h.eq trivial]⟩
  | error h => exact .inr ⟨_, _, rfl, rfl, h⟩

/-- A definition is read with the helper attribute in front of it, in which the arguments are as they
are. -/
theorem readDefinition_helperTokens {ts arguments : List Token} {d : Definition}
    (h : readDefinition ts = .ok d) (harguments : Whole arguments) (place : Span) :
    ∃ a : Attribute, a.isNamed Arguments.helper = true
      ∧ a.content = .arguments ⟨.opening .parenthesis, place⟩ arguments
        ⟨.closing .parenthesis, place⟩
      ∧ readDefinition (Arguments.helperTokens place arguments ++ ts)
        = .ok { d with attributes := a :: d.attributes } := by
  obtain ⟨c, hread, hleft, hend⟩ := Parser.parseAll_eq_ok.1 h
  obtain ⟨a, hname, hcontent, hall⟩ :=
    Parser.derivedDefinition_helperTokens harguments place hread
  exact ⟨a, hname, hcontent, Parser.parseAll_eq_ok.2 ⟨c, hall, hleft, hend⟩⟩

theorem ofRest_of_not_helper {attributes : List Attribute}
    (h : ∀ a ∈ attributes, a.isNamed Arguments.helper = false) (found : Option Arguments) :
    Arguments.ofRest found attributes = .ok (found.getD {}) := by
  induction attributes with
  | nil => rfl
  | cons a rest ih =>
    simp only [Arguments.ofRest, h a (by simp), Bool.false_eq_true, if_false]
    exact ih fun b hb => h b (by simp [hb])

/-- Only the helper attribute counts. -/
theorem ofAttributes_helper {a : Attribute} {attributes : List Attribute}
    (ha : a.isNamed Arguments.helper = true)
    (h : ∀ b ∈ attributes, b.isNamed Arguments.helper = false) :
    Arguments.ofAttributes (a :: attributes) = Arguments.ofAttribute a := by
  simp only [Arguments.ofAttributes, Arguments.ofRest, ha, if_true]
  cases hread : Arguments.ofAttribute a with
  | error e => rfl
  | ok arguments => exact ofRest_of_not_helper h _

/-- The tokens of an error show its message only. -/
theorem lexemes_tokens_of_message {e e' : Diagnostic} (h : e'.message = e.message) :
    lexemes e'.tokens = lexemes e.tokens := by
  simp [Diagnostic.tokens_eq, h]

/-- The outcome for a definition, by the arguments that were read. -/
theorem initializer_outcomes (d : Definition) (arguments : Arguments) :
    (∃ f, d.declaration.initializer arguments = .ok f)
      ∨ d.declaration.initializer arguments
        = .error (.present .unsupportedKind d.body.keyword.span) := by
  by_cases h : d.declaration.kind.isProduct
  · obtain ⟨f, -, hf⟩ := initializer_of_isProduct h arguments
    exact .inl ⟨f, hf⟩
  · exact .inr (initializer_of_not_isProduct h arguments)

/-- An attribute on a definition gives it back and adds what a derive adds to the definition with the
same arguments in the helper attribute: the same initializer, or an error with the same message,
that of the arguments or that of the kind. -/
theorem attribute_eq_derive {arguments item : List Token} {d : Definition}
    (harguments : Whole arguments) (hitem : readDefinition item = .ok d)
    (hhelper : ∀ a ∈ d.attributes, a.isNamed Arguments.helper = false) (place : Span) :
    let plain := expandAttribute arguments item
    let derived := expandDerive (Arguments.helperTokens place arguments ++ item)
    lexemes plain.tokens = lexemes d.item.tokens ++ lexemes derived.tokens
      ∧ ((∃ f, plain.outcome = .ok f ∧ derived.outcome = .ok f)
        ∨ (∃ e e', readArguments arguments = .error e ∧ plain.outcome = .error e
            ∧ derived.outcome = .error e' ∧ e'.message = e.message)
        ∨ ∃ a e, readArguments arguments = .ok a ∧ e = .present .unsupportedKind d.body.keyword.span
            ∧ plain.outcome = .error e ∧ derived.outcome = .error e) := by
  intro plain derived
  obtain ⟨a, hname, hcontent, hderived⟩ := readDefinition_helperTokens hitem harguments place
  have hplain : plain
      = ⟨some d.item, readArguments arguments >>= d.declaration.initializer⟩ := by
    simp only [plain, expandAttribute, readItem_eq_definition.2 hitem, declaration_item]
  have hderive : derived
      = ⟨none, parseAll Parser.arguments arguments place >>= d.declaration.initializer⟩ := by
    simp only [derived, expandDerive, hderived]
    simp only [bind, Except.bind, ofAttributes_helper hname hhelper, Arguments.ofAttribute, hcontent]
    rfl
  rw [hplain, hderive]
  obtain ⟨a, hread, hread'⟩ | ⟨e, e', hread, hread', hmessage⟩ := readArguments_limit arguments place
  · simp only [hread, hread', bind, Except.bind]
    obtain ⟨f, hf⟩ | hf := initializer_outcomes d a
    · rw [hf]
      exact ⟨lexemes_append _ _, .inl ⟨f, rfl, rfl⟩⟩
    · rw [hf]
      exact ⟨lexemes_append _ _, .inr (.inr ⟨a, _, rfl, rfl, rfl, rfl⟩)⟩
  · simp only [hread, hread', bind, Except.bind]
    refine ⟨?_, .inr (.inl ⟨e, e', rfl, rfl, rfl, hmessage⟩)⟩
    refine (lexemes_append _ _).trans (congrArg (lexemes d.item.tokens ++ ·) ?_)
    exact (lexemes_tokens_of_message hmessage).symm

/-- For `#[derive(Debug)] struct Point { x: u8 }` and the argument `name = build`. -/
theorem attribute_eq_derive_point :
    let arguments := word "name" ++ operator "=" ++ word "build"
    let item := operator "#" ++ group .bracket (word "derive" ++ group .parenthesis (word "Debug"))
      ++ word "struct" ++ word "Point" ++ group .brace (word "x" ++ operator ":" ++ word "u8")
    ∃ d, Whole arguments ∧ readDefinition item = .ok d
      ∧ (∀ a ∈ d.attributes, a.isNamed Arguments.helper = false)
      ∧ lexemes (expandAttribute arguments item).tokens = lexemes d.item.tokens
        ++ lexemes (expandDerive (Arguments.helperTokens .outside arguments ++ item)).tokens := by
  intro arguments item
  have hwhole : Whole arguments := by decide
  obtain ⟨d, hread, htest⟩ := @readDefinition_of_any item
    (fun d => d.attributes.all (!·.isNamed Arguments.helper)) (by decide +kernel)
  have hhelper : ∀ a ∈ d.attributes, a.isNamed Arguments.helper = false := by simpa using htest
  exact ⟨d, hwhole, hread, hhelper, (attribute_eq_derive hwhole hread hhelper .outside).1⟩

end Memberwise
