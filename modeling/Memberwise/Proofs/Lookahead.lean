import Memberwise.Grammar.Phrases
import Memberwise.Proofs.Run

/-!
# Looking ahead

Where a word stands, no operator and no other word does; and where a type or a bound ends, no other
can begin. A list of them is therefore cut in the same places by whoever writes it and by whoever
reads it.

## Main definitions

* `endsPhrase`: a type or a bound may end here
* `NoPhrase`: nothing begins here that a phrase begins with

## Main statements

* `isWord_unreserved`: a word that is not reserved is none of those that are
* `atEnd_cases`, `endsPhrase_cases`: the first token where something ends
* `type_ne_ok`, `bound_ne_ok`: nothing begins where a phrase ends
-/

namespace Memberwise.Parser

/-! ## Words -/

/-- A word that is not reserved is none of those that are. -/
theorem isWord_unreserved {word text : String} (hword : isReserved word = false)
    (htext : isReserved text = true) (span : Span) (rest : List Token) :
    isWord text (⟨.ident word, span⟩ :: rest) = false := by
  have hne : word ≠ text := by
    rintro rfl
    rw [hword] at htext
    cases htext
  simpa [isWord, Terminal.starts] using hne

/-- A word that is not reserved is no truth value. -/
theorem isLiteral_unreserved {word : String} (hword : isReserved word = false) (span : Span)
    (rest : List Token) : isLiteral (⟨.ident word, span⟩ :: rest) = false := by
  have htrue := @isWord_unreserved word "true" hword (by decide) span rest
  have hfalse := @isWord_unreserved word "false" hword (by decide) span rest
  simp only [isWord, Terminal.starts] at htrue hfalse
  simp only [isLiteral, Terminal.starts, htrue, hfalse, Bool.or_self]

@[simp] theorem isWord_ident (text word : String) (span : Span) (rest : List Token) :
    isWord text (⟨.ident word, span⟩ :: rest) = (word == text) := rfl

@[simp] theorem isIdent_ident (word : String) (span : Span) (rest : List Token) :
    isIdent (⟨.ident word, span⟩ :: rest) = !isReserved word := rfl

theorem isPathWord_eq_cons {ts : List Token} (h : isPathWord ts = true) :
    ∃ word span rest, ts = ⟨.ident word, span⟩ :: rest := by
  simp only [isPathWord, Bool.or_eq_true, isWord_iff, isIdent_iff] at h
  grind

/-- An operator does not begin with a word. -/
@[simp] theorem isOp_ident (text word : String) (span : Span) (rest : List Token) :
    isOp text (⟨.ident word, span⟩ :: rest) = false := by
  change operatorStarts text.toList _ = false
  obtain _ | ⟨c, _ | ⟨d, cs⟩⟩ := text.toList <;> rfl

/-! ## Where groups end -/

@[simp] theorem isOp_nil (text : String) : isOp text [] = false := by
  change operatorStarts text.toList [] = false
  obtain _ | ⟨c, _ | ⟨d, cs⟩⟩ := text.toList <;> rfl

@[simp] theorem isOp_opening (text : String) (d : Delimiter) (span : Span) (rest : List Token) :
    isOp text (⟨.opening d, span⟩ :: rest) = false := by
  change operatorStarts text.toList _ = false
  obtain _ | ⟨c, _ | ⟨e, cs⟩⟩ := text.toList <;> rfl

@[simp] theorem isOp_closing (text : String) (d : Delimiter) (span : Span) (rest : List Token) :
    isOp text (⟨.closing d, span⟩ :: rest) = false := by
  change operatorStarts text.toList _ = false
  obtain _ | ⟨c, _ | ⟨e, cs⟩⟩ := text.toList <;> rfl

theorem atEnd_cases {ts : List Token} (h : atEnd ts = true) :
    ts = [] ∨ ∃ d span rest, ts = ⟨.closing d, span⟩ :: rest := by
  cases ts with
  | nil => exact .inl rfl
  | cons t rest =>
    obtain ⟨l, span⟩ := t
    cases l with
    | closing d => exact .inr ⟨d, span, rest, rfl⟩
    | ident | punct | literal | opening => cases h

/-- No operator stands at the end of a group. -/
theorem isOp_of_atEnd {ts : List Token} (h : atEnd ts = true) (text : String) :
    isOp text ts = false := by
  obtain rfl | ⟨d, span, rest, rfl⟩ := atEnd_cases h <;> simp

/-- No word stands at the end of a group. -/
theorem isWord_of_atEnd {ts : List Token} (h : atEnd ts = true) (text : String) :
    isWord text ts = false := by
  obtain rfl | ⟨d, span, rest, rfl⟩ := atEnd_cases h <;> rfl

/-! ## Where phrases end -/

/-- A type or a bound may end here. -/
def endsPhrase (ts : List Token) : Bool :=
  atEnd ts || isBrace ts || isOp "," ts || isOp ";" ts || isOp ">" ts || isOp "=" ts || isOp "." ts
    || (isOp ":" ts && !isOp "::" ts)

/-- What stands where a phrase ends: nothing, a bracket or a punctuation character. -/
theorem endsPhrase_cases {ts : List Token} (h : endsPhrase ts = true) :
    ts = [] ∨ (∃ d span rest, ts = ⟨.closing d, span⟩ :: rest)
      ∨ (∃ span rest, ts = ⟨.opening .brace, span⟩ :: rest)
      ∨ ∃ c spacing span rest, ts = ⟨.punct c spacing, span⟩ :: rest
        ∧ (c ∈ [',', ';', '>', '=', '.'] ∨ c = ':' ∧ isOp "::" ts = false) := by
  cases ts with
  | nil => exact .inl rfl
  | cons t rest =>
    obtain ⟨l, span⟩ := t
    cases l with
    | ident | literal =>
      simp [endsPhrase, atEnd, isBrace, isOp, Terminal.starts, operatorStarts, Lexeme.isClosing] at h
    | closing d => exact .inr (.inl ⟨d, span, rest, rfl⟩)
    | opening d =>
      cases d with
      | brace => exact .inr (.inr (.inl ⟨span, rest, rfl⟩))
      | parenthesis | bracket =>
        simp [endsPhrase, atEnd, isBrace, isOp, Terminal.starts, operatorStarts,
          Lexeme.isClosing] at h
    | punct c spacing =>
      refine .inr (.inr (.inr ⟨c, spacing, span, rest, rfl, ?_⟩))
      simp [endsPhrase, atEnd, isBrace, isOp, Terminal.starts, operatorStarts,
        Lexeme.isClosing] at h ⊢
      grind

/-- What does not come next where a phrase ends. -/
structure NoPhrase (ts : List Token) : Prop where
  word : ∀ text, isWord text ts = false
  identifier : isIdent ts = false
  lifetime : isLifetime ts = false
  parenthesis : isParen ts = false
  bracket : isBracket ts = false
  colons : isOp "::" ts = false
  operators : ∀ text ∈ ["<", "*", "&", "!", "?", "+", "#"], isOp text ts = false

theorem noPhrase_of_endsPhrase {ts : List Token} (h : endsPhrase ts = true) : NoPhrase ts := by
  obtain rfl | ⟨d, span, rest, rfl⟩ | ⟨span, rest, rfl⟩ | ⟨c, spacing, span, rest, rfl, hc⟩ :=
    endsPhrase_cases h
  case inr.inr.inr =>
    simp only [List.mem_cons, List.not_mem_nil, or_false] at hc
    constructor
    case lifetime =>
      cases spacing <;> obtain (rfl | rfl | rfl | rfl | rfl) | ⟨rfl, -⟩ := hc <;> rfl
    case colons =>
      obtain (rfl | rfl | rfl | rfl | rfl) | ⟨rfl, hcolons⟩ := hc
      case inr => exact hcolons
      all_goals cases spacing <;> rfl
    case operators =>
      obtain (rfl | rfl | rfl | rfl | rfl) | ⟨rfl, -⟩ := hc <;>
        simp [isOp, Terminal.starts, operatorStarts]
    all_goals intros; rfl
  all_goals
    constructor
    case operators => simp [isOp, Terminal.starts, operatorStarts]
    all_goals intros; rfl

/-- No identifier is read where none comes next. -/
theorem identifier_eq_error {c : Cursor} (h : isIdent c.tokens = false) :
    ∃ e, identifier c = .error e := by
  cases hread : identifier c with
  | error e => exact ⟨e, rfl⟩
  | ok r =>
    obtain ⟨word, span, rest, hfree, htokens, -⟩ := identifier_eq_ok hread
    rw [isIdent_iff.2 ⟨word, span, rest, hfree, htokens⟩] at h
    cases h

/-- No type begins where a phrase ends. -/
theorem type_ne_ok {ph : Phrases} {plus : Bool} {c : Cursor} (h : endsPhrase c.tokens = true)
    (r : Fragment × Cursor) : type ph plus c ≠ .ok r := by
  obtain ⟨hword, hident, hlifetime, hparen, hbracket, hcolons, hops⟩ := noPhrase_of_endsPhrase h
  simp only [List.forall_mem_cons] at hops
  simp only [type, bind_apply, ahead_apply, here_apply, ite_apply, beginsFunctionType,
    beginsBuiltin, beginsTypePath, isPathWord, hword, hident, hlifetime, hparen, hbracket, hcolons,
    hops, Bool.or_self, Bool.false_and, Bool.false_eq_true, if_false]
  exact expected_ne_ok _ _ _

/-- No type begins with the mark of an attribute or with a visibility. -/
theorem type_marked_ne_ok {ph : Phrases} {plus : Bool} {c : Cursor}
    (h : isOp "#" c.tokens = true ∨ isWord "pub" c.tokens = true) (r : Fragment × Cursor) :
    type ph plus c ≠ .ok r := by
  obtain ⟨ts, left, limit⟩ := c
  have hguards : (isWord "for" ts || isParen ts || beginsFunctionType ts || beginsBuiltin ts
      || beginsTypePath ts || isWord "dyn" ts || isBracket ts || isOp "*" ts || isOp "&" ts
      || isOp "!" ts || isWord "impl" ts || isWord "_" ts || isLifetime ts) = false := by
    rcases h with h | h
    · obtain ⟨spacing, span, us, rfl⟩ := isOp_eq_cons rfl h
      cases spacing <;> rfl
    · obtain ⟨span, us, rfl⟩ := isWord_iff.1 h
      have hreserved : isReserved "pub" = true := by decide
      simp [beginsFunctionType, beginsBuiltin, beginsTypePath, isPathWord, hreserved, isParen, isBracket,
        isLifetime, Terminal.starts]
  simp only [Bool.or_eq_false_iff] at hguards
  simp only [type, bind_apply, ahead_apply, here_apply, ite_apply, hguards, Bool.false_eq_true, if_false]
  exact expected_ne_ok _ _ _

/-- No bound begins where a phrase ends. -/
theorem bound_ne_ok {ph : Phrases} {capture const : Bool} {c : Cursor}
    (h : endsPhrase c.tokens = true) (r : Fragment × Cursor) :
    bound ph capture const c ≠ .ok r := by
  obtain ⟨hword, hident, hlifetime, hparen, hbracket, hcolons, hops⟩ := noPhrase_of_endsPhrase h
  simp only [List.forall_mem_cons] at hops
  obtain ⟨e, he⟩ := identifier_eq_error hident
  simp only [bound, traitBound, binder?, when?, constModifier, operator?, traitPath, path, segment,
    bind_apply, ahead_apply, here_apply, ite_apply, pure_apply, hword, hlifetime, hparen, hbracket,
    hcolons, hops, he, Bool.or_self, Bool.false_eq_true, if_false, List.isEmpty_nil, Bool.not_true,
    Bool.and_false]
  rintro ⟨⟩

/-- A lifetime is a bound. -/
theorem bound_lifetime {ph : Phrases} {capture const : Bool} {mark span : Span} {word : String}
    {rest : List Token} {left : Option Diagnostic} {limit : Span} :
    bound ph capture const
        ⟨⟨.punct '\x27' .joint, mark⟩ :: ⟨.ident word, span⟩ :: rest, left, limit⟩
      = .ok (⟨[⟨.punct '\x27' .joint, mark⟩, ⟨.ident word, span⟩],
          .otherBound (nameSpan [⟨.punct '\x27' .joint, mark⟩, ⟨.ident word, span⟩])⟩,
        ⟨rest, left, limit⟩) := rfl

/-- A lifetime alone is no type. -/
theorem type_lifetime_ne_ok {ph : Phrases} {plus : Bool} {c : Cursor}
    (hlifetime : isLifetime c.tokens = true) (hplus : isOp "+" (afterTree c.tokens) = false)
    (r : Fragment × Cursor) : type ph plus c ≠ .ok r := by
  obtain ⟨ts, left, limit⟩ := c
  obtain ⟨mark, word, span, rest, rfl⟩ := isLifetime_iff.1 hlifetime
  have hsum : sumOfBounds ph true false false
      ⟨⟨.punct '\x27' .joint, mark⟩ :: ⟨.ident word, span⟩ :: rest, left, limit⟩
      = .ok (([⟨.punct '\x27' .joint, mark⟩, ⟨.ident word, span⟩],
          [.otherBound (nameSpan [⟨.punct '\x27' .joint, mark⟩, ⟨.ident word, span⟩])]),
        ⟨rest, left, limit⟩) := by
    have hplus' : isOp "+" rest = false := hplus
    rw [sumOfBounds, loop_eq]
    simp [bind_apply, bound_lifetime, hplus']
  intro h
  simp only [type, bind_apply, ahead_apply, here_apply, ite_apply, hlifetime, boundsWithTrait, hsum,
    if_true] at h
  cases h

end Memberwise.Parser
