import Memberwise.Initializer
import Memberwise.Proofs.SelfType

/-!
# The function that builds a struct

Parameters without a receiver, `Self` for the result, and a body that is one struct literal: each part
of the function is read again as what it was written for. A parameter ends where the next comma or
the parenthesis stands, so its type may have any tokens inside that read back in front of those.

## Main definitions

* `Parameter.ReadsBack`: the attributes and the type of a parameter are read again
* `Argument.Takes`: an argument of a function takes a parameter
* `ImplFunction.Constructs`: a function that was read is that of an initializer
* `Initializer.ReadsBack`: the names and phrases of an initializer are read again

## Main statements

* `reads_parameters`: the parameters between the parentheses
* `reads_statements`: the struct literal as the only statement
* `reads_function`: the function with its attribute
-/

namespace Memberwise

/-! ## Parameters -/

/-- A parameter ends at a comma or at the end of its group. -/
def EndsParameter (ts : List Token) : Prop := isOp "," ts = true ∨ atEnd ts = true

/-- The attributes and the type of the parameter are read again. -/
structure Parameter.ReadsBack (p : Parameter) : Prop where
  cfgs : ∀ a ∈ p.cfgs, a.ReadsBack
  type : TypeReadsBack EndsParameter p.type

/-- The argument takes the value of the parameter. -/
def Argument.Takes (a : Argument) (p : Parameter) : Prop :=
  ∃ attributes pattern type, a = .typed attributes pattern type
    ∧ attributes.map (fun a => lexemes a.tokens) = p.cfgs.map (fun a => lexemes a.tokens)
    ∧ lexemes pattern = lexemes p.name.tokens ∧ lexemes type = lexemes p.type

namespace Parser

variable {ph : Phrases} {rest : List Token}

theorem endsPhrase_of_endsParameter (h : EndsParameter rest) : endsPhrase rest = true := by
  obtain h | h := h <;> simp [endsPhrase, h]

/-- A name is read again where it is the type of a parameter. -/
theorem typeReadsBack_word {word : String} (hfree : isReserved word = false) (span : Span) :
    TypeReadsBack EndsParameter [⟨.ident word, span⟩] := by
  intro rest hrest
  have hends := endsPath_of_endsPhrase (endsPhrase_of_endsParameter hrest)
  refine (reads_wordType (.inl hfree) span hends).bind_pure fun f hf => ?_
  rw [hf]
  rfl

/-- A name in front of a type is a pattern. -/
theorem reads_namePattern {word : String} (hfree : isReserved word = false) (span : Span)
    (us : List Token) :
    Reads (phrases.tokens .pattern) [⟨.ident word, span⟩] (Generated.operator ":" ++ us)
      (· = [⟨.ident word, span⟩]) := by
  have hname (ph : Phrases) : Reads (namePattern ph) [⟨.ident word, span⟩]
      (Generated.operator ":" ++ us) (· = [⟨.ident word, span⟩]) := by
    refine Reads.bind_nil (Reads.seq_none (reads_keyword?_none ?_)
      (Reads.seq_none (reads_keyword?_none ?_) Reads.seq_nil)) ?_
    · exact isWord_unreserved hfree (by decide) _ _
    · exact isWord_unreserved hfree (by decide) _ _
    rintro _ rfl
    refine Reads.ahead (Reads.ite_bind (Reads.bind_last (Reads.ite_neg ?_
      (reads_identifier hfree span)) ?_))
    · exact Bool.eq_false_iff.1 (isWord_unreserved hfree (by decide) _ _)
    rintro _ rfl
    refine Reads.bind_pure (Q := (· = [])) (Reads.ahead (Reads.ite_neg (by rintro ⟨⟩)
      (Reads.pure rfl))) ?_
    rintro _ rfl
    rfl
  have hsecond : afterTree (⟨.ident word, span⟩ :: (Generated.operator ":" ++ us))
      = Generated.operator ":" ++ us := rfl
  refine (reads_phrase (Q := (·.tokens = [⟨.ident word, span⟩])) (Reads.ahead (Reads.ite_neg ?_
    (Reads.ite_neg ?_ (Reads.ite_neg ?_ (Reads.ite_neg ?_ (Reads.ite_pos ?_
    ((hname _).bind_pure fun _ h => h)))))))).bind_pure fun f hf => hf
  · simp (disch := decide) [-isWord_ident, beginsPathPattern, isWord_unreserved hfree, hsecond]
    exact fun _ => ⟨⟨⟨⟨rfl, rfl⟩, rfl⟩, rfl⟩, rfl⟩
  · simp (disch := decide) [-isWord_ident, isWord_unreserved hfree]
  · simp (disch := decide) [-isWord_ident, isWord_unreserved hfree]
  · simp (disch := decide) [-isWord_ident, isWord_unreserved hfree, isLiteral_unreserved hfree]
  · simp [hfree]

/-- A name is not what a method is called on. -/
theorem receiver_eq_error {word : String} (hfree : isReserved word = false) (span : Span)
    (us : List Token) (left : Option Diagnostic) (limit : Span) :
    ∃ e, receiver ph ⟨⟨.ident word, span⟩ :: us, left, limit⟩ = .error e := by
  have hmut := @isWord_unreserved _ "mut" hfree (by decide) span us
  have hself := @isWord_unreserved _ "self" hfree (by decide) span us
  cases hread : receiver ph ⟨⟨.ident word, span⟩ :: us, left, limit⟩ with
  | error e => exact ⟨e, rfl⟩
  | ok r =>
    simp only [receiver, when?, keyword?, keyword, bind_apply, ahead_apply, here_apply, ite_apply,
      pure_apply, reject_apply, isOp_ident, hmut, hself, Bool.false_eq_true, if_false] at hread
    cases hread

/-- An operator begins with its first character. -/
theorem operatorStarts_head {c : Char} {cs : List Char} {ts : List Token}
    (h : operatorStarts (c :: cs) ts = true) : operatorStarts [c] ts = true := by
  cases cs with
  | nil => exact h
  | cons d cs =>
    cases ts with
    | nil => cases h
    | cons t us =>
      obtain ⟨l, span⟩ := t
      cases l with
      | punct e spacing =>
        cases spacing with
        | alone => cases h
        | joint =>
          have hboth : (c == e) = true ∧ operatorStarts (d :: cs) us = true := by
            simpa [operatorStarts] using h
          exact hboth.1
      | ident | literal | opening | closing => cases h

/-- A name and a type are an argument. -/
theorem reads_typedArgument {word : String} {span : Span} {type : List Token} (as : List Attribute)
    (hfree : isReserved word = false) (htype : TypeReadsBack EndsParameter type)
    (hrest : EndsParameter rest) :
    Reads (typedArgument phrases as) (⟨.ident word, span⟩ :: (Generated.operator ":" ++ type)) rest
      fun a => ∃ us, lexemes us = lexemes type ∧ a = .typed as [⟨.ident word, span⟩] us := by
  have hdots : isOp "..." (type ++ rest) = false := by
    have hends := htype.endsPhrase_eq hrest
    simp only [endsPhrase, Bool.or_eq_false_iff] at hends
    by_contra hthree
    rw [Bool.not_eq_false] at hthree
    have hone : isOp "." (type ++ rest) = true :=
      @operatorStarts_head '.' ['.', '.'] (type ++ rest) hthree
    rw [hends.1.2] at hone
    cases hone
  have hsecond : isOp "<" (afterTree (⟨.ident word, span⟩ :: (Generated.operator ":" ++ type) ++ rest))
      = false := rfl
  refine Reads.ahead (Reads.ite_neg (by rw [hsecond, Bool.and_false]; decide) ?_)
  refine Reads.bind_cons (reads_namePattern hfree span (type ++ rest)) ?_
  rintro _ rfl
  refine (reads_operator (by decide) rfl).bind fun _ _ => Reads.ahead (Reads.ite_neg ?_ ?_)
  · simp [hdots]
  · exact (htype rest hrest).bind_pure fun us hus => ⟨us, hus, rfl⟩

/-- A parameter is read as an argument. -/
theorem reads_parameter {p : Parameter} (read : List Argument)
    (hfree : isReserved p.name.text = false) (hback : p.ReadsBack) (hrest : EndsParameter rest) :
    Reads (functionArgument phrases read) p.tokens rest (·.Takes p) := by
  obtain ⟨⟨word, span⟩, type, cfgs⟩ := p
  obtain ⟨hcfgs, htype⟩ := hback
  have htokens : Parameter.tokens ⟨⟨word, span⟩, type, cfgs⟩
      = Attribute.listTokens cfgs ++ (⟨.ident word, span⟩ :: (Generated.operator ":" ++ type)) := by
    simp [Parameter.tokens, Name.tokens]
  rw [htokens]
  refine (reads_outerAttributes hcfgs rfl).bind fun as has => Reads.ahead (Reads.ite_neg ?_
    (Reads.get fun left limit => ?_))
  · simp
  obtain ⟨e, he⟩ := @receiver_eq_error phrases word hfree span
    (Generated.operator ":" ++ type ++ rest) left limit
  rw [List.cons_append, he]
  refine (reads_typedArgument as hfree htype hrest).mono ?_
  rintro _ ⟨us, hus, rfl⟩
  exact ⟨as, _, us, rfl, has, rfl, hus⟩

/-- A word after attributes is not the end of anything. -/
theorem not_atEnd_of_word (as : List Attribute) (word : String) (span : Span) (us : List Token) :
    atEnd (Attribute.listTokens as ++ ⟨.ident word, span⟩ :: us) = false := by
  cases as <;> rfl

/-- A comma is read where the group goes on. -/
theorem reads_trailingComma : Reads trailingComma (Generated.operator ",") rest (· = true) :=
  Reads.ended (Reads.ite_neg (by rintro ⟨⟩)
    ((reads_operator (by decide) rfl).bind_pure fun _ _ => rfl))

theorem reads_trailingComma_none (hrest : atEnd rest = true) :
    Reads trailingComma [] rest (· = false) :=
  Reads.ended (Reads.ite_pos hrest (Reads.pure rfl))

/-- Parameters are read as arguments. -/
theorem reads_parameters {ps : List Parameter} (hfree : ∀ p ∈ ps, isReserved p.name.text = false)
    (hback : ∀ p ∈ ps, p.ReadsBack) (hrest : atEnd rest = true) :
    Reads (functionArguments phrases)
      (Listed.between (Generated.operator ",") (ps.map Parameter.tokens)) rest
      fun l => List.Forall₂ Argument.Takes l.items ps := by
  have hgo (p : Parameter) (us : List Token) : atEnd (p.tokens ++ us) = false := by
    simpa [Parameter.tokens, Name.tokens] using not_atEnd_of_word p.cfgs p.name.text p.name.span _
  refine Reads.loop_between (f := Parameter.tokens)
    (Q := fun ps (l : Listed Argument) => List.Forall₂ Argument.Takes l.items ps) _
    (fun before read => List.Forall₂ Argument.Takes read.reverse before) (List.cons_ne_nil _ _)
    (Nat.le_refl _) (fun before p us read hp _ hread => ?_) (fun before p read hp _ hread => ?_)
    (fun read hread => ?_) .nil
  · refine Reads.ended (Reads.ite_neg ?_ ?_)
    · simp [hgo]
    refine (reads_parameter read (hfree p hp) (hback p hp) (.inl rfl)).bind ?_
    rintro _ ⟨as, pattern, type, rfl, htakes⟩
    refine reads_trailingComma.bind_last ?_
    rintro _ rfl
    refine Reads.pure ⟨_, rfl, ?_⟩
    simpa using List.rel_append hread (.cons ⟨as, pattern, type, rfl, htakes⟩ .nil)
  · refine Reads.ended (Reads.ite_neg ?_ ?_)
    · simp [hgo]
    refine (reads_parameter read (hfree p hp) (hback p hp) (.inr hrest)).bind_last ?_
    rintro _ ⟨as, pattern, type, rfl, htakes⟩
    refine Reads.bind_nil (reads_trailingComma_none hrest) ?_
    rintro _ rfl
    refine Reads.pure ⟨_, rfl, ?_⟩
    simpa using List.rel_append hread (.cons ⟨as, pattern, type, rfl, htakes⟩ .nil)
  · have hnil : read = [] := by simpa using hread
    subst hnil
    exact Reads.ended (Reads.ite_pos hrest (Reads.pure ⟨_, rfl, .nil⟩))

end Parser

/-! ## Assignments -/

/-- The attributes of the assignment are read again. -/
def Assignment.ReadsBack (a : Assignment) : Prop := ∀ c ∈ a.cfgs, c.ReadsBack

namespace Parser

variable {rest : List Token}

/-- A name is the name of a field. -/
theorem reads_member {word : String} (hfree : isReserved word = false) (span : Span) :
    Reads member [⟨.ident word, span⟩] rest (· = ([⟨.ident word, span⟩], true)) := by
  refine Reads.ahead (Reads.ite_pos (by simp [hfree]) ((reads_identifier hfree span).bind_pure ?_))
  rintro _ rfl
  rfl

/-- A name alone is a field with the value of the same name. -/
theorem reads_fieldValue {count : Nat} {a : Assignment} (hfree : isReserved a.member.text = false)
    (hback : a.ReadsBack) (hrest : isOp ":" rest = false)
    (hless : (a.tokens ++ rest).length ≤ count) :
    Reads (fieldValue (phrases.below count)) a.tokens rest fun ts => lexemes ts = lexemes a.tokens := by
  obtain ⟨⟨word, span⟩, cfgs⟩ := a
  simp only [Assignment.tokens, List.append_assoc] at hless
  refine (reads_outer_below hback rfl hless).bind fun attributes hattributes => ?_
  refine (reads_member hfree span).bind_last ?_
  rintro _ rfl
  refine Reads.ahead (Reads.ite_neg (by simp [hrest]) (Reads.pure ?_))
  rw [lexemes_append, hattributes, Assignment.tokens, lexemes_append]
  rfl

/-- Names are the fields of a struct literal. -/
theorem reads_fieldValues {count : Nat} {as : List Assignment}
    (hfree : ∀ a ∈ as, isReserved a.member.text = false) (hback : ∀ a ∈ as, a.ReadsBack)
    (hrest : atEnd rest = true)
    (hless : (Listed.between (Generated.operator ",") (as.map Assignment.tokens) ++ rest).length
      ≤ count) :
    Reads (fieldValues (phrases.below count))
      (Listed.between (Generated.operator ",") (as.map Assignment.tokens)) rest
      fun ts => lexemes ts
        = lexemes (Listed.between (Generated.operator ",") (as.map Assignment.tokens)) := by
  have hgo (a : Assignment) (us : List Token) : atEnd (a.tokens ++ us) = false := by
    simpa [Assignment.tokens, Name.tokens]
      using not_atEnd_of_word a.cfgs a.member.text a.member.span us
  have hdots (a : Assignment) (us : List Token) : isOp ".." (a.tokens ++ us) = false := by
    obtain ⟨member, _ | ⟨c, cfgs⟩⟩ := a <;> rfl
  have hcolon := isOp_of_atEnd hrest ":"
  have hcomma : Generated.operator "," ≠ [] := by decide
  refine Reads.loop_between (f := Assignment.tokens)
    (Q := fun as ts => lexemes ts
      = lexemes (Listed.between (Generated.operator ",") (as.map Assignment.tokens))) count
    (fun before read => lexemes read
      = lexemes (before.flatMap fun a => a.tokens ++ Generated.operator ","))
    hcomma hless (fun before a us read ha hlength hread => ?_)
    (fun before a read ha hlength hread => ?_) (fun read hread => ?_) rfl
  · refine Reads.ahead (Reads.ite_neg ?_ (Reads.ite_neg ?_ ?_))
    · simp [hgo]
    · simp [hdots]
    refine (reads_fieldValue (hfree a ha) (hback a ha) rfl hlength).bind fun field hfield => ?_
    refine Reads.ahead (Reads.ite_neg (by rintro ⟨⟩) ?_)
    refine (reads_operator (by decide) rfl).bind_pure fun comma hcomma => ⟨_, rfl, ?_⟩
    simp [hread, hfield, hcomma]
  · refine Reads.ahead (Reads.ite_neg ?_ (Reads.ite_neg ?_ ?_))
    · simp [hgo]
    · simp [hdots]
    refine (reads_fieldValue (hfree a ha) (hback a ha) hcolon hlength).bind_last fun field hfield => ?_
    refine Reads.ahead (Reads.ite_pos hrest (Reads.pure ⟨_, rfl, ?_⟩))
    have hconcat := Listed.tokens_concat (Generated.operator ",") Assignment.tokens before a
    simp only [Listed.tokens, Bool.false_and, Bool.false_eq_true, if_false, List.append_nil] at hconcat
    rw [hconcat, lexemes_append, lexemes_append, hread, hfield]
  · have hnil : read = [] := by
      cases read with
      | nil => rfl
      | cons t ts => cases hread
    subst hnil
    exact Reads.ahead (Reads.ite_pos hrest (Reads.pure ⟨_, rfl, rfl⟩))

end Parser

/-! ## The struct literal -/

/-- A struct literal of the type at hand. -/
def literalTokens (content : List Token) : List Token :=
  Generated.word "Self" ++ Generated.group .brace content

namespace Parser

variable {ph : Phrases} {content rest : List Token}

theorem reads_outerAttributes_none (hrest : isOp "#" rest = false) :
    Reads (outerAttributes ph) [] rest (· = []) := by
  rw [outerAttributes, repeatUntil_eq]
  refine Reads.loop_done (Reads.ahead (Reads.ite_pos ?_ (Reads.pure ?_)))
  · simp [hrest]
  · exact ⟨_, rfl, rfl⟩

theorem reads_outer_none (hrest : isOp "#" rest = false) : Reads (outer ph) [] rest (· = []) := by
  refine (reads_outerAttributes_none hrest).bind_pure ?_
  rintro _ rfl
  rfl

/-- The type at hand with fields in braces is a struct literal. -/
theorem reads_pathExpression
    (h : Reads (fieldValues ph) content (⟨.closing .brace, .outside⟩ :: rest)
      fun ts => lexemes ts = lexemes content) :
    Reads (pathExpression ph true) (literalTokens content) rest
      fun e => lexemes e.tokens = lexemes (literalTokens content) ∧ e.shape = .plain := by
  have hends : EndsPath (Generated.group .brace content ++ rest) := endsPath_of_isBrace rfl
  refine (reads_qualifiedPath hends.colons (reads_segment (.inr rfl) .outside hends)).bind ?_
  rintro _ ⟨_, rfl, rfl⟩
  refine Reads.ahead (Reads.ite_neg ?_ (Reads.ite_pos rfl ?_))
  · simp [hends.operators "!" (by simp)]
  · refine (Reads.group h).bind_pure fun us hus => ⟨?_, rfl⟩
    rw [lexemes_append, hus, literalTokens, lexemes_append]
    rfl

theorem blockLike?_self (span : Span) (us : List Token) :
    blockLike? ph (⟨.ident "Self", span⟩ :: us) = none := by
  simp [blockLike?, isBrace, isLifetime, Terminal.starts]

theorem reads_atom
    (h : Reads (fieldValues ph) content (⟨.closing .brace, .outside⟩ :: rest)
      fun ts => lexemes ts = lexemes content) :
    Reads (atom ph true) (literalTokens content) rest
      fun e => lexemes e.tokens = lexemes (literalTokens content) ∧ e.shape = .plain := by
  have hread := reads_pathExpression h
  simp only [literalTokens, Generated.word, List.singleton_append] at hread ⊢
  refine Reads.ahead (Reads.ite_neg ?_ (Reads.ite_neg ?_ ?_))
  · simp [isLiteral, Terminal.starts]
  · simp [beginsAsyncBlock]
  rw [List.cons_append, blockLike?_self]
  refine Reads.ite_neg ?_ (Reads.ite_neg ?_ (Reads.ite_pos ?_ hread))
  · simp [beginsClosure]
  · simp [beginsBuiltin]
  · simp [isPathWord]

/-- Nothing follows an operand at the end of a group. -/
theorem reads_trailers_none (e : Fragment) (hrest : atEnd rest = true) :
    Reads (trailers ph e) [] rest (· = e) := by
  obtain rfl | ⟨d, span, us, rfl⟩ := atEnd_cases hrest
  all_goals
    refine Reads.loop_done (Reads.ahead (Reads.ite_neg (by rintro ⟨⟩) (Reads.ite_neg ?_
      (Reads.ite_neg (by rintro ⟨⟩) (Reads.ite_neg ?_ (Reads.pure ⟨_, rfl, rfl⟩))))))
    · simp [isDot]
    · simp

/-- No operator follows an operand at the end of a group. -/
theorem reads_operators_none {left : Shape} {base : Precedence} {braces : Bool}
    (hrest : atEnd rest = true) :
    Reads (operators ph left base braces) [] rest (· = ⟨[], left⟩) := by
  have hnone : binaryOperator? rest = none := by
    rw [binaryOperator?, List.find?_eq_none]
    simp [isOp_of_atEnd hrest]
  refine Reads.loop_done (Reads.ahead ?_)
  simp only [List.nil_append, hnone]
  by_cases hrange : left = .range
  · exact Reads.ite_pos hrange (Reads.pure ⟨_, rfl, rfl⟩)
  · refine Reads.ite_neg hrange (Reads.ite_neg ?_ (Reads.ite_neg ?_ (Reads.ite_neg ?_
      (Reads.pure ⟨_, rfl, rfl⟩))))
    · simp [isAssignment, isOp_of_atEnd hrest]
    · simp [isOp_of_atEnd hrest]
    · simp [isWord_of_atEnd hrest]

theorem reads_operand (hrest : atEnd rest = true)
    (h : Reads (fieldValues ph) content (⟨.closing .brace, .outside⟩ :: rest)
      fun ts => lexemes ts = lexemes content) :
    Reads (operand ph true) (literalTokens content) rest
      fun e => lexemes e.tokens = lexemes (literalTokens content) ∧ e.shape = .plain := by
  refine Reads.ahead (Reads.bind_nil (reads_outer_none rfl) ?_)
  rintro _ rfl
  refine Reads.ahead (Reads.ite_neg (by rintro ⟨⟩) (Reads.ite_neg (by rintro ⟨⟩) ?_))
  refine (reads_atom h).bind_last fun e he => ?_
  refine (reads_trailers_none e hrest).bind_last ?_
  rintro _ rfl
  refine Reads.ite_neg (by simp [he.2]) (Reads.ite_neg (by simp [he.2]) (Reads.pure ?_))
  exact he

theorem reads_expressionStatement (hrest : atEnd rest = true)
    (h : Reads (fieldValues ph) content (⟨.closing .brace, .outside⟩ :: rest)
      fun ts => lexemes ts = lexemes content) :
    Reads (expressionStatement ph []) (literalTokens content) rest
      fun r => lexemes r.1 = lexemes (literalTokens content) := by
  have hafter : Reads (expressionAfter ph [] true) (literalTokens content) rest
      fun e => lexemes e.tokens = lexemes (literalTokens content) := by
    have hread := reads_operand hrest h
    refine Reads.ahead ?_
    rw [show blockLike? ph (literalTokens content ++ rest) = none from blockLike?_self _ _]
    refine hread.bind_last fun e he => ?_
    refine (reads_operators_none hrest).bind_pure ?_
    rintro _ rfl
    simp [he.1]
  refine hafter.bind_last fun e he => ?_
  refine Reads.bind_nil (reads_operator?_none (isOp_of_atEnd hrest ";")) ?_
  rintro _ rfl
  exact Reads.pure (by simpa using he)

/-- What a path of words leaves is seen without moving on. -/
theorem reads_afterModPath? {ts us : List Token} (h : Reads modPath ts us fun _ => True) :
    Reads afterModPath? [] (ts ++ us) (· = some us) := by
  refine Reads.get fun left limit => ?_
  obtain ⟨_, hread, -⟩ := h left limit
  rw [List.nil_append, hread]
  exact Reads.pure rfl

theorem reads_statement (hrest : atEnd rest = true)
    (h : Reads (fieldValues ph) content (⟨.closing .brace, .outside⟩ :: rest)
      fun ts => lexemes ts = lexemes content) :
    Reads (statement ph) (literalTokens content) rest
      fun r => lexemes r.1 = lexemes (literalTokens content) := by
  refine Reads.ahead (Reads.bind_nil (reads_outerAttributes_none rfl) ?_)
  rintro _ rfl
  have hpath : Reads afterModPath? [] (literalTokens content ++ rest)
      (· = some (Generated.group .brace content ++ rest)) := by
    rw [literalTokens, List.append_assoc]
    exact reads_afterModPath? ((reads_modPath_word (fun _ _ => rfl) rfl .outside).mono
      fun _ _ => trivial)
  refine Reads.bind_nil hpath ?_
  rintro _ rfl
  refine Reads.ahead (Reads.ite_neg ?_ (Reads.ite_neg ?_ (Reads.ite_neg ?_
    (reads_expressionStatement hrest h))))
  · simp [beginsBraceCall, Generated.group]
  · simp [literalTokens, Generated.word]
  · simp [beginsItem, beginsNamedCall, literalTokens, Generated.word, Generated.group]

/-- A struct literal is read as the only statement of a block. -/
theorem reads_statements (hrest : atEnd rest = true)
    (h : Reads (fieldValues ph) content (⟨.closing .brace, .outside⟩ :: rest)
      fun ts => lexemes ts = lexemes content) :
    Reads (statements ph) (literalTokens content) rest
      fun ts => lexemes ts = lexemes (literalTokens content) := by
  refine Reads.loop_done (Reads.bind_nil (Q := (· = [])) ?_ ?_)
  · refine Reads.bind_pure (Q := (· = [])) ?_ (by rintro _ rfl; rfl)
    rw [repeatUntil_eq]
    exact Reads.loop_done (Reads.ahead (Reads.ite_pos rfl (Reads.pure ⟨_, rfl, rfl⟩)))
  rintro _ rfl
  refine Reads.ended (Reads.ite_neg (by rintro ⟨⟩) ?_)
  refine (reads_statement hrest h).bind_last fun r hr => ?_
  refine Reads.ended (Reads.ite_pos (by simpa using hrest) (Reads.pure ⟨_, rfl, ?_⟩))
  simpa using hr

end Parser

/-! ## The function -/

/-- The visibility of what has the access. -/
def Access.visibility : Access → Visibility
  | full => .pub
  | limited => .inherited

@[simp] theorem Access.access_visibility (a : Access) : a.visibility.access = a := by
  cases a <;> rfl

/-- The function is the one of the initializer: it takes a value for each parameter, by its name and
under its conditions, and gives the struct literal of the assignments. -/
structure ImplFunction.Constructs (g : ImplFunction) (f : Initializer) : Prop where
  attributes : g.attributes.map (fun a => lexemes a.tokens) = [lexemes Initializer.allowance]
  visibility : g.visibility = f.access.visibility
  default : g.default = []
  modifiers : g.signature.modifiers = []
  name : g.signature.name = f.name
  generics : g.signature.generics = .none
  inputs : List.Forall₂ Argument.Takes g.signature.inputs.items f.parameters
  output : lexemes g.signature.output
    = lexemes (Generated.operator "->" ++ Generated.word "Self")
  inside : g.body.attributes = []
  statements : lexemes g.body.statements = lexemes (literalTokens
    (Listed.between (Generated.operator ",") (f.assignments.map Assignment.tokens)))

namespace Initializer

/-- The parameters and assignments of the initializer are read again. -/
structure ReadsBack (f : Initializer) : Prop where
  parameters : ∀ p ∈ f.parameters, isReserved p.name.text = false ∧ p.ReadsBack
  assignments : ∀ a ∈ f.assignments, isReserved a.member.text = false ∧ a.ReadsBack
  name : isReserved f.name.text = false

end Initializer

namespace Parser

variable {rest : List Token}

/-- The braces around a struct literal are read as a block. -/
theorem reads_literalBody {as : List Assignment}
    (h : ∀ a ∈ as, isReserved a.member.text = false ∧ a.ReadsBack) :
    Reads (functionBody phrases) (Generated.group .brace (literalTokens
      (Listed.between (Generated.operator ",") (as.map Assignment.tokens)))) rest
      fun b => b.attributes = [] ∧ lexemes b.statements = lexemes (literalTokens
        (Listed.between (Generated.operator ",") (as.map Assignment.tokens))) := by
  refine Reads.inside ?_
  refine Reads.bind_nil (Q := (· = [])) ?_ ?_
  · rw [innerAttributes, repeatUntil_eq]
    exact Reads.loop_done (Reads.ahead (Reads.ite_pos rfl (Reads.pure ⟨_, rfl, rfl⟩)))
  rintro _ rfl
  refine Reads.bind_pure (Q := fun ts => lexemes ts = lexemes (literalTokens
    (Listed.between (Generated.operator ",") (as.map Assignment.tokens)))) ?_ fun ts hts => ⟨rfl, hts⟩
  refine Reads.bind_pure (reads_phrase (Reads.bind_pure (reads_statements rfl
    (reads_fieldValues (fun a ha => (h a ha).1) (fun a ha => (h a ha).2) rfl ?_))
    fun ts hts => ?_)) fun f hf => hf
  · simp [literalTokens, Generated.group]
    omega
  · exact hts

/-- The modifier of a function is read as its visibility. -/
theorem reads_access (a : Access) (span : Span) :
    Reads visibility a.tokens (⟨.ident "fn", span⟩ :: rest) (· = a.visibility) := by
  cases a with
  | limited => exact Reads.ahead (Reads.ite_neg (by simp [Access.tokens]) (Reads.pure rfl))
  | full =>
    refine Reads.ahead (Reads.ite_pos rfl ?_)
    refine (reads_keyword "pub" .outside).bind_last fun _ _ => Reads.ahead (Reads.ite_neg ?_
      (Reads.ite_neg ?_ (Reads.pure rfl)))
    · simp [isParen, Terminal.starts]
    · simp [isParen, Terminal.starts]

/-- The type of the function is the type at hand. -/
theorem reads_returnType (hrest : EndsPath rest) :
    Reads (returnType phrases true) (Generated.operator "->" ++ Generated.word "Self") rest
      fun ts => lexemes ts = lexemes (Generated.operator "->" ++ Generated.word "Self") := by
  refine Reads.ahead (Reads.ite_pos rfl ?_)
  refine Reads.seq_cons (reads_operator (by decide) rfl) (Reads.seq_single ?_)
  refine (reads_wordType (.inr rfl) .outside hrest).bind_pure fun f hf => ?_
  rw [hf]
  rfl

theorem reads_itemKeyword (text : String) (span : Span) :
    Reads (itemKeyword text) [⟨.ident text, span⟩] rest (· = ⟨text, span⟩) := by
  refine (reads_keyword text span).bind_pure ?_
  rintro _ rfl
  rfl

/-- The head of the function. -/
def headTokens (f : Initializer) : List Token :=
  Generated.word "fn" ++ (f.name.tokens ++ (Generated.group .parenthesis
      (Listed.between (Generated.operator ",") (f.parameters.map Parameter.tokens))
    ++ (Generated.operator "->" ++ Generated.word "Self")))

/-- The head of the function is read in front of its body. -/
theorem reads_head {f : Initializer} (h : f.ReadsBack) (hrest : isBrace rest = true) :
    Reads (signature phrases) (headTokens f) rest fun s => s.modifiers = [] ∧ s.name = f.name
      ∧ s.generics = .none ∧ List.Forall₂ Argument.Takes s.inputs.items f.parameters
      ∧ lexemes s.output = lexemes (Generated.operator "->" ++ Generated.word "Self") := by
  have hpath := endsPath_of_isBrace hrest
  obtain ⟨span, us, rfl⟩ := groupStarts_iff.1 hrest
  refine Reads.bind_nil (Q := (· = [])) (Reads.seq_none (reads_keyword?_none rfl)
    (Reads.seq_none (reads_keyword?_none rfl) (Reads.seq_none (reads_keyword?_none rfl)
    (Reads.seq_none (Reads.ahead (Reads.ite_neg (by rintro ⟨⟩) (Reads.pure rfl)))
    Reads.seq_nil)))) ?_
  rintro _ rfl
  refine (reads_itemKeyword "fn" .outside).bind ?_
  rintro _ rfl
  refine (reads_name h.name).bind ?_
  rintro _ rfl
  refine Reads.bind_nil (Q := (· = .none)) (Reads.ahead (Reads.ite_neg (by rintro ⟨⟩)
    (Reads.pure rfl))) ?_
  rintro _ rfl
  have hparameters := @reads_parameters (⟨.closing .parenthesis, .outside⟩ ::
    ((Generated.operator "->" ++ Generated.word "Self") ++ ⟨.opening .brace, span⟩ :: us))
    f.parameters (fun p hp => (h.parameters p hp).1) (fun p hp => (h.parameters p hp).2) rfl
  rw [Generated.group, List.append_assoc, List.singleton_append]
  refine Reads.bracketedThen hparameters fun inputs hinputs => ?_
  refine (reads_returnType hpath).bind_last fun output houtput => ?_
  refine Reads.bind_nil (Q := (· = none)) (Reads.ahead (Reads.ite_neg (by rintro ⟨⟩)
    (Reads.pure rfl))) ?_
  rintro _ rfl
  exact Reads.pure ⟨rfl, rfl, rfl, hinputs, houtput⟩

/-- The allowance in front of the function is an attribute. -/
theorem reads_allowance (hrest : isOp "#" rest = false) :
    Reads (outerAttributes phrases) Initializer.allowance rest
      fun as => as.map (fun a => lexemes a.tokens) = [lexemes Initializer.allowance] := by
  have hread (us : List Token) : Reads (outerAttribute phrases) Initializer.allowance us
      fun a => lexemes a.tokens = lexemes Initializer.allowance := by
    refine (@reads_wordAttribute phrases (Generated.word "clippy" ++ Generated.operator "::"
      ++ Generated.word "too_many_arguments") us "allow" .alone (by decide) rfl .parenthesis .outside
      .outside .outside .outside .outside .outside).mono fun a ha => ?_
    obtain ⟨hinner, hpath, hcontent⟩ := ha
    rw [Attribute.tokens, hinner, hpath, hcontent]
    rfl
  refine (@reads_repeatUntil _ _ (!isOp "#" ·) (fun ts a => lexemes a.tokens = lexemes ts)
    [Initializer.allowance] rest (by simp [hrest]) fun ts hts => ?_).mono fun as has => ?_
  · obtain rfl := List.mem_singleton.1 hts
    exact ⟨List.cons_ne_nil _ _, fun us => ⟨rfl, hread us⟩⟩
  · obtain ⟨a, rest, ha, hrest, rfl⟩ := List.forall₂_cons_left_iff.1 has
    obtain rfl := List.forall₂_nil_left_iff.1 hrest
    simp [ha]

/-- What a visibility leaves is seen without moving on. -/
theorem reads_afterVisibility {ts us : List Token} {v : Visibility}
    (h : Reads visibility ts us (· = v)) :
    Reads afterVisibility [] (ts ++ us) (· = (v, us)) := by
  refine Reads.get fun left limit => ?_
  obtain ⟨_, hread, rfl⟩ := h left limit
  rw [List.nil_append, hread]
  exact Reads.pure rfl

theorem functionTokens_eq (f : Initializer) : f.functionTokens
    = Initializer.allowance ++ (f.access.tokens ++ (headTokens f
      ++ Generated.group .brace (literalTokens
        (Listed.between (Generated.operator ",") (f.assignments.map Assignment.tokens))))) := by
  simp [Initializer.functionTokens, headTokens, literalTokens]

/-- The head begins with its keyword. -/
theorem headTokens_append (f : Initializer) (us : List Token) :
    ∃ vs, headTokens f ++ us = ⟨.ident "fn", .outside⟩ :: vs := ⟨_, rfl⟩

/-- The function is read after its attributes. -/
theorem reads_implFunction {f : Initializer} (h : f.ReadsBack) {as : List Attribute}
    (has : as.map (fun a => lexemes a.tokens) = [lexemes Initializer.allowance]) :
    Reads (implFunction? phrases as) (f.access.tokens ++ (headTokens f
      ++ Generated.group .brace (literalTokens
        (Listed.between (Generated.operator ",") (f.assignments.map Assignment.tokens))))) rest
      fun g? => ∃ g, g? = some g ∧ g.Constructs f := by
  have hvisibility (us : List Token) : Reads visibility f.access.tokens (headTokens f ++ us)
      (· = f.access.visibility) := by
    obtain ⟨vs, hvs⟩ := headTokens_append f us
    rw [hvs]
    exact reads_access f.access .outside
  refine Reads.bind (by simpa using hvisibility _) ?_
  rintro _ rfl
  refine Reads.bind_nil (reads_keyword?_none (by rfl)) ?_
  rintro _ rfl
  refine (reads_head h rfl).bind fun s hs => ?_
  obtain ⟨hmodifiers, hname, hgenerics, hinputs, houtput⟩ := hs
  refine Reads.bind_nil (reads_operator?_none (by rfl)) ?_
  rintro _ rfl
  refine Reads.ite_pos rfl ((reads_literalBody h.assignments).bind_pure fun b hb => ?_)
  exact ⟨_, rfl, has, rfl, rfl, hmodifiers, hname, hgenerics, hinputs, houtput, hb.1, hb.2⟩

/-- The function is read as the one of the initializer. -/
theorem reads_function {f : Initializer} (h : f.ReadsBack) :
    Reads (implItem phrases) f.functionTokens rest fun i => ∃ g, i = .function g ∧ g.Constructs f := by
  rw [functionTokens_eq]
  have hvisibility (us : List Token) : Reads visibility f.access.tokens (headTokens f ++ us)
      (· = f.access.visibility) := by
    obtain ⟨vs, hvs⟩ := headTokens_append f us
    rw [hvs]
    exact reads_access f.access .outside
  refine Reads.ahead ((reads_allowance ?_).bind fun as has => ?_)
  · cases f.access <;> rfl
  refine Reads.bind_nil (Q := (· = (f.access.visibility, headTokens f ++ (Generated.group .brace
    (literalTokens (Listed.between (Generated.operator ",") (f.assignments.map Assignment.tokens)))
    ++ rest)))) ?_ ?_
  · simpa using reads_afterVisibility (hvisibility _)
  rintro _ rfl
  have hread := @reads_implFunction rest f h as has
  refine Reads.ite_pos rfl (hread.bind_last ?_)
  rintro _ ⟨g, rfl, hg⟩
  exact Reads.pure ⟨g, rfl, hg⟩

end Parser

end Memberwise
