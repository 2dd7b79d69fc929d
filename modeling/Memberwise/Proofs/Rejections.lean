import Memberwise.Proofs.ArgumentGrammar

/-!
# Arguments that are rejected

Arguments are rejected for the first thing that is wrong with them. A name that means nothing is told
wherever an argument begins, and so is the second `name`, before it is looked at what is made of it;
but the value of the first is read before. All other rejections are those of the syntax, and they come
from what stands before a second name or where that would have to be.

## Main definitions

* `Cause.OfSyntax`: the causes that a rejection of the syntax has
* `Parser.NoName`, `Parser.NoValue`: where no name and no value can be read, and why
* `Arguments.Unknown`, `Arguments.Repeated`: an argument without a meaning, and one too many
* `Arguments.Malformed`: the rejections of the syntax, by what was being read

## Main statements

* `name_cases`, `argumentValue_cases`: a name and a value are there or are missing
* `arguments_cases`: a stream is accepted or has a reason to be rejected
* `parseAll_arguments_eq_error`: why a stream is rejected
* `unknown_told_iff`, `repeated_told_iff`, `otherwise_malformed_iff`: when each kind of error is told
* `arguments_rejected`: what is told of a stream that is rejected
-/

namespace Memberwise

/-! ## Causes -/

/-- The causes that a rejection of the syntax has. -/
inductive Cause.OfSyntax : Cause → Prop
  | expected (choices : List Terminal) : OfSyntax (.expected choices)
  | reserved (word : String) : OfSyntax (.reserved word)
  | leftover : OfSyntax (.leftover none)
  | unreadableText : OfSyntax .unreadableText
  | stringSuffix (suffix : String) : OfSyntax (.stringSuffix suffix)

/-- The text begins with a character of a kind. -/
def begins (p : Char → Bool) (text : String) : Bool := Text.headIs p text.toList

/-- What a text begins with does not depend on what is added to it. -/
theorem begins_append (p : Char → Bool) {s : String} (hne : s ≠ "") (t : String) :
    begins p (s ++ t) = begins p s := by
  rw [begins, begins, String.toList_append]
  cases hs : s.toList with
  | nil => exact absurd (by simpa using hs) hne
  | cons c cs => rfl

theorem begins_expectation (choices : List Terminal) :
    begins Char.isUpper (expectation choices) = false := by
  unfold expectation
  split
  · decide +kernel
  · rw [begins_append _ (by decide)]
    decide +kernel
  · rw [String.append_assoc, String.append_assoc, begins_append _ (by decide)]
    decide +kernel
  · rw [begins_append _ (by decide)]
    decide +kernel

/-- The messages of the syntax begin with a small letter. -/
theorem Cause.OfSyntax.begins_message {e : Diagnostic} (h : e.cause.OfSyntax) :
    begins Char.isUpper e.message = false := by
  have hsentence {cause : Cause} (h : cause.OfSyntax) : begins Char.isUpper cause.sentence = false := by
    cases h with
    | expected choices => exact begins_expectation choices
    | leftover => decide +kernel
    | unreadableText => decide +kernel
    | reserved word =>
      change begins Char.isUpper ("expected identifier, found keyword `" ++ word ++ "`") = false
      rw [String.append_assoc, begins_append _ (by decide)]
      decide +kernel
    | stringSuffix suffix =>
      change begins Char.isUpper ("unexpected suffix `" ++ suffix ++ "` on string literal") = false
      rw [String.append_assoc, begins_append _ (by decide)]
      decide +kernel
  unfold Diagnostic.message
  split
  · decide +kernel
  · rw [begins_append _ (by decide)]
    decide +kernel
  · exact hsentence h

namespace Parser

variable {c d : Cursor} {n : Name} {e : Diagnostic}

/-! ## Names and values -/

/-- No name can be read here, for the given reason. -/
inductive NoName (c : Cursor) : Diagnostic → Prop
  | reserved {word : String} {span : Span} {rest : List Token}
    (tokens : c.tokens = ⟨.ident word, span⟩ :: rest) (reserved : isReserved word = true) :
    NoName c (c.reject (.reserved word))
  | other (other : Terminal.word.starts c.tokens = false) :
    NoName c (c.reject (.expected [.identifier]))

/-- No value can be read here, for the given reason: there is neither a string nor a name, or the text
of the string is not read as a name. -/
inductive NoValue (c : Cursor) : Diagnostic → Prop
  | name {e : Diagnostic} (other : Terminal.string.starts c.tokens = false) (missing : NoName c e) :
    NoValue c e
  | text {text : String} {span : Span} {rest : List Token} {e : Diagnostic}
    (tokens : c.tokens = ⟨.literal text, span⟩ :: rest) (string : Text.isString text = true)
    (unread : Name.ofLiteral text span = .error e) : NoValue c e

theorem NoName.ofSyntax (h : NoName c e) : e.cause.OfSyntax := by
  cases h with
  | reserved => exact .reserved _
  | other => exact .expected _

theorem NoName.eq_error (h : NoName c e) : name c = .error e := by
  cases h with
  | reserved tokens reserved => simp [name, identifier, bind_apply, tokens, reserved]
  | other other =>
    obtain ⟨ts, left, limit⟩ := c
    cases ts with
    | nil => rfl
    | cons t rest =>
      obtain ⟨l, span⟩ := t
      cases l with
      | ident word => cases other
      | punct | literal | opening | closing => rfl

/-- Either there is a name or it is told why there is none. -/
theorem name_cases (c : Cursor) :
    (∃ n d, name c = .ok (n, d)) ∨ ∃ e, NoName c e := by
  cases hword : Terminal.word.starts c.tokens with
  | false => exact .inr ⟨_, .other hword⟩
  | true =>
    obtain ⟨word, span, rest, htokens⟩ := wordStarts_iff.1 hword
    cases hreserved : isReserved word with
    | true => exact .inr ⟨_, .reserved htokens hreserved⟩
    | false => exact .inl ⟨_, _, name_eq_ok.2 ⟨word, span, rest, hreserved, htokens, rfl, rfl⟩⟩

/-- A stream that is no name is rejected by the syntax. -/
theorem parseAll_name_ofSyntax {ts : List Token} {limit : Span}
    (h : parseAll name ts limit = .error e) : e.cause.OfSyntax := by
  obtain ⟨n, d, hname⟩ | ⟨e', hnone⟩ := name_cases (.ofTokens ts limit)
  · obtain ⟨word, span, rest, -, -, -, rfl⟩ := name_eq_ok.1 hname
    rw [parseAll, hname] at h
    change (if atEnd rest then Except.ok n else Except.error (Cursor.surplus ⟨rest, none, limit⟩ none)) =
      Except.error e at h
    split at h
    · cases h
    · cases h
      exact .leftover
  · simp only [parseAll, hnone.eq_error, bind, Except.bind] at h
    cases h
    exact hnone.ofSyntax

/-- The text of a string is rejected by the syntax alone. -/
theorem ofLiteral_ofSyntax {text : String} {span : Span} (h : Name.ofLiteral text span = .error e) :
    e.cause.OfSyntax := by
  rw [Name.ofLiteral] at h
  split at h
  · cases h
    exact .expected _
  next literal hvalue =>
  split at h
  · cases h
    exact .unreadableText
  next ts hlex =>
  cases hread : parseAll name (ts.map (Token.placedIn span)) span with
  | ok n =>
    simp only [hread, bind, Except.bind] at h
    split at h
    · cases h
    · cases h
      exact .stringSuffix _
  | error e' =>
    obtain rfl : e' = e := by simpa [hread, bind, Except.bind] using h
    exact parseAll_name_ofSyntax hread

theorem NoValue.ofSyntax (h : NoValue c e) : e.cause.OfSyntax := by
  cases h with
  | name _ missing => exact missing.ofSyntax
  | text _ _ unread => exact ofLiteral_ofSyntax unread

theorem NoValue.eq_error (h : NoValue c e) : argumentValue c = .error e := by
  obtain ⟨ts, left, limit⟩ := c
  cases h with
  | name other missing =>
    rw [argumentValue, bind_apply, ahead_apply]
    simp only
    split
    · next text span rest =>
      rw [ite_apply, if_neg (by simpa [Terminal.starts] using other)]
      exact missing.eq_error
    · exact missing.eq_error
  | text tokens string unread =>
    obtain rfl : ts = _ := tokens
    simp only [argumentValue, bind_apply, ahead_apply, ite_apply, string, if_true, take_apply, unread]
    rfl

/-- Either there is a value or it is told why there is none. -/
theorem argumentValue_cases (c : Cursor) :
    (∃ n d, argumentValue c = .ok (n, d)) ∨ ∃ e, NoValue c e := by
  cases hstring : Terminal.string.starts c.tokens with
  | true =>
    obtain ⟨text, span, rest, htokens, htext⟩ : ∃ text span rest,
        c.tokens = ⟨.literal text, span⟩ :: rest ∧ Text.isString text = true := by
      unfold Terminal.starts at hstring
      split at hstring <;> simp_all
    cases hread : Name.ofLiteral text span with
    | error e => exact .inr ⟨e, .text htokens htext hread⟩
    | ok n => exact .inl ⟨n, _, argumentValue_eq_ok.2 ⟨_, rest, ofLiteral_eq_ok.1 hread, htokens, rfl⟩⟩
  | false =>
    obtain ⟨n, d, hname⟩ | ⟨e, hnone⟩ := name_cases c
    · obtain ⟨word, span, rest, hfree, htokens, rfl, rfl⟩ := name_eq_ok.1 hname
      exact .inl ⟨_, _, argumentValue_eq_ok.2 ⟨_, rest, .word hfree, htokens, rfl⟩⟩
    · exact .inr ⟨e, .name hstring hnone⟩

theorem operator_eq_error {text : String} : operator text c = .error e ↔
    isOp text c.tokens = false ∧ e = .present (.expected [.operator text]) c.span := by
  rw [operator_apply]
  cases isOp text c.tokens <;> simp [eq_comm]

end Parser

/-! ## What is wrong with a stream -/

namespace Arguments

/-- The stream has a whole argument, a comma, and then another name. -/
inductive Again : List Token → Name → Prop
  | intro {given : List Token} {value n : Name} (assigns : Assigns given value) (spacing : Spacing)
      (comma : Span) (free : isReserved n.text = false) (rest : List Token) :
      Again (given ++ ⟨.punct ',' spacing, comma⟩ :: (n.tokens ++ rest)) n

/-- The first name in the stream that has no meaning, the argument before it being right. -/
inductive Unknown : List Token → Name → Prop
  | first {n : Name} (free : isReserved n.text = false) (other : n.text ≠ "name")
      (rest : List Token) : Unknown (n.tokens ++ rest) n
  | again {ts : List Token} {n : Name} (again : Again ts n) (other : n.text ≠ "name") : Unknown ts n

/-- The argument is named again at `span`, having been given before. -/
def Repeated (ts : List Token) (span : Span) : Prop := Again ts ⟨"name", span⟩

/-- The stream, which ends at `limit`, is not made as arguments are: the first thing that is missing,
and where. No second name has been read by then. -/
inductive Malformed (limit : Span) : List Token → Diagnostic → Prop
  | name {ts : List Token} {e : Diagnostic} (more : atEnd ts = false)
      (missing : Parser.NoName (.ofTokens ts limit) e) : Malformed limit ts e
  | equals {rest : List Token} (place : Span) (missing : isOp "=" rest = false) :
      Malformed limit (⟨.ident "name", place⟩ :: rest)
        (.present (.expected [.operator "="]) (Cursor.ofTokens rest limit).span)
  | value {rest : List Token} {e : Diagnostic} (place : Span) (spacing : Spacing) (equals : Span)
      (missing : Parser.NoValue (.ofTokens rest limit) e) :
      Malformed limit (⟨.ident "name", place⟩ :: ⟨.punct '=' spacing, equals⟩ :: rest) e
  | comma {given rest : List Token} {value : Name} (assigns : Assigns given value)
      (more : atEnd rest = false) (missing : isOp "," rest = false) :
      Malformed limit (given ++ rest)
        (.present (.expected [.operator ","]) (Cursor.ofTokens rest limit).span)
  | next {given rest : List Token} {value : Name} {e : Diagnostic} (assigns : Assigns given value)
      (spacing : Spacing) (comma : Span) (more : atEnd rest = false)
      (missing : Parser.NoName (.ofTokens rest limit) e) :
      Malformed limit (given ++ ⟨.punct ',' spacing, comma⟩ :: rest) e

/-- What is missing is missing for the syntax. -/
theorem Malformed.ofSyntax {limit : Span} {ts : List Token} {e : Diagnostic}
    (h : Malformed limit ts e) : e.cause.OfSyntax := by
  cases h with
  | name _ missing => exact missing.ofSyntax
  | equals => exact .expected _
  | value _ _ _ missing => exact missing.ofSyntax
  | comma => exact .expected _
  | next _ _ _ _ missing => exact missing.ofSyntax

end Arguments

/-! ## The loop -/

namespace Parser

variable {c : Cursor} {n : Name} {e : Diagnostic} {ts rest : List Token} {limit : Span}

open Arguments (Assigns Again Unknown Repeated Malformed)

/-- A round fails where another name has to be and is not. -/
theorem argumentRound_of_noName {found : Option Name} (hmore : atEnd c.tokens = false)
    (h : NoName c e) : argumentRound found c = .error e := by
  rw [argumentRound_apply hmore, h.eq_error]

/-- What a round makes of a name. -/
theorem argumentRound_of_name {found : Option Name} (hfree : isReserved n.text = false) :
    argumentRound found (.ofTokens (n.tokens ++ rest) limit) =
      if n.text = "name" then
        if found.isSome then .error (.present (.repeatedArgument n.text) n.span)
        else assignment (.ofTokens rest limit)
      else .error (.present (.unknownArgument n.text) n.span) := by
  have hname : name (.ofTokens (n.tokens ++ rest) limit) = .ok (n, .ofTokens rest limit) :=
    name_eq_ok.2 ⟨n.text, n.span, rest, hfree, rfl, rfl, rfl⟩
  rw [argumentRound_apply rfl, hname]

/-- What is wrong with the first argument is wrong with the arguments. -/
theorem arguments_of_round (h : argumentRound none c = .error e) : arguments c = .error e := by
  rw [arguments_eq, loop_eq, h]

/-- After a first argument and a comma, what is wrong with the rest is wrong with the arguments. -/
theorem arguments_of_again {given : List Token} {value : Name} {spacing : Spacing} {comma : Span}
    (hassigns : Assigns given value)
    (h : argumentRound (some value) (.ofTokens rest limit) = .error e) :
    arguments (.ofTokens (given ++ ⟨.punct ',' spacing, comma⟩ :: rest) limit) = .error e := by
  have hfirst : argumentRound none (.ofTokens (given ++ ⟨.punct ',' spacing, comma⟩ :: rest) limit) =
      .ok (.inl (some value), .ofTokens rest limit) :=
    (argumentRound_none_eq_ok (hassigns.begins _)).2
      ⟨given, value, _, hassigns, rfl, .inr ⟨spacing, comma, rest, rfl, rfl⟩⟩
  have hless : (Cursor.ofTokens rest limit).tokens.length <
      (Cursor.ofTokens (given ++ ⟨.punct ',' spacing, comma⟩ :: rest) limit).tokens.length := by
    simp only [Cursor.ofTokens, List.length_append, List.length_cons]
    omega
  rw [arguments_eq, loop_eq, hfirst]
  simp only [hless, if_true]
  rw [loop_eq, h]

theorem arguments_of_unknown (h : Unknown ts n) :
    arguments (.ofTokens ts limit) = .error (.present (.unknownArgument n.text) n.span) := by
  cases h with
  | first free other rest =>
    refine arguments_of_round ?_
    rw [argumentRound_of_name free, if_neg other]
  | again again other =>
    obtain ⟨assigns, spacing, comma, free, rest⟩ := again
    refine arguments_of_again assigns ?_
    rw [argumentRound_of_name free, if_neg other]

theorem arguments_of_repeated {span : Span} (h : Repeated ts span) :
    arguments (.ofTokens ts limit) = .error (.present (.repeatedArgument "name") span) := by
  obtain ⟨assigns, spacing, comma, free, rest⟩ := h
  refine arguments_of_again assigns ?_
  rw [argumentRound_of_name free]
  rfl

/-- What is read after the name of the argument, if it is an equals sign that comes. -/
theorem assignment_of_equals (spacing : Spacing) (equals : Span) :
    assignment (.ofTokens (⟨.punct '=' spacing, equals⟩ :: rest) limit) =
      match argumentValue (.ofTokens rest limit) with
      | .error e => .error e
      | .ok (value, d) =>
        if atEnd d.tokens then .ok (.inr ⟨some value⟩, d)
        else
          match operator "," d with
          | .error e => .error e
          | .ok (_, d) => .ok (.inl (some value), d) := by
  have hequals : operator "=" (.ofTokens (⟨.punct '=' spacing, equals⟩ :: rest) limit) =
      .ok ([⟨.punct '=' .alone, equals⟩], .ofTokens rest limit) :=
    (operator_single_eq_ok rfl).2 ⟨spacing, equals, rest, rfl, rfl, rfl⟩
  rw [assignment, bind_apply, hequals]
  simp only [bind_apply]
  cases argumentValue (.ofTokens rest limit) with
  | error e => rfl
  | ok r =>
    obtain ⟨value, d⟩ := r
    by_cases hend : atEnd d.tokens
    · simp [ended_apply, hend]
    · simp only [ended_apply, hend, Bool.false_eq_true, if_false, bind_apply]
      cases operator "," d <;> rfl

theorem arguments_of_malformed (h : Malformed limit ts e) :
    arguments (.ofTokens ts limit) = .error e := by
  have hround (place : Span) (rest : List Token) :
      argumentRound none (.ofTokens (⟨.ident "name", place⟩ :: rest) limit) =
        assignment (.ofTokens rest limit) :=
    @argumentRound_of_name ⟨"name", place⟩ rest limit none (by decide : isReserved "name" = false)
  cases h with
  | name more missing => exact arguments_of_round (argumentRound_of_noName more missing)
  | equals place missing =>
    refine arguments_of_round ?_
    rw [hround, assignment, bind_apply, operator_eq_error.2 ⟨missing, rfl⟩]
  | value place spacing equals missing =>
    refine arguments_of_round ?_
    rw [hround, assignment_of_equals, missing.eq_error]
  | @comma _ rest n assigns more missing =>
    obtain @⟨value, _, place, spacing, equals, denotes⟩ := assigns
    have hvalue : argumentValue (.ofTokens (value :: rest) limit) = .ok (n, .ofTokens rest limit) :=
      argumentValue_eq_ok.2 ⟨value, rest, denotes, rfl, rfl⟩
    refine arguments_of_round ((hround place (⟨.punct '=' spacing, equals⟩ :: value :: rest)).trans ?_)
    rw [assignment_of_equals, hvalue]
    simp only [show atEnd (Cursor.ofTokens rest limit).tokens = false from more]
    rw [operator_eq_error.2 ⟨missing, rfl⟩]
    rfl
  | next assigns spacing comma more missing =>
    exact arguments_of_again assigns (argumentRound_of_noName more missing)

/-- What can follow a first argument: nothing, or a comma with nothing or a name after it. -/
theorem arguments_cases_of_assigns {given : List Token} (hassigns : Assigns given n) :
    (∃ a, parseAll arguments (given ++ rest) limit = .ok a) ∨
      (∃ e, Malformed limit (given ++ rest) e) ∨ ∃ m, Again (given ++ rest) m := by
  have haccepted {us : List Token} (hend : atEnd us = true)
      (htokens : given ++ rest = given ++ us
        ∨ ∃ spacing comma, given ++ rest = given ++ ⟨.punct ',' spacing, comma⟩ :: us) :
      ∃ a, parseAll arguments (given ++ rest) limit = .ok a :=
    ⟨⟨some n⟩, parseAll_eq_ok.2 ⟨.ofTokens us limit, (arguments_run (hassigns.begins rest)).2
      ⟨given, n, us, hassigns, rfl, hend, rfl, htokens⟩, rfl, hend⟩⟩
  cases hmore : atEnd rest with
  | true => exact .inl (haccepted hmore (.inl rfl))
  | false =>
    cases hcomma : isOp "," rest with
    | false => exact .inr (.inl ⟨_, .comma hassigns hmore hcomma⟩)
    | true =>
      obtain ⟨spacing, comma, us, rfl⟩ := isOp_eq_cons (show ",".toList = [','] from rfl) hcomma
      cases hnext : atEnd us with
      | true => exact .inl (haccepted hnext (.inr ⟨spacing, comma, rfl⟩))
      | false =>
        obtain ⟨m, d, hname⟩ | ⟨e, hnone⟩ := name_cases (.ofTokens us limit)
        · obtain ⟨word, span, after, hfree, htokens, rfl, -⟩ := name_eq_ok.1 hname
          obtain rfl : us = _ := htokens
          exact .inr (.inr ⟨_, @Again.intro given n ⟨word, span⟩ hassigns spacing comma hfree after⟩)
        · exact .inr (.inl ⟨e, .next hassigns spacing comma hnext hnone⟩)

/-- What can follow the name of the argument: an equals sign and a value, and what follows these. -/
theorem arguments_cases_of_name (place : Span) (us : List Token) :
    (∃ a, parseAll arguments (⟨.ident "name", place⟩ :: us) limit = .ok a) ∨
      (∃ e, Malformed limit (⟨.ident "name", place⟩ :: us) e) ∨
        ∃ m, Again (⟨.ident "name", place⟩ :: us) m := by
  cases hequals : isOp "=" us with
  | false => exact .inr (.inl ⟨_, .equals place hequals⟩)
  | true =>
    obtain ⟨spacing, equals, vs, rfl⟩ := isOp_eq_cons (show "=".toList = ['='] from rfl) hequals
    obtain ⟨m, d, hvalue⟩ | ⟨e, hnone⟩ := argumentValue_cases (.ofTokens vs limit)
    · obtain ⟨value, rest, hdenotes, htokens, -⟩ := argumentValue_eq_ok.1 hvalue
      obtain rfl : vs = _ := htokens
      exact arguments_cases_of_assigns (.intro place spacing equals hdenotes)
    · exact .inr (.inl ⟨e, .value place spacing equals hnone⟩)

/-- Arguments that are not accepted are rejected for one of three reasons. -/
theorem arguments_cases (ts : List Token) (limit : Span) :
    (∃ a, parseAll arguments ts limit = .ok a) ∨
      (∃ e, Malformed limit ts e) ∨ (∃ n, Unknown ts n) ∨ ∃ span, Repeated ts span := by
  cases hmore : atEnd ts with
  | true =>
    have hnone : arguments (.ofTokens ts limit) = .ok ({}, .ofTokens ts limit) := by
      rw [arguments_eq, loop_eq, argumentRound_of_atEnd hmore]
    exact .inl ⟨{}, parseAll_eq_ok.2 ⟨_, hnone, rfl, hmore⟩⟩
  | false =>
    obtain ⟨n, d, hname⟩ | ⟨e, hnone⟩ := name_cases (.ofTokens ts limit)
    · obtain ⟨word, place, us, hfree, htokens, rfl, -⟩ := name_eq_ok.1 hname
      obtain rfl : ts = _ := htokens
      by_cases hword : word = "name"
      · subst hword
        -- Another name after a whole argument either has no meaning or is this one again.
        obtain haccepted | hmalformed | ⟨m, hagain⟩ := arguments_cases_of_name place us
        · exact .inl haccepted
        · exact .inr (.inl hmalformed)
        · by_cases hm : m.text = "name"
          · obtain ⟨text, span⟩ := m
            obtain rfl : text = "name" := hm
            exact .inr (.inr (.inr ⟨span, hagain⟩))
          · exact .inr (.inr (.inl ⟨m, .again hagain hm⟩))
      · exact .inr (.inr (.inl ⟨_, @Unknown.first ⟨word, place⟩ hfree hword us⟩))
    · exact .inr (.inl ⟨e, .name hmore hnone⟩)

end Parser

/-! ## Whole streams -/

open Arguments (Unknown Repeated Malformed Again)

variable {ts : List Token} {limit : Span} {e : Diagnostic}

/-- Why a stream is rejected. -/
theorem parseAll_arguments_eq_error :
    parseAll Parser.arguments ts limit = .error e ↔
      Malformed limit ts e
        ∨ (∃ n, Unknown ts n ∧ e = .present (.unknownArgument n.text) n.span)
        ∨ ∃ span, Repeated ts span ∧ e = .present (.repeatedArgument "name") span := by
  have hlift {e : Diagnostic} (h : Parser.arguments (.ofTokens ts limit) = .error e) :
      parseAll Parser.arguments ts limit = .error e := by
    rw [parseAll, h]
    rfl
  constructor
  · intro h
    -- The stream has one of the reasons, and with it the diagnostic there is.
    obtain ⟨a, haccepted⟩ | ⟨e', hreason⟩ | ⟨n, hreason⟩ | ⟨span, hreason⟩ :=
      Parser.arguments_cases ts limit
    · rw [haccepted] at h
      cases h
    · obtain rfl : e' = e :=
        Except.error.inj ((hlift (Parser.arguments_of_malformed hreason)).symm.trans h)
      exact .inl hreason
    · exact .inr (.inl ⟨n, hreason,
        Except.error.inj (h.symm.trans (hlift (Parser.arguments_of_unknown hreason)))⟩)
    · exact .inr (.inr ⟨span, hreason,
        Except.error.inj (h.symm.trans (hlift (Parser.arguments_of_repeated hreason)))⟩)
  · rintro (hreason | ⟨n, hreason, rfl⟩ | ⟨span, hreason, rfl⟩)
    · exact hlift (Parser.arguments_of_malformed hreason)
    · exact hlift (Parser.arguments_of_unknown hreason)
    · exact hlift (Parser.arguments_of_repeated hreason)

/-- A name without a meaning is told in words of its own. -/
theorem begins_unknownArgument (text : String) :
    begins (· == 'U') ("Unknown attribute argument: " ++ text) = true := by
  rw [begins_append _ (by decide)]
  decide +kernel

/-- What is missing for the syntax is never told as an argument that is there. -/
theorem Arguments.Malformed.message_ne (h : Malformed limit ts e) :
    (∀ text, e.message ≠ "Unknown attribute argument: " ++ text)
      ∧ e.message ≠ "Duplicate attribute argument: name" := by
  have hsmall := h.ofSyntax.begins_message
  refine ⟨fun text hmessage => ?_, fun hmessage => ?_⟩
  · rw [hmessage, begins_append _ (by decide)] at hsmall
    exact absurd hsmall (by decide +kernel)
  · rw [hmessage] at hsmall
    exact absurd hsmall (by decide +kernel)

/-- A name is told exactly if it is the first that has no meaning. -/
theorem unknown_told_iff {n : Name} :
    (∃ e, parseAll Parser.arguments ts limit = .error e
      ∧ e.message = "Unknown attribute argument: " ++ n.text ∧ e.span = n.span) ↔ Unknown ts n := by
  constructor
  · rintro ⟨e, h, hmessage, hspan⟩
    obtain hmalformed | ⟨m, hm, rfl⟩ | ⟨span, -, rfl⟩ := parseAll_arguments_eq_error.1 h
    · exact absurd hmessage (hmalformed.message_ne.1 n.text)
    · obtain ⟨text, span⟩ := m
      have hsame : "Unknown attribute argument: " ++ text = _ := hmessage
      have htext : text = n.text := by simpa using hsame
      obtain rfl : (⟨text, span⟩ : Name) = n := by rw [htext, show span = n.span from hspan]
      exact hm
    · have hbegins := begins_unknownArgument n.text
      rw [← show "Duplicate attribute argument: name" = _ from hmessage] at hbegins
      exact absurd hbegins (by decide +kernel)
  · intro h
    exact ⟨_, parseAll_arguments_eq_error.2 (.inr (.inl ⟨n, h, rfl⟩)), rfl, rfl⟩

/-- A second `name` is told exactly if it comes after a whole argument and a comma. -/
theorem repeated_told_iff {span : Span} :
    (∃ e, parseAll Parser.arguments ts limit = .error e
      ∧ e.message = "Duplicate attribute argument: name" ∧ e.span = span) ↔ Repeated ts span := by
  constructor
  · rintro ⟨e, h, hmessage, hspan⟩
    obtain hmalformed | ⟨m, -, rfl⟩ | ⟨place, hplace, rfl⟩ := parseAll_arguments_eq_error.1 h
    · exact absurd hmessage hmalformed.message_ne.2
    · have hbegins := begins_unknownArgument m.text
      rw [show "Unknown attribute argument: " ++ m.text = _ from hmessage] at hbegins
      exact absurd hbegins (by decide +kernel)
    · obtain rfl : place = span := hspan
      exact hplace
  · intro h
    exact ⟨_, parseAll_arguments_eq_error.2 (.inr (.inr ⟨span, h, rfl⟩)), rfl, rfl⟩

/-- Where a second name has been read, it is the second name that is told. -/
theorem Arguments.Again.told {n : Name} (h : Again ts n)
    (hread : parseAll Parser.arguments ts limit = .error e) :
    (∃ text, e.message = "Unknown attribute argument: " ++ text)
      ∨ e.message = "Duplicate attribute argument: name" := by
  by_cases hn : n.text = "name"
  · obtain ⟨text, span⟩ := n
    obtain rfl : text = "name" := hn
    obtain rfl := Except.error.inj
      (hread.symm.trans (parseAll_arguments_eq_error.2 (.inr (.inr ⟨span, h, rfl⟩))))
    exact .inr rfl
  · obtain rfl := Except.error.inj
      (hread.symm.trans (parseAll_arguments_eq_error.2 (.inr (.inl ⟨n, .again h hn, rfl⟩))))
    exact .inl ⟨n.text, rfl⟩

/-- All other rejections are those of the syntax, before a second name has been read. -/
theorem otherwise_malformed_iff :
    (parseAll Parser.arguments ts limit = .error e
        ∧ (∀ text, e.message ≠ "Unknown attribute argument: " ++ text)
        ∧ e.message ≠ "Duplicate attribute argument: name")
      ↔ Malformed limit ts e ∧ e.cause.OfSyntax ∧ ∀ n, ¬ Again ts n := by
  constructor
  · rintro ⟨h, hnoUnknown, hnoRepeated⟩
    obtain hmalformed | ⟨m, -, rfl⟩ | ⟨place, -, rfl⟩ := parseAll_arguments_eq_error.1 h
    · refine ⟨hmalformed, hmalformed.ofSyntax, fun n hagain => ?_⟩
      obtain ⟨text, htext⟩ | hrepeated := hagain.told h
      · exact hnoUnknown text htext
      · exact hnoRepeated hrepeated
    · exact absurd rfl (hnoUnknown m.text)
    · exact absurd rfl hnoRepeated
  · rintro ⟨hmalformed, -, -⟩
    exact ⟨parseAll_arguments_eq_error.2 (.inl hmalformed), hmalformed.message_ne⟩

/-- Arguments are rejected for the first thing that is wrong with them, and for nothing else. A name
without a meaning is told by that name, if it is the first in the stream or comes right after a whole
argument and a comma. A second `name` is told wherever it comes after those, whatever follows it. All
other rejections are those of the syntax, for something that is missing before a second name has been
read. -/
theorem arguments_rejected (ts : List Token) (limit : Span) :
    (∀ n : Name, (∃ e, parseAll Parser.arguments ts limit = .error e
        ∧ e.message = "Unknown attribute argument: " ++ n.text ∧ e.span = n.span) ↔ Unknown ts n)
      ∧ (∀ span, (∃ e, parseAll Parser.arguments ts limit = .error e
        ∧ e.message = "Duplicate attribute argument: name" ∧ e.span = span) ↔ Repeated ts span)
      ∧ ∀ e, (parseAll Parser.arguments ts limit = .error e
          ∧ (∀ text, e.message ≠ "Unknown attribute argument: " ++ text)
          ∧ e.message ≠ "Duplicate attribute argument: name")
        ↔ Malformed limit ts e ∧ e.cause.OfSyntax ∧ ∀ n, ¬ Again ts n :=
  ⟨fun _ => unknown_told_iff, fun _ => repeated_told_iff, fun _ => otherwise_malformed_iff⟩

/-- In `name = 3, name = a` the value is wrong, and it is not told that there are two names. -/
example : readArguments [⟨.ident "name", .outside⟩, ⟨.punct '=' .alone, .outside⟩,
    ⟨.literal "3", .outside⟩, ⟨.punct ',' .alone, .outside⟩, ⟨.ident "name", .outside⟩,
    ⟨.punct '=' .alone, .outside⟩, ⟨.ident "a", .outside⟩] =
      .error (.present (.expected [.identifier]) .outside) := rfl

end Memberwise
