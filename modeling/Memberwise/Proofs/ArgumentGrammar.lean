import Memberwise.Expansion
import Memberwise.Proofs.Lookahead
import Memberwise.Proofs.Spends

/-!
# The grammar of arguments

The arguments are a loop, in which a value may be a text that is read on its own. What they accept
is nevertheless finite: nothing at all, or `name`, an equals sign and a value, with one comma after it
or none. A second argument of any kind is rejected, because the first has used up the only name there
is.

## Main definitions

* `Token.Denotes`: the name that a token says, as a word or as a string
* `Arguments.Assigns`, `Arguments.Grammar`: the streams that are accepted, and what they say
* `Parser.argumentRound`: one round of the loop

## Main statements

* `ofLiteral_eq_ok`: the strings that say a name
* `argumentRound_none_eq_ok`, `argumentRound_some_eq_ok`: the rounds that succeed
* `argumentRound_goes_on`: a round that goes on was the first
* `arguments_grammar`: exactly the streams of the grammar are accepted
-/

namespace Memberwise

/-- The token says a name, which stands where the token does. A string says the only word of its
value, whatever blanks and comments are around it there. -/
inductive Token.Denotes : Token → Name → Prop
  | word {word : String} {span : Span} (free : isReserved word = false) :
      Denotes ⟨.ident word, span⟩ ⟨word, span⟩
  | string {text value word : String} {span : Span} {ts : List Token}
      (unquoted : Text.StringLiteral.ofText? text = some ⟨value, ""⟩)
      (read : lex value = .ok ts) (single : lexemes ts = [.ident word])
      (free : isReserved word = false) :
      Denotes ⟨.literal text, span⟩ ⟨word, span⟩

namespace Arguments

/-- The stream gives the argument a value. -/
inductive Assigns : List Token → Name → Prop
  | intro {value : Token} {n : Name} (place : Span) (spacing : Spacing) (equals : Span)
      (denotes : value.Denotes n) :
      Assigns [⟨.ident "name", place⟩, ⟨.punct '=' spacing, equals⟩, value] n

/-- The streams that are arguments, and what they say. -/
inductive Grammar : List Token → Arguments → Prop
  | none : Grammar [] {}
  | plain {ts : List Token} {n : Name} (assigns : Assigns ts n) : Grammar ts ⟨some n⟩
  | trailing {ts : List Token} {n : Name} (assigns : Assigns ts n) (spacing : Spacing)
      (comma : Span) : Grammar (ts ++ [⟨.punct ',' spacing, comma⟩]) ⟨some n⟩

end Arguments

namespace Parser

variable {c d : Cursor} {n : Name}

/-! ## Values -/

/-- A whole stream is a name if it is one word that is not reserved. -/
theorem parseAll_name_eq_ok {ts : List Token} {limit : Span} (hwhole : Whole ts) :
    parseAll name ts limit = .ok n ↔
      ∃ word span, isReserved word = false ∧ ts = [⟨.ident word, span⟩] ∧ n = ⟨word, span⟩ := by
  constructor
  · intro h
    obtain ⟨c, hread, -, hend⟩ := parseAll_eq_ok.1 h
    obtain ⟨word, span, rest, hfree, htokens, rfl, rfl⟩ := name_eq_ok.1 hread
    have hts : ts = [⟨.ident word, span⟩] ++ rest := htokens
    have hrest : Whole rest := by
      rw [hts] at hwhole
      exact Whole.of_append (Whole.leaf ⟨.ident word, span⟩ (by simp) rfl) hwhole
    obtain rfl : rest = [] := hrest.eq_nil_of_atEnd hend
    exact ⟨word, span, hfree, hts, rfl⟩
  · rintro ⟨word, span, hfree, rfl, rfl⟩
    exact parseAll_eq_ok.2 ⟨_, name_eq_ok.2 ⟨word, span, [], hfree, rfl, rfl, rfl⟩, rfl, rfl⟩

/-- What has a value as a string begins as one. -/
theorem isString_of_ofText? {text : String} {literal : Text.StringLiteral}
    (h : Text.StringLiteral.ofText? text = some literal) : Text.isString text = true := by
  rw [Text.StringLiteral.ofText?] at h
  rw [Text.isString]
  split at h
  · next rest htext => simp [htext, Text.headIs]
  · next rest htext => simp [htext, Text.headIs]
  · cases h

/-- A stream of one word, placed elsewhere, is that word there. -/
theorem placedIn_word {ts : List Token} {word : String} (h : lexemes ts = [.ident word])
    (span : Span) : ts.map (Token.placedIn span) = [⟨.ident word, span⟩] := by
  obtain ⟨t, rfl, ht⟩ := List.map_eq_singleton_iff.1 h
  simp [Token.placedIn, ht]

/-- A string says a name if its value is read as one word and nothing else. -/
theorem ofLiteral_eq_ok {text : String} {span : Span} :
    Name.ofLiteral text span = .ok n ↔ Token.Denotes ⟨.literal text, span⟩ n := by
  constructor
  · intro h
    rw [Name.ofLiteral] at h
    split at h
    · cases h
    next literal hvalue =>
    obtain ⟨value, suffix⟩ := literal
    split at h
    · cases h
    next ts hlex =>
    -- The word is read before the suffix is looked at.
    cases hread : parseAll name (ts.map (Token.placedIn span)) span with
    | error e => simp [hread, bind, Except.bind] at h
    | ok m =>
      simp only [hread, bind, Except.bind] at h
      split at h
      · next hsuffix =>
        cases h
        obtain rfl : suffix = "" := by simpa using hsuffix
        have hwhole : Whole (ts.map (Token.placedIn span)) := by
          rw [Whole, Lexer.lexemes_placedIn]
          exact lex_whole hlex
        obtain ⟨word, place, hfree, hts, rfl⟩ := (parseAll_name_eq_ok hwhole).1 hread
        have hsingle : lexemes ts = [.ident word] := by
          rw [← Lexer.lexemes_placedIn span, hts]
          rfl
        have hplace : place = span := by
          rw [placedIn_word hsingle] at hts
          simpa using hts.symm
        rw [hplace]
        exact .string hvalue hlex hsingle hfree
      · cases h
  · intro h
    cases h with
    | string hvalue hlex hsingle hfree =>
      have hread : ∀ limit, parseAll name [⟨.ident _, span⟩] limit = .ok ⟨_, span⟩ := fun limit =>
        (parseAll_name_eq_ok (Whole.leaf _ (by simp) rfl)).2 ⟨_, span, hfree, rfl, rfl⟩
      simp [Name.ofLiteral, hvalue, hlex, placedIn_word hsingle, hread, bind, Except.bind]
      rfl

/-- A value is one token. -/
theorem argumentValue_eq_ok :
    argumentValue c = .ok (n, d) ↔
      ∃ t rest, t.Denotes n ∧ c.tokens = t :: rest ∧ d = { c with tokens := rest } := by
  obtain ⟨ts, left, limit⟩ := c
  constructor
  · intro h
    rw [argumentValue, bind_apply, ahead_apply] at h
    simp only at h
    split at h
    · next text span rest =>
      rw [ite_apply] at h
      split at h
      · obtain ⟨_, _, htake, hlift⟩ := bind_eq_ok.1 h
        cases htake
        obtain ⟨hname, rfl⟩ := lift_eq_ok.1 hlift
        exact ⟨_, rest, ofLiteral_eq_ok.1 hname, rfl, rfl⟩
      · obtain ⟨word, place, after, -, htokens, -⟩ := name_eq_ok.1 h
        cases htokens
    · obtain ⟨word, span, rest, hfree, htokens, rfl, rfl⟩ := name_eq_ok.1 h
      exact ⟨_, rest, .word hfree, htokens, rfl⟩
  · rintro ⟨t, rest, ht, rfl, rfl⟩
    cases ht with
    | word hfree => exact name_eq_ok.2 ⟨_, _, rest, hfree, rfl, rfl, rfl⟩
    | @string text value word span us hvalue hlex hsingle hfree =>
      have hstring := isString_of_ofText? hvalue
      have hliteral := ofLiteral_eq_ok.2 (@Token.Denotes.string _ _ _ span _ hvalue hlex hsingle hfree)
      simp only [argumentValue, bind_apply, ahead_apply, ite_apply, hstring, if_true, take_apply,
        hliteral]
      rfl

/-! ## The loop -/

/-- One round of reading arguments: the next of them, unless the stream ends. -/
def argumentRound (found : Option Name) : Parser (Option Name ⊕ Arguments) := do
  if ← ended then return .inr ⟨found⟩
  let argument ← name
  if argument.text = "name" then
    if found.isSome then rejectAt (.repeatedArgument argument.text) argument.span
    let _ ← operator "="
    let value ← argumentValue
    if ← ended then return .inr ⟨some value⟩
    let _ ← operator ","
    return .inl (some value)
  else rejectAt (.unknownArgument argument.text) argument.span

theorem arguments_eq : arguments = loop argumentRound none := rfl

/-- What a round reads after the name of the argument: its value, and a comma unless the stream
ends. -/
def assignment : Parser (Option Name ⊕ Arguments) := do
  let _ ← operator "="
  let value ← argumentValue
  if ← ended then return .inr ⟨some value⟩
  let _ ← operator ","
  return .inl (some value)

theorem ended_apply (c : Cursor) : ended c = .ok (atEnd c.tokens, c) := rfl

/-- Where nothing is left, a round ends the loop with what has been found. -/
theorem argumentRound_of_atEnd {found : Option Name} (h : atEnd c.tokens = true) :
    argumentRound found c = .ok (.inr ⟨found⟩, c) := by
  simp [argumentRound, bind_apply, ended_apply, h]

/-- Otherwise it reads a name, and goes on only if that is the name of the argument, for the first
time. -/
theorem argumentRound_apply {found : Option Name} (h : atEnd c.tokens = false) :
    argumentRound found c =
      match name c with
      | .error e => .error e
      | .ok (argument, d) =>
        if argument.text = "name" then
          if found.isSome then .error (.present (.repeatedArgument argument.text) argument.span)
          else assignment d
        else .error (.present (.unknownArgument argument.text) argument.span) := by
  rw [argumentRound, bind_apply, ended_apply]
  simp only [h, Bool.false_eq_true, if_false, bind_apply]
  cases name c with
  | error e => rfl
  | ok r =>
    obtain ⟨argument, d⟩ := r
    by_cases hname : argument.text = "name"
    · cases found <;> simp [hname, bind_apply, assignment]
    · simp [hname]

theorem assignment_eq_ok {r : (Option Name ⊕ Arguments) × Cursor} :
    assignment c = .ok r ↔ ∃ spacing equals value n rest, Token.Denotes value n
      ∧ c.tokens = ⟨.punct '=' spacing, equals⟩ :: value :: rest
      ∧ (atEnd rest = true ∧ r = (.inr ⟨some n⟩, { c with tokens := rest })
        ∨ ∃ spacing comma after, rest = ⟨.punct ',' spacing, comma⟩ :: after
          ∧ r = (.inl (some n), { c with tokens := after })) := by
  constructor
  · intro h
    obtain ⟨_, d, hequals, h⟩ := bind_eq_ok.1 h
    obtain ⟨spacing, equals, us, htokens, -, rfl⟩ := (operator_single_eq_ok rfl).1 hequals
    obtain ⟨n, e, hvalue, h⟩ := bind_eq_ok.1 h
    obtain ⟨value, rest, hdenotes, rfl, rfl⟩ := argumentValue_eq_ok.1 hvalue
    refine ⟨spacing, equals, value, n, rest, hdenotes, htokens, ?_⟩
    rw [bind_apply, ended_apply] at h
    by_cases hend : atEnd rest = true
    · simp only [hend, if_true] at h
      cases h
      exact .inl ⟨hend, rfl⟩
    · simp only [hend] at h
      obtain ⟨_, f, hcomma, h⟩ := bind_eq_ok.1 h
      obtain ⟨spacing, comma, after, hrest, -, rfl⟩ := (operator_single_eq_ok rfl).1 hcomma
      cases h
      exact .inr ⟨spacing, comma, after, hrest, rfl⟩
  · rintro ⟨spacing, equals, value, n, rest, hdenotes, htokens, hr⟩
    have hequals := (@operator_single_eq_ok "=" c '=' rfl _ _).2
      ⟨spacing, equals, _, htokens, rfl, rfl⟩
    have hvalue := (argumentValue_eq_ok (c := { c with tokens := value :: rest })).2
      ⟨value, rest, hdenotes, rfl, rfl⟩
    rw [assignment, bind_apply, hequals]
    simp only [bind_apply, hvalue, ended_apply]
    obtain ⟨hend, rfl⟩ | ⟨spacing, comma, after, rfl, rfl⟩ := hr
    · simp [hend]
    · have hcomma := (@operator_single_eq_ok ","
        { c with tokens := ⟨.punct ',' spacing, comma⟩ :: after } ',' rfl _ _).2
        ⟨spacing, comma, after, rfl, rfl, rfl⟩
      simp [atEnd, Lexeme.isClosing, bind_apply, hcomma]

/-- After the first argument there is no other. -/
theorem argumentRound_some_eq_ok {r : (Option Name ⊕ Arguments) × Cursor} :
    argumentRound (some n) c = .ok r ↔ atEnd c.tokens = true ∧ r = (.inr ⟨some n⟩, c) := by
  constructor
  · intro h
    cases hend : atEnd c.tokens with
    | true =>
      rw [argumentRound_of_atEnd hend] at h
      cases h
      exact ⟨rfl, rfl⟩
    | false =>
      rw [argumentRound_apply hend] at h
      simp only [Option.isSome_some, if_true] at h
      split at h
      · cases h
      · split at h <;> cases h
  · rintro ⟨hend, rfl⟩
    exact argumentRound_of_atEnd hend

/-- The first argument is `name`, with its value. -/
theorem argumentRound_none_eq_ok {r : (Option Name ⊕ Arguments) × Cursor}
    (hend : atEnd c.tokens = false) :
    argumentRound none c = .ok r ↔ ∃ ts n rest, Arguments.Assigns ts n ∧ c.tokens = ts ++ rest
      ∧ (atEnd rest = true ∧ r = (.inr ⟨some n⟩, { c with tokens := rest })
        ∨ ∃ spacing comma after, rest = ⟨.punct ',' spacing, comma⟩ :: after
          ∧ r = (.inl (some n), { c with tokens := after })) := by
  rw [argumentRound_apply hend]
  constructor
  · intro h
    split at h
    · cases h
    next argument d hread =>
    obtain ⟨word, place, us, -, htokens, rfl, rfl⟩ := name_eq_ok.1 hread
    simp only [Option.isSome_none, Bool.false_eq_true, if_false] at h
    split at h
    · next hname =>
      subst hname
      obtain ⟨spacing, equals, value, n, rest, hdenotes, rfl, hr⟩ := assignment_eq_ok.1 h
      exact ⟨_, n, rest, .intro place spacing equals hdenotes, htokens, hr⟩
    · cases h
  · rintro ⟨ts, n, rest, ⟨place, spacing, equals, hdenotes⟩, htokens, hr⟩
    have hname := name_eq_ok.2 ⟨"name", place, _, by decide, htokens, rfl, rfl⟩
    simp only [hname, if_true, Option.isSome_none, Bool.false_eq_true, if_false]
    exact assignment_eq_ok.2 ⟨spacing, equals, _, n, rest, hdenotes, rfl, hr⟩

/-- A round that goes on has read the first argument, so at most one does. -/
theorem argumentRound_goes_on {found next : Option Name}
    (h : argumentRound found c = .ok (.inl next, d)) : found = none ∧ next.isSome = true := by
  cases found with
  | some n =>
    obtain ⟨-, hr⟩ := argumentRound_some_eq_ok.1 h
    cases hr
  | none =>
    cases hend : atEnd c.tokens with
    | true =>
      rw [argumentRound_of_atEnd hend] at h
      cases h
    | false =>
      obtain ⟨_, n, _, -, -, ⟨-, hr⟩ | ⟨_, _, _, -, hr⟩⟩ := (argumentRound_none_eq_ok hend).1 h
      · cases hr
      · cases hr
        exact ⟨rfl, rfl⟩

/-- Once there is a name, the arguments end. -/
theorem loop_argumentRound_some {a : Arguments} :
    loop argumentRound (some n) c = .ok (a, d) ↔ atEnd c.tokens = true ∧ a = ⟨some n⟩ ∧ d = c := by
  rw [loop_eq]
  constructor
  · intro h
    split at h
    · next hround =>
      obtain ⟨hend, hr⟩ := argumentRound_some_eq_ok.1 hround
      cases hr
      cases h
      exact ⟨hend, rfl, rfl⟩
    · next hround =>
      cases (argumentRound_goes_on hround).1
    · cases h
  · rintro ⟨hend, rfl, rfl⟩
    rw [argumentRound_of_atEnd hend]

/-- What stands where arguments are read up to the end. -/
theorem arguments_run {a : Arguments} (hstart : atEnd c.tokens = false) :
    arguments c = .ok (a, d) ↔ ∃ ts n rest, Arguments.Assigns ts n ∧ a = ⟨some n⟩
      ∧ atEnd rest = true ∧ d = { c with tokens := rest }
      ∧ (c.tokens = ts ++ rest
        ∨ ∃ spacing comma, c.tokens = ts ++ ⟨.punct ',' spacing, comma⟩ :: rest) := by
  rw [arguments_eq, loop_eq]
  constructor
  · intro h
    split at h
    · next hround =>
      cases h
      obtain ⟨ts, n, rest, hassigns, htokens, ⟨hrest, hr⟩ | ⟨_, _, _, -, hr⟩⟩ :=
        (argumentRound_none_eq_ok hstart).1 hround
      · cases hr
        exact ⟨ts, n, rest, hassigns, rfl, hrest, rfl, .inl htokens⟩
      · cases hr
    · next hround =>
      obtain ⟨ts, n, _, hassigns, htokens, ⟨-, hr⟩ | ⟨spacing, comma, rest, rfl, hr⟩⟩ :=
        (argumentRound_none_eq_ok hstart).1 hround
      · cases hr
      · cases hr
        split at h
        · obtain ⟨hrest, rfl, rfl⟩ := loop_argumentRound_some.1 h
          exact ⟨ts, n, rest, hassigns, rfl, hrest, rfl, .inr ⟨spacing, comma, htokens⟩⟩
        · cases h
    · cases h
  · rintro ⟨ts, n, rest, hassigns, rfl, hrest, rfl, htokens | ⟨spacing, comma, htokens⟩⟩
    · rw [(argumentRound_none_eq_ok hstart).2 ⟨ts, n, rest, hassigns, htokens, .inl ⟨hrest, rfl⟩⟩]
    · rw [(argumentRound_none_eq_ok hstart).2
        ⟨ts, n, _, hassigns, htokens, .inr ⟨spacing, comma, rest, rfl, rfl⟩⟩]
      have hless : rest.length < c.tokens.length := by
        rw [htokens, List.length_append, List.length_cons]
        omega
      simp only [hless, if_true]
      exact loop_argumentRound_some.2 ⟨hrest, rfl, rfl⟩

end Parser

/-! ## Whole streams -/

theorem Arguments.Assigns.begins {ts : List Token} {n : Name} (h : Assigns ts n) (rest : List Token) :
    atEnd (ts ++ rest) = false := by
  cases h
  rfl

theorem Arguments.Assigns.whole {ts : List Token} {n : Name} (h : Assigns ts n) : Whole ts := by
  cases h with
  | intro place spacing equals hvalue => cases hvalue <;> rfl

/-- The streams of the grammar are accepted, and no other. -/
theorem parseAll_arguments_eq_ok {ts : List Token} {limit : Span} {a : Arguments}
    (hwhole : Whole ts) : parseAll Parser.arguments ts limit = .ok a ↔ Arguments.Grammar ts a := by
  rw [Parser.parseAll_eq_ok]
  constructor
  · rintro ⟨c, hread, -, hend⟩
    cases hstart : atEnd ts with
    | true =>
      obtain rfl := hwhole.eq_nil_of_atEnd hstart
      cases hread
      exact .none
    | false =>
      obtain ⟨given, n, rest, hassigns, rfl, hrest, -, hts | ⟨spacing, comma, hts⟩⟩ :=
        (Parser.arguments_run hstart).1 hread
      · have hts : ts = given ++ rest := hts
        rw [hts] at hwhole ⊢
        obtain rfl := (Whole.of_append hassigns.whole hwhole).eq_nil_of_atEnd hrest
        rw [List.append_nil]
        exact .plain hassigns
      · have hts : ts = given ++ [⟨.punct ',' spacing, comma⟩] ++ rest := by
          rw [List.append_assoc]
          exact hts
        rw [hts] at hwhole ⊢
        have hfront : Whole (given ++ [⟨.punct ',' spacing, comma⟩]) :=
          hassigns.whole.append (Whole.leaf _ (by simp) rfl)
        obtain rfl := (Whole.of_append hfront hwhole).eq_nil_of_atEnd hrest
        rw [List.append_nil]
        exact .trailing hassigns spacing comma
  · intro h
    cases h with
    | none => exact ⟨_, rfl, rfl, rfl⟩
    | @plain ts n hassigns =>
      have hstart : atEnd ts = false := by simpa using hassigns.begins []
      exact ⟨_, (Parser.arguments_run hstart).2
        ⟨ts, n, [], hassigns, rfl, rfl, rfl, .inl (List.append_nil ts).symm⟩, rfl, rfl⟩
    | @trailing ts n hassigns spacing comma =>
      exact ⟨_, (Parser.arguments_run (hassigns.begins _)).2
        ⟨ts, n, [], hassigns, rfl, rfl, rfl, .inr ⟨spacing, comma, rfl⟩⟩, rfl, rfl⟩

open Arguments in
/-- Exactly the streams of the grammar are arguments. The function is called `new` if there are
none, and otherwise as the value says. The arguments are a loop that starts without a name, and a
round goes on only from there and to a name: no more than one does. -/
theorem arguments_grammar {ts : List Token} (hwhole : Whole ts) (limit : Span) :
    (∀ a, parseAll Parser.arguments ts limit = .ok a ↔ Grammar ts a)
      ∧ (∀ a, parseAll Parser.arguments ts limit = .ok a →
          ts = [] ∧ a.functionName = ⟨"new", .outside⟩
            ∨ ∃ given, Assigns given a.functionName
              ∧ (ts = given ∨ ∃ spacing comma, ts = given ++ [⟨.punct ',' spacing, comma⟩]))
      ∧ Parser.arguments = Parser.loop Parser.argumentRound none
      ∧ ∀ found next c d, Parser.argumentRound found c = .ok (.inl next, d) →
          found = none ∧ next.isSome = true := by
  refine ⟨fun a => parseAll_arguments_eq_ok hwhole, ?_, Parser.arguments_eq,
    fun _ _ _ _ => Parser.argumentRound_goes_on⟩
  intro a h
  cases (parseAll_arguments_eq_ok hwhole).1 h with
  | none => exact .inl ⟨rfl, rfl⟩
  | plain hassigns => exact .inr ⟨ts, hassigns, .inl rfl⟩
  | trailing hassigns spacing comma => exact .inr ⟨_, hassigns, .inr ⟨spacing, comma, rfl⟩⟩

/-- A name in quotes, with blanks and a comment around it there, and a comma after it. -/
theorem arguments_grammar_quoted :
    let ts : List Token := [⟨.ident "name", .outside⟩, ⟨.punct '=' .alone, .outside⟩,
      ⟨.literal "\" build /* it */ \"", .outside⟩, ⟨.punct ',' .alone, .outside⟩]
    Whole ts ∧ readArguments ts = .ok ⟨some ⟨"build", .outside⟩⟩ := by
  intro ts
  have hwhole : Whole ts := rfl
  have hread : lex " build /* it */ " = .ok [⟨.ident "build", ⟨⟨1, 1⟩, ⟨1, 6⟩⟩⟩] := rfl
  have hdenotes : Token.Denotes ⟨.literal "\" build /* it */ \"", .outside⟩ ⟨"build", .outside⟩ :=
    .string (by decide +kernel) hread rfl (by decide)
  have hgrammar : Arguments.Grammar ts ⟨some ⟨"build", .outside⟩⟩ :=
    .trailing (.intro .outside .alone .outside hdenotes) .alone .outside
  exact ⟨hwhole, ((arguments_grammar hwhole .outside).1 _).2 hgrammar⟩

end Memberwise
