import Memberwise.Parser.Terminal

/-!
# Diagnostics

Why a stream is rejected, and where. The wording of every cause is in one function.

## Main definitions

* `Cause`, `Cause.sentence`
* `Diagnostic`, `Diagnostic.message`
-/

namespace Memberwise

/-- Why a stream is rejected. -/
inductive Cause where
  /-- None of the terminals that may come next is there. -/
  | expected (choices : List Terminal)
  /-- A reserved word stands where a name has to be. -/
  | reserved (word : String)
  /-- Something is left where a group, or the whole stream, has to end. -/
  | leftover (inside : Option Delimiter)
  | delimiter
  | pathSegment
  | nestedAttribute
  | whereParameters
  | misplacedCapture
  | misplacedConditionalConst
  | misplacedConst
  | binderWithModifier
  | objectWithoutTrait
  | implWithoutTrait
  | expression
  | chainedComparison
  | castFollowedBy (what : String)
  | rangeAttributes
  | commaOrSemicolon
  | member
  | missingSemicolon
  | loopOrBlock
  | parenthesesRequired
  | indexSuffix
  | indexTooLarge
  | indexSign
  | secondReceiver
  | lateReceiver
  | rangeEnd
  | openRangeInSlice
  | rename
  /-- A type that implements nothing has the mark of a trait that is not implemented. -/
  | inherentNegation
  /-- The text of a string is not made of tokens. -/
  | unreadableText
  /-- A string has a suffix where it must not. -/
  | stringSuffix (suffix : String)
  /-- An argument that has no meaning here. -/
  | unknownArgument (name : String)
  /-- An argument is given twice. -/
  | repeatedArgument (name : String)
  /-- The helper attribute is given twice. -/
  | repeatedHelper (helper : String)
  /-- The helper attribute has a value and not a list. -/
  | helperValue (helper : String)
  /-- The declaration is of a kind that has no memberwise initializer. -/
  | unsupportedKind
  deriving DecidableEq, Repr

/-- What is expected, in words. -/
def expectation : List Terminal → String
  | [] => "unexpected token"
  | [one] => "expected " ++ one.shown
  | [first, second] => "expected " ++ first.shown ++ " or " ++ second.shown
  | many => "expected one of: " ++ String.intercalate ", " (many.map Terminal.shown)

/-- The cause in words. -/
def Cause.sentence : Cause → String
  | expected choices => expectation choices
  | reserved word => "expected identifier, found keyword `" ++ word ++ "`"
  | leftover none => "unexpected token"
  | leftover (some inside) => "unexpected token, expected `" ++ inside.closingText ++ "`"
  | delimiter => "expected delimiter"
  | pathSegment => "expected path segment after `::`"
  | nestedAttribute => "unexpected attribute inside of attribute"
  | whereParameters => "generic parameters on `where` clauses are reserved for future use"
  | misplacedCapture => "`use<...>` precise capturing syntax is not allowed here"
  | misplacedConditionalConst => "`[const]` is not allowed here"
  | misplacedConst => "`const` is not allowed here"
  | binderWithModifier => "`for<...>` binder not allowed with `?` trait polarity modifier"
  | objectWithoutTrait => "at least one trait is required for an object type"
  | implWithoutTrait => "at least one trait must be specified"
  | expression => "expected an expression"
  | chainedComparison => "comparison operators cannot be chained"
  | castFollowedBy what => "casts cannot be followed by " ++ what
  | rangeAttributes => "attributes are not allowed on range expressions starting with `..`"
  | commaOrSemicolon => "expected `,` or `;`"
  | member => "expected identifier or integer"
  | missingSemicolon => "unexpected token, expected `;`"
  | loopOrBlock => "expected loop or block expression"
  | parenthesesRequired => "parentheses required"
  | indexSuffix => "expected unsuffixed integer"
  | indexTooLarge => "number too large to fit in target type"
  | indexSign => "invalid digit found in string"
  | secondReceiver => "unexpected second method receiver"
  | lateReceiver => "unexpected method receiver"
  | rangeEnd => "expected range upper bound"
  | openRangeInSlice => "range pattern is not allowed unparenthesized inside slice pattern"
  | rename => "expected identifier or underscore"
  | inherentNegation => "inherent impls cannot be negative"
  | unreadableText => "cannot parse string into token stream"
  | stringSuffix suffix => "unexpected suffix `" ++ suffix ++ "` on string literal"
  | unknownArgument name => "Unknown attribute argument: " ++ name
  | repeatedArgument name => "Duplicate attribute argument: " ++ name
  | repeatedHelper helper => "Duplicate #[" ++ helper ++ "] attribute"
  | helperValue helper => "expected parentheses: #[" ++ helper ++ "(...)]"
  | unsupportedKind => "StructInit can only be applied to a struct with named fields"

/-- A cause at a place. `exhausted` tells that the stream had ended there. -/
structure Diagnostic where
  cause : Cause
  exhausted : Bool
  span : Span
  deriving DecidableEq, Repr

namespace Diagnostic

/-- A rejection of something that is there. -/
def present (cause : Cause) (span : Span) : Diagnostic := ⟨cause, false, span⟩

/-- The diagnostic in words. Where the stream had ended, the message begins with that. -/
def message (d : Diagnostic) : String :=
  match d.exhausted, d.cause with
  | true, .expected [] => "unexpected end of input"
  | true, cause => "unexpected end of input, " ++ cause.sentence
  | false, cause => cause.sentence

end Diagnostic

end Memberwise
