import Memberwise.Listed

/-!
# Phrases

The grammar inside a declaration — types, bounds, expressions, patterns, statements and nested items
— is only ever read and written again. A phrase is therefore kept as its tokens, spaced as they are
written again, and a shape, which holds what the grammar around it has to know.

Phrases contain each other. Each is read by a plain function of a reader for all of them, and the
reader is tied together at the end.

## Main definitions

* `Precedence`, `Shape`, `Fragment`
* `Phrase`, `Phrases`
-/

namespace Memberwise

/-- How tightly the operators of expressions bind, from the loosest. -/
inductive Precedence where
  | lowest
  | assign
  | range
  | or
  | and
  | compare
  | bitOr
  | bitXor
  | bitAnd
  | shift
  | sum
  | product
  | cast
  deriving DecidableEq, Repr

/-- A number for each level, larger for operators that bind more tightly. -/
def Precedence.rank : Precedence → Nat
  | lowest => 0
  | assign => 1
  | range => 2
  | or => 3
  | and => 4
  | compare => 5
  | bitOr => 6
  | bitXor => 7
  | bitAnd => 8
  | shift => 9
  | sum => 10
  | product => 11
  | cast => 12

/-- What the grammar around a phrase has to know of it. -/
inductive Shape where
  | plain
  /-- A type that is one name, perhaps with arguments in angle brackets. -/
  | name
  /-- A type that is any other path, without a qualified self type. -/
  | path
  /-- A type in parentheses. -/
  | parenthesised
  /-- A type that is a single bound, whose tokens are `core` without parentheses of its own. -/
  | soleBound (core : List Token)
  /-- A bound that is a trait. -/
  | traitBound
  /-- A bound that is a lifetime, or captures parameters. It ends at `last`. -/
  | otherBound (last : Span)
  /-- An expression that is a range. -/
  | range
  /-- An expression whose outermost operator compares. -/
  | comparison
  /-- An expression that ends a statement by itself. -/
  | blockLike
  /-- A macro call with curly braces. -/
  | braceMacro
  /-- A macro call with other brackets. -/
  | otherMacro
  /-- An expression or a pattern that keeps the spacing of its source. -/
  | verbatim
  /-- The pattern `..`. -/
  | rest
  /-- A pattern that is a range open on one side, with its operator. -/
  | openRange (operator : Span)
  deriving DecidableEq, Repr

/-- The tokens of a phrase, as they are written again, and its shape. -/
structure Fragment where
  tokens : List Token
  shape : Shape := .plain
  deriving DecidableEq, Repr

/-- The phrases that contain each other. -/
inductive Phrase where
  /-- A type, which may be a sum of bounds if `plus` allows it. -/
  | type (plus : Bool)
  /-- A bound, which may capture parameters or be `const` if that is allowed. -/
  | bound (capture const : Bool)
  /-- An expression, which may begin a struct literal if `braces` allows it. -/
  | expression (braces : Bool)
  /-- An operand with the operators in front of it. -/
  | operand (braces : Bool)
  /-- The operators after an operand of the given shape, down to the precedence `base`. -/
  | operators (left : Shape) (base : Precedence) (braces : Bool)
  /-- A pattern without alternatives. -/
  | pattern
  /-- A pattern, perhaps with alternatives. -/
  | alternatives
  /-- An expression that ends early if it can stand as a statement by itself. -/
  | statementExpression
  /-- The statements of a block. -/
  | statements
  | item
  /-- The fields of a struct, with their braces. -/
  | namedFields
  /-- What is imported. A path in it may start with `::` if `rooted` says so. -/
  | useTree (rooted : Bool)
  deriving Repr

/-- A reader for every phrase. -/
abbrev Phrases := Phrase → Parser Fragment

/-- Reads a phrase for its tokens only. -/
def Phrases.tokens (ph : Phrases) (phrase : Phrase) : Parser (List Token) := do
  return (← ph phrase).tokens

end Memberwise
