import Memberwise.Grammar.Phrases
import Memberwise.Initializer

/-!
# Expansions

What an attribute on an item, or a derive of it, expands to. The attribute gives the item back and
adds to it; a derive only adds. What is added is the implementation with the initializer, or an
error to be reported at a place in the source.

## Main definitions

* `Expansion`, `Expansion.tokens`
* `expandAttribute`, `expandDerive`
* `reportedErrors`: the errors in a stream
-/

namespace Memberwise

open Generated

/-- The tokens that report an error, all at the place of the error. -/
def Diagnostic.tokens (d : Diagnostic) : List Token :=
  let report := operator "::" ++ word "core" ++ operator "::" ++ word "compile_error"
    ++ operator "!" ++ group .brace [⟨.literal (Text.quote d.message), .outside⟩]
  report.map fun t => { t with span := d.span }

/-- An item that is given back, if any, and what is added to it. -/
structure Expansion where
  item : Option Item
  outcome : Except Diagnostic Initializer

namespace Expansion

/-- The tokens that are added. -/
def added (e : Expansion) : List Token :=
  match e.outcome with
  | .ok initializer => initializer.implTokens
  | .error diagnostic => diagnostic.tokens

/-- The tokens that are given back. -/
def kept (e : Expansion) : List Token := (e.item.map Item.tokens).getD []

/-- All tokens of the expansion. -/
def tokens (e : Expansion) : List Token := e.kept ++ e.added

end Expansion

/-- Reads a whole stream as an item. -/
def readItem (ts : List Token) : Except Diagnostic Item :=
  parseAll (Parser.item phrases) ts .outside

/-- Reads a whole stream as a struct, an enum or a union. -/
def readDefinition (ts : List Token) : Except Diagnostic Definition :=
  parseAll (Parser.derivedDefinition phrases) ts .outside

/-- Reads a whole stream as arguments. -/
def readArguments (ts : List Token) : Except Diagnostic Arguments :=
  parseAll Parser.arguments ts .outside

/-- The initializer of a declaration, or an error at what tells its kind. -/
def Declaration.initializer (d : Declaration) (arguments : Arguments) :
    Except Diagnostic Initializer :=
  (Initializer.generate d arguments).mapError (·.diagnostic d.keywordSpan)

/-- What an attribute with arguments expands to. An item that cannot be read is not given back. -/
def expandAttribute (arguments item : List Token) : Expansion :=
  match readItem item with
  | .error d => ⟨none, .error d⟩
  | .ok item =>
    ⟨some item, do item.declaration.initializer (← readArguments arguments)⟩

/-- What a derive expands to. The arguments are in the helper attribute. -/
def expandDerive (item : List Token) : Expansion where
  item := none
  outcome := do
    let d ← readDefinition item
    d.declaration.initializer (← Arguments.ofAttributes d.attributes)

/-! ## Reported errors -/

/-- The report of an error at the start of a stream: its message, its place and the rest. -/
def report? (ts : List Token) : Option (String × Span × List Token) := do
  let shape := lexemes (operator "::" ++ word "core" ++ operator "::" ++ word "compile_error"
    ++ operator "!")
  let call := ts.take shape.length
  let (group, rest) := splitTree (ts.drop shape.length)
  match lexemes call == shape, group with
  | true, [⟨.opening .brace, _⟩, ⟨.literal text, _⟩, close] =>
    let literal ← if Text.isString text then Text.StringLiteral.ofText? text else none
    some (literal.value, (spanOf call .outside).join close.span, rest)
  | _, _ => none

/-- The errors that a stream reports, in order, with their places. Groups are not looked into. -/
def reportedErrors (ts : List Token) : List (String × Span) :=
  iterate (fun state => state.2.length)
    (fun (found, ts) =>
      match report? ts with
      | some (message, span, rest) => .inl ((message, span) :: found, rest)
      | none => if ts.isEmpty then .inr found.reverse else .inl (found, afterTree ts))
    (fun (found, _) => found.reverse) (([] : List (String × Span)), ts)

end Memberwise
