import Memberwise.Attribute
import Memberwise.Token.Lexer

/-!
# Arguments

The only argument is the name of the generated function: `name = build` or `name = "build"`. The
arguments stand in the attribute that asks for an initializer, or in a helper attribute of the item.

## Main definitions

* `Arguments`, `Arguments.functionName`
* `Parser.arguments`
* `Arguments.ofAttributes`: the arguments in the helper attribute, if there is one
-/

namespace Memberwise

/-- How an initializer is to be generated. -/
structure Arguments where
  name : Option Name := none
  deriving DecidableEq, Repr

/-- The name of the generated function. -/
def Arguments.functionName (a : Arguments) : Name := a.name.getD ⟨"new", .outside⟩

/-- The name that the text of a string consists of. It stands where the string does. -/
def Name.ofLiteral (text : String) (span : Span) : Except Diagnostic Name := do
  match Text.StringLiteral.ofText? text with
  | none => throw (.present (.expected [.string]) span)
  | some literal =>
    match lex literal.value with
    | .error position => throw (.present .unreadableText (.empty position))
    | .ok ts =>
      let name ← parseAll Parser.name (ts.map (Token.placedIn span)) span
      if literal.suffix.isEmpty then return name
      else throw (.present (.stringSuffix literal.suffix) span)

namespace Parser

/-- Reads the name of the function, which may be in quotes. -/
def argumentValue : Parser Name := do
  match ← ahead with
  | ⟨.literal text, span⟩ :: _ =>
    if Text.isString text then
      let _ ← take 1
      return ← Name.ofLiteral text span
    else name
  | _ => name

/-- Reads arguments up to the end. A comma may follow the last. -/
def arguments : Parser Arguments :=
  loop (fun (found : Option Name) => do
    if ← ended then return .inr ⟨found⟩
    let argument ← name
    if argument.text = "name" then
      if found.isSome then rejectAt (.repeatedArgument argument.text) argument.span
      let _ ← operator "="
      let value ← argumentValue
      if ← ended then return .inr ⟨some value⟩
      let _ ← operator ","
      return .inl (some value)
    else rejectAt (.unknownArgument argument.text) argument.span) none

end Parser

/-! ## The helper attribute -/

namespace Arguments

/-- The name of the helper attribute. -/
def helper : String := "init"

/-- The arguments in a helper attribute, which is none if it has no brackets. -/
def ofAttribute (a : Attribute) : Except Diagnostic Arguments :=
  match a.content with
  | .bare => return {}
  | .arguments _ content closing => parseAll Parser.arguments content closing.span
  | .value equals _ => throw (.present (.helperValue helper) equals)

/-- The arguments in the only helper attribute of the rest of a list, if there is one. `found` is
what one before it says. -/
def ofRest (found : Option Arguments) : List Attribute → Except Diagnostic Arguments
  | [] => return found.getD {}
  | a :: rest =>
    if a.isNamed helper then
      match found with
      | some _ => throw (.present (.repeatedHelper helper) a.span)
      | none => do ofRest (some (← ofAttribute a)) rest
    else ofRest found rest

/-- The arguments in the helper attribute, if there is one. -/
def ofAttributes (attributes : List Attribute) : Except Diagnostic Arguments :=
  ofRest none attributes

end Arguments

end Memberwise
