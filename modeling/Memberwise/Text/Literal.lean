import Memberwise.Text.Quoted
import Memberwise.Unicode.Identifier

/-!
# Literals

Where a literal at the start of a text ends: strings, byte strings, C strings, bytes, characters and
numbers, each with a suffix. A reader gives what follows the literal.

## Main definitions

* `afterLiteral?`: the literal of any kind
* `StringLiteral`, `StringLiteral.ofText?`: the value and suffix of a string
-/

namespace Memberwise.Text

open Unicode

/-- What follows an identifier. -/
def afterIdentifier? : List Char → Option (List Char)
  | c :: rest => if isIdentifierStart c then some (rest.dropWhile isIdentifierContinue) else none
  | [] => none

/-- A suffix is an identifier directly after the literal. -/
def afterSuffix (cs : List Char) : List Char := (afterIdentifier? cs).getD cs

/-! ## Text -/

/-- A literal between quotes. -/
def afterQuoted? (dialect : Dialect) (cs : List Char) : Option (List Char) := do
  let rest ← after? "\"" cs
  let (_, rest) ← body? dialect rest
  pure (afterSuffix rest)

/-- A literal without escapes, after its `r`. -/
def afterRaw? (dialect : Dialect) (cs : List Char) : Option (List Char) := do
  let (hashes, rest) ← rawOpening? cs
  let (_, rest) ← rawBody? dialect hashes rest
  pure (afterSuffix rest)

/-- A string, byte string or C string. -/
def afterText? (cs : List Char) : Option (List Char) :=
  (afterQuoted? .string cs)
    <|> (after? "r" cs >>= afterRaw? .string)
    <|> (after? "b" cs >>= afterQuoted? .byteString)
    <|> (after? "br" cs >>= afterRaw? .byteString)
    <|> (after? "c" cs >>= afterQuoted? .cString)
    <|> (after? "cr" cs >>= afterRaw? .cString)

/-! ## Characters -/

/-- One character or escape between apostrophes. The character may be an apostrophe itself. -/
def afterQuotedChar? (dialect : Dialect) : List Char → Option (List Char)
  | [] => none
  | c :: rest => do
    let rest ←
      if c = '\x5c' then (escape? dialect rest).map (·.2)
      else if dialect.allowsPlain c then some rest else none
    let rest ← after? "'" rest
    pure (afterSuffix rest)

/-- A character or a byte. -/
def afterChar? (cs : List Char) : Option (List Char) :=
  (after? "b'" cs >>= afterQuotedChar? .byteString)
    <|> (after? "'" cs >>= afterQuotedChar? .string)

/-! ## Numbers -/

/-- After a number comes a suffix or nothing that could belong to a word. -/
def afterNumber? (cs : List Char) : Option (List Char) :=
  let rest := afterSuffix cs
  if headIs isIdentifierContinue rest then none else some rest

/-- The exponent, after its `e`. Without a digit the number ends at `fallback`, before the `e`, and
is no float at all if that is nothing. -/
def exponent? (fallback : Option (List Char)) (signed valued : Bool) :
    List Char → Option (List Char)
  | [] => if valued then some [] else fallback
  | c :: rest =>
    if c = '+' ∨ c = '-' then
      if valued then some (c :: rest)
      else if signed then fallback
      else exponent? fallback true valued rest
    else if c.isDigit then exponent? fallback signed true rest
    else if c = '_' then exponent? fallback signed valued rest
    else if valued then some (c :: rest)
    else fallback

/-- The digits of a float, which has a point or an exponent. A point directly before a second point
or an identifier does not belong to a number. -/
def mantissa? (pointed : Bool) : List Char → Option (List Char)
  | [] => if pointed then some [] else none
  | c :: rest =>
    if c.isDigit ∨ c = '_' then mantissa? pointed rest
    else if c = '.' then
      if pointed then some (c :: rest)
      else if headIs (fun d => d == '.' || isIdentifierStart d) rest then none
      else mantissa? true rest
    else if c = 'e' ∨ c = 'E' then
      exponent? (if pointed then some (c :: rest) else none) false false rest
    else if pointed then some (c :: rest)
    else none

/-- A number with a point or an exponent. -/
def afterFloat? (cs : List Char) : Option (List Char) :=
  if headIs Char.isDigit cs then mantissa? false cs >>= afterNumber? else none

/-- The digits of an integer. A decimal digit that is too large for the base is an error, and a
letter that is too large ends the number. -/
def digits? (base : Nat) (found : Bool) : List Char → Option (List Char)
  | [] => if found then some [] else none
  | c :: rest =>
    if c = '_' then
      if ¬ found ∧ base = 10 then none else digits? base found rest
    else
      match digitValue? c with
      | some digit =>
        if digit < base then digits? base true rest
        else if c.isDigit then none
        else if found then some (c :: rest) else none
      | none => if found then some (c :: rest) else none

/-- The base of an integer and its digits. -/
def baseOf (cs : List Char) : Nat × List Char :=
  if startsWith "0x" cs then (16, cs.drop 2)
  else if startsWith "0o" cs then (8, cs.drop 2)
  else if startsWith "0b" cs then (2, cs.drop 2)
  else (10, cs)

/-- A number without a point or exponent. -/
def afterInteger? (cs : List Char) : Option (List Char) :=
  let (base, digits) := baseOf cs
  digits? base false digits >>= afterNumber?

/-- A literal of any kind. -/
def afterLiteral? (cs : List Char) : Option (List Char) :=
  afterText? cs <|> afterChar? cs <|> afterFloat? cs <|> afterInteger? cs

/-! ## Strings -/

/-- The value and the suffix of a string. -/
structure StringLiteral where
  value : String
  suffix : String
  deriving DecidableEq, Repr

/-- The literal is a plain or raw string, and not a byte or C string. -/
def isString (text : String) : Bool :=
  headIs (fun c => c == '\x22' || c == 'r') text.toList

/-- Reads the text of a string. -/
def StringLiteral.ofText? (text : String) : Option StringLiteral := do
  let (value, suffix) ←
    match text.toList with
    | '\x22' :: rest => body? .string rest
    | 'r' :: rest => rawOpening? rest >>= fun (hashes, rest) => rawBody? .string hashes rest
    | _ => none
  pure ⟨String.ofList value, String.ofList suffix⟩

end Memberwise.Text
