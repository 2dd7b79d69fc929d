import Memberwise.Text.Literal
import Memberwise.Token.Tree

/-!
# Terminals

A terminal is a class of token, or of a few tokens that belong together. The grammar looks ahead for
terminals, and messages name them.

## Main definitions

* `Terminal.starts`: the terminal stands at the start of a stream
* `Terminal.shown`: the name of the terminal in messages
* `isReserved`: the words that are no identifiers
-/

namespace Memberwise

/-- The words that cannot name anything. -/
def reservedWords : List String :=
  ["_", "abstract", "as", "async", "await", "become", "box", "break", "const", "continue", "crate",
   "do", "dyn", "else", "enum", "extern", "false", "final", "fn", "for", "if", "impl", "in", "let",
   "loop", "macro", "match", "mod", "move", "mut", "override", "priv", "pub", "ref", "return",
   "Self", "self", "static", "struct", "super", "trait", "true", "try", "type", "typeof", "unsafe",
   "unsized", "use", "virtual", "where", "while", "yield"]

/-- The word cannot name anything. -/
def isReserved (text : String) : Bool := reservedWords.contains text

/-- A class of token that the grammar looks for. -/
inductive Terminal where
  /-- Punctuation characters that are joint to each other. -/
  | operator (text : String)
  /-- One particular word. -/
  | keyword (text : String)
  /-- A word that is not reserved. -/
  | identifier
  /-- Any word. -/
  | word
  | lifetime
  /-- A literal, a truth value, or a number after a minus sign. -/
  | literal
  | string
  /-- A number without point and exponent, perhaps after a minus sign. -/
  | integer
  /-- A number with a point or an exponent, perhaps after a minus sign. -/
  | float
  | group (delimiter : Delimiter)
  deriving DecidableEq, Repr

/-- The stream starts with these punctuation characters, all but the last joint. -/
def operatorStarts : List Char → List Token → Bool
  | [c], ⟨.punct d _, _⟩ :: _ => c == d
  | c :: cs, ⟨.punct d .joint, _⟩ :: rest => c == d && operatorStarts cs rest
  | _, _ => false

/-- The literal is a number. -/
def isNumber (text : String) : Bool := Text.headIs Char.isDigit text.toList

/-- The literal is a number with a point or an exponent. -/
def isFloat (text : String) : Bool := (Text.afterFloat? text.toList).isSome

namespace Terminal

/-- The terminal stands at the start of the stream. -/
def starts : Terminal → List Token → Bool
  | operator text, ts => operatorStarts text.toList ts
  | keyword text, ⟨.ident name, _⟩ :: _ => name == text
  | identifier, ⟨.ident name, _⟩ :: _ => !isReserved name
  | word, ⟨.ident _, _⟩ :: _ => true
  | lifetime, ⟨.punct '\x27' .joint, _⟩ :: ⟨.ident _, _⟩ :: _ => true
  | literal, ⟨.literal _, _⟩ :: _ => true
  | literal, ⟨.ident name, _⟩ :: _ => name == "true" || name == "false"
  | literal, ⟨.punct '-' _, _⟩ :: ⟨.literal text, _⟩ :: _ => isNumber text
  | string, ⟨.literal text, _⟩ :: _ => Text.isString text
  | integer, ⟨.literal text, _⟩ :: _ => isNumber text && !isFloat text
  | integer, ⟨.punct '-' _, _⟩ :: ⟨.literal text, _⟩ :: _ => isNumber text && !isFloat text
  | float, ⟨.literal text, _⟩ :: _ => isFloat text
  | float, ⟨.punct '-' _, _⟩ :: ⟨.literal text, _⟩ :: _ => isFloat text
  | group delimiter, ⟨.opening opened, _⟩ :: _ => delimiter == opened
  | _, _ => false

/-- The name of the terminal in messages. -/
def shown : Terminal → String
  | operator text => "`" ++ text ++ "`"
  | keyword text => "`" ++ text ++ "`"
  | identifier => "identifier"
  | word => "ident"
  | lifetime => "lifetime"
  | literal => "literal"
  | string => "string literal"
  | integer => "integer literal"
  | float => "floating point literal"
  | group .parenthesis => "parentheses"
  | group .bracket => "square brackets"
  | group .brace => "curly braces"

end Terminal

/-! ## Looking ahead -/

/-- The stream starts with the operator, which may be the beginning of a longer one. -/
def isOp (text : String) (ts : List Token) : Bool := (Terminal.operator text).starts ts

/-- The stream starts with an opening angle bracket, and not with `<=` or `<<=`. -/
def isAngle (ts : List Token) : Bool := isOp "<" ts && !isOp "<=" ts && !isOp "<<=" ts

/-- The stream starts with the word. -/
def isWord (text : String) (ts : List Token) : Bool := (Terminal.keyword text).starts ts

/-- The stream starts with an identifier. -/
def isIdent (ts : List Token) : Bool := Terminal.identifier.starts ts

/-- The stream starts with a lifetime. -/
def isLifetime (ts : List Token) : Bool := Terminal.lifetime.starts ts

/-- The stream starts with a literal. -/
def isLiteral (ts : List Token) : Bool := Terminal.literal.starts ts

/-- The stream starts with a group in parentheses. -/
def isParen (ts : List Token) : Bool := (Terminal.group .parenthesis).starts ts

/-- The stream starts with a group in square brackets. -/
def isBracket (ts : List Token) : Bool := (Terminal.group .bracket).starts ts

/-- The stream starts with a group in curly braces. -/
def isBrace (ts : List Token) : Bool := (Terminal.group .brace).starts ts

end Memberwise
