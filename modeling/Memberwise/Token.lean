import Memberwise.Source

/-!
# Tokens

A token stream is a flat list in which groups are marked by their opening and closing tokens. An
operator of several characters is several tokens, all but the last of them joint to the next. A
lifetime is an apostrophe joint to an identifier.

## Main definitions

* `Lexeme`: what a token is, without its place in the text
* `Token`: a lexeme and its span
* `Name`: an identifier that names something
* `Generated.operator`, `Generated.word`, `Generated.group`: tokens of generated code
-/

namespace Memberwise

/-- The three kinds of brackets. -/
inductive Delimiter where
  | parenthesis
  | bracket
  | brace
  deriving DecidableEq, Repr

/-- Whether a punctuation character is followed directly by another. -/
inductive Spacing where
  | alone
  | joint
  deriving DecidableEq, Repr

/-- What a token is. An identifier keeps the `r#` of its raw form. -/
inductive Lexeme where
  | ident (text : String)
  | punct (char : Char) (spacing : Spacing)
  | literal (text : String)
  | opening (delimiter : Delimiter)
  | closing (delimiter : Delimiter)
  deriving DecidableEq, Repr

/-- A lexeme at its place in the text. -/
structure Token where
  lexeme : Lexeme
  span : Span
  deriving DecidableEq, Repr

namespace Delimiter

/-- How a group begins. -/
def openingText : Delimiter → String
  | parenthesis => "("
  | bracket => "["
  | brace => "\x7b"

/-- How a group ends. -/
def closingText : Delimiter → String
  | parenthesis => ")"
  | bracket => "]"
  | brace => "\x7d"

end Delimiter

namespace Lexeme

/-- The characters of the token, which do not show its spacing. -/
def text : Lexeme → String
  | ident text => text
  | punct char _ => char.toString
  | literal text => text
  | opening delimiter => delimiter.openingText
  | closing delimiter => delimiter.closingText

/-- The token is an identifier or a keyword. -/
def isIdent : Lexeme → Bool
  | ident _ => true
  | _ => false

/-- The token ends a group. -/
def isClosing : Lexeme → Bool
  | closing _ => true
  | _ => false

end Lexeme

namespace Token

/-- The characters of the token. -/
def text (t : Token) : String := t.lexeme.text

/-- The same token as part of something else, which stands at `span`. Brackets are placed at its
first and last character. -/
def placedIn (span : Span) (t : Token) : Token :=
  match t.lexeme with
  | .opening _ => { t with span := span.firstChar }
  | .closing _ => { t with span := span.lastChar }
  | _ => { t with span := span }

end Token

/-- A name at its place in the text. -/
structure Name where
  text : String
  span : Span
  deriving DecidableEq, Repr

namespace Name

/-- The name as a stream. -/
def tokens (n : Name) : List Token := [⟨.ident n.text, n.span⟩]

/-- The name that a single token shows. -/
def ofTokens (ts : List Token) : Name :=
  match ts with
  | ⟨lexeme, span⟩ :: _ => ⟨lexeme.text, span⟩
  | [] => ⟨"", .outside⟩

end Name

/-! ## Streams -/

/-- The stream without the places of its tokens. -/
def lexemes (ts : List Token) : List Lexeme := ts.map Token.lexeme

/-- The span from the first token to the last, or `default` if there is none. -/
def spanOf (ts : List Token) (default : Span) : Span :=
  match ts.head?, ts.getLast? with
  | some first, some last => first.span.join last.span
  | _, _ => default

/-! ## Tokens of generated code -/

/-- The characters of an operator: all but the last are joint. -/
def operatorLexemes : List Char → List Lexeme
  | [] => []
  | [c] => [.punct c .alone]
  | c :: rest => .punct c .joint :: operatorLexemes rest

namespace Generated

/-- An operator, placed outside the text. -/
def operator (text : String) : List Token :=
  (operatorLexemes text.toList).map (⟨·, .outside⟩)

/-- An identifier or keyword, placed outside the text. -/
def word (text : String) : List Token :=
  [⟨.ident text, .outside⟩]

/-- A group, with its brackets placed outside the text. -/
def group (delimiter : Delimiter) (content : List Token) : List Token :=
  ⟨.opening delimiter, .outside⟩ :: content ++ [⟨.closing delimiter, .outside⟩]

end Generated

end Memberwise
