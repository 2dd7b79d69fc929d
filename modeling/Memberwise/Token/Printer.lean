import Memberwise.Token

/-!
# Printing token streams

One space separates two tokens, except after a joint punctuation character and inside parentheses
and square brackets. Curly braces keep a space on the inside, one in all if they are empty.

## Main definitions

* `spaced`: whether a space separates two neighbours
* `render`: the text of a stream
-/

namespace Memberwise

/-- A space separates the two neighbours. -/
def spaced : Lexeme → Lexeme → Bool
  | _, .closing .brace => true
  | _, .closing _ => false
  | .opening .brace, _ => true
  | .opening _, _ => false
  | .punct _ .joint, _ => false
  | _, _ => true

/-- The text of a stream of lexemes. -/
def renderLexemes : List Lexeme → String
  | [] => ""
  | [last] => last.text
  | first :: second :: rest =>
    first.text ++ (if spaced first second then " " else "") ++ renderLexemes (second :: rest)

/-- The text of a stream, which does not depend on the places of its tokens. -/
def render (ts : List Token) : String := renderLexemes (lexemes ts)

end Memberwise
