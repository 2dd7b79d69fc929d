import Memberwise.Attribute

/-!
# Visibility

## Main definitions

* `Visibility`, `Visibility.tokens`
* `Parser.visibility`
-/

namespace Memberwise

/-- Who may use an item or a field. -/
inductive Visibility where
  | inherited
  | pub
  /-- Only what is inside `scope`, a word or a path after `in`. -/
  | restricted (scope : List Token)
  deriving DecidableEq, Repr

/-- The tokens of the modifier. -/
def Visibility.tokens : Visibility → List Token
  | inherited => []
  | pub => Generated.word "pub"
  | restricted scope => Generated.word "pub" ++ Generated.group .parenthesis scope

namespace Parser

/-- Reads a visibility. A group after `pub` belongs to it if it holds one of three words and nothing
else, or starts with `in`. Any other group is what follows. -/
def visibility : Parser Visibility := do
  if isWord "pub" (← ahead) then
    let _ ← keyword "pub"
    let ts ← ahead
    let content := ts.drop 1
    let single := isWord "crate" content || isWord "self" content || isWord "super" content
    if isParen ts && single && atEnd (afterTree content) then
      return .restricted (← inside .parenthesis anyWord)
    else if isParen ts && isWord "in" content then
      return .restricted (← inside .parenthesis (seq [keyword "in", modPath]))
    else return .pub
  else return .inherited

/-- The visibility that comes next, and the tokens after it, without moving on. -/
def afterVisibility : Parser (Visibility × List Token) := do
  match visibility (← get) with
  | .ok (v, c) => return (v, c.tokens)
  | .error d => throw d

end Parser

end Memberwise
