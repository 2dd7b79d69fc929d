import Memberwise.Item

/-!
# Statements

## Main definitions

* `Parser.statement`, `Parser.statements`
-/

namespace Memberwise.Parser

/-- The tokens end with a closing brace. -/
def endsWithBrace (ts : List Token) : Bool :=
  ts.getLast?.any fun t => t.lexeme = .closing .brace

/-- Reads the declaration of a local variable. -/
def localVariable (ph : Phrases) : Parser (List Token) := do
  let start ← seq [keyword "let", ph.tokens .pattern,
    when? (isOp ":") (seq [operator ":", ph.tokens (.type true)])]
  let equals ← operator? "="
  let value ← if equals.isEmpty then pure [] else ph.tokens (.expression true)
  let otherwise ←
    if equals.isEmpty || endsWithBrace value then pure []
    else when? (isWord "else") (seq [keyword "else", block ph])
  return start ++ equals ++ value ++ otherwise ++ (← operator ";")

/-- The tokens after a path of words, if one comes next. -/
def afterModPath? : Parser (Option (List Token)) := do
  match modPath (← get) with
  | .ok (_, c) => return some c.tokens
  | .error _ => return none

/-- A macro call that defines a name begins: its path is followed by `!` and a word. -/
def beginsNamedCall (afterPath : List Token) : Bool :=
  let second := afterTree afterPath
  isOp "!" afterPath && (isIdent second || isWord "try" second)

/-- A macro call with curly braces begins that is a statement by itself. -/
def beginsBraceCall (afterPath : List Token) : Bool :=
  let second := afterTree afterPath
  let third := afterTree second
  isOp "!" afterPath && !beginsNamedCall afterPath && isBrace second
    && !(isDot third || isOp "?" third)

/-- An item begins, and not an expression. -/
def beginsItem (ts : List Token) : Bool :=
  let second := afterTree ts
  let third := afterTree second
  isWord "pub" ts || (isWord "crate" ts && !isOp "::" second) || isWord "extern" ts
    || isWord "use" ts
    || (isWord "static" ts && (isWord "mut" second
      || (isIdent second
        && !(isWord "async" second && (isWord "move" third || isOp "|" third)))))
    || (isWord "const" ts
      && !(isBrace second || isWord "static" second
        || (isWord "async" second
          && !(isWord "unsafe" third || isWord "extern" third || isWord "fn" third))
        || isWord "move" second || isOp "|" second))
    || (isWord "unsafe" ts && !isBrace second)
    || (isWord "async" ts
      && (isWord "unsafe" second || isWord "extern" second || isWord "fn" second))
    || isWord "fn" ts || isWord "mod" ts || isWord "type" ts || isWord "struct" ts
    || isWord "enum" ts || (isWord "union" ts && isIdent second)
    || (isWord "auto" ts && isWord "trait" second) || isWord "trait" ts
    || (isWord "default" ts && (isWord "unsafe" second || isWord "impl" second))
    || isWord "impl" ts || isWord "macro" ts

/-- Reads an expression as a statement, after its attributes. Tells whether a semicolon has to
follow if another statement does. -/
def expressionStatement (ph : Phrases) (attributes : List Token) : Parser (List Token × Bool) := do
  let e ← expressionAfter ph attributes true
  let ending ← operator? ";"
  let complete := !ending.isEmpty || e.shape = .blockLike || e.shape = .braceMacro
  return (e.tokens ++ ending, !complete)

/-- Reads a statement, and tells whether a semicolon has to follow if another statement does. -/
def statement (ph : Phrases) : Parser (List Token × Bool) := do
  let before ← ahead
  let attributes ← outerAttributes ph
  let outer := Attribute.listTokens attributes
  let afterPath ← afterModPath?
  let ts ← ahead
  if afterPath.any beginsBraceCall then
    return (outer ++ (← seq [modPath, operator "!", anyGroup, operator? ";"]), false)
  else if isWord "let" ts then return (outer ++ (← localVariable ph), false)
  else if beginsItem ts || afterPath.any beginsNamedCall then
    return ((← itemAfter ph before attributes).tokens, false)
  else expressionStatement ph outer

/-- Reads the statements of a block. -/
def statements (ph : Phrases) : Parser (List Token) :=
  loop (fun read => do
    let read := read ++ (← concatUntil (!isOp ";" ·) (operator ";"))
    if ← ended then return .inr read
    else
      let (tokens, incomplete) ← statement ph
      let read := read ++ tokens
      if ← ended then return .inr read
      else if incomplete then reject .missingSemicolon
      else return .inl read) []

end Memberwise.Parser
