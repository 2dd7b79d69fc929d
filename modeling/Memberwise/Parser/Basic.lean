import Memberwise.Iterate
import Memberwise.Parser.Diagnostic

/-!
# Parsers

A parser reads a token stream from the left and fails with a diagnostic. It sees only the group it
is in: the closing token of the group is the end of the stream for it. What a parser leaves unread
in a group is no failure at once. The token is remembered when what the group belongs to has been
read, and the stream is rejected for the first that was remembered if nothing else is wrong.

## Main definitions

* `Cursor`, `Parser`
* `operator`, `keyword`, `identifier`, `lifetime`, `literal`: single terminals
* `bracketed`, `group`: the contents of a group
* `bracketedThen`: the contents of a group and what follows it
* `loop`, `repeatUntil`, `concatUntil`: repetition
* `since`, `verbatim`: the tokens a parser reads, as they are
* `parseAll`: a whole stream
-/

namespace Memberwise

/-- What is left to read, the first token left unread in a group, and where the stream ends. -/
structure Cursor where
  tokens : List Token
  leftover : Option Diagnostic
  limit : Span

namespace Cursor

/-- The start of a stream that ends at `limit`. -/
def ofTokens (ts : List Token) (limit : Span) : Cursor := ⟨ts, none, limit⟩

/-- The place of the next token, or of the end. -/
def span (c : Cursor) : Span :=
  match c.tokens with
  | t :: _ => t.span
  | [] => c.limit

/-- The next token is in the way, for the given cause. At the end the token is missing. -/
def reject (c : Cursor) (cause : Cause) : Diagnostic := ⟨cause, atEnd c.tokens, c.span⟩

/-- The next token, or the whole of the next group, is one too many. -/
def surplus (c : Cursor) (inside : Option Delimiter) : Diagnostic :=
  .present (.leftover inside) <|
    match c.tokens with
    | ⟨.opening _, _⟩ :: _ => spanOf (splitTree c.tokens).1 c.span
    | _ => c.span

end Cursor

/-- A reader of token streams. -/
abbrev Parser := StateT Cursor (Except Diagnostic)

namespace Parser

variable {α β σ : Type}

/-! ## Looking and failing -/

/-- The tokens that are left, those after the end of the group included. -/
def ahead : Parser (List Token) := do return (← get).tokens

/-- The place of the next token, or of the end. -/
def here : Parser Span := do return (← get).span

/-- Nothing is left in the group. -/
def ended : Parser Bool := do return atEnd (← ahead)

/-- Rejects the next token. -/
def reject (cause : Cause) : Parser α := do throw ((← get).reject cause)

/-- Nothing that may come next does. A terminal that does come, but without what has to follow it,
is not named. -/
def expected (choices : List Terminal) : Parser α := do
  let c ← get
  let missing := choices.filter fun t => !t.starts c.tokens
  if missing.isEmpty ∧ ¬ atEnd c.tokens then throw (c.surplus none)
  else throw (c.reject (.expected missing))

/-- Rejects something at a place of its own. -/
def rejectAt (cause : Cause) (span : Span) : Parser α := throw (.present cause span)

/-- Passes over the first `n` tokens and gives them. -/
def take (n : Nat) : Parser (List Token) := do
  let c ← get
  set { c with tokens := c.tokens.drop n }
  return c.tokens.take n

/-- Nothing that may come at `ts`, an end of the stream, does. -/
def expectedAt (ts : List Token) (choices : List Terminal) : Parser α := do
  let _ ← take ((← ahead).length - ts.length)
  expected choices

/-! ## Terminals -/

/-- The characters of an operator, spaced as an operator whatever the source has. -/
def respaced (text : String) (ts : List Token) : List Token :=
  List.zipWith (fun lexeme t => ⟨lexeme, t.span⟩) (operatorLexemes text.toList) ts

/-- Reads an operator. The message for a missing one does not tell of the end. -/
def operator (text : String) : Parser (List Token) := do
  if isOp text (← ahead) then return respaced text (← take text.length)
  else rejectAt (.expected [.operator text]) (← here)

/-- Reads one word. -/
def keyword (text : String) : Parser (List Token) := do
  if isWord text (← ahead) then take 1 else reject (.expected [.keyword text])

/-- Reads an operator if it comes next. -/
def operator? (text : String) : Parser (List Token) := do
  if isOp text (← ahead) then operator text else return []

/-- Reads a word if it comes next. -/
def keyword? (text : String) : Parser (List Token) := do
  if isWord text (← ahead) then take 1 else return []

/-- Reads any word, reserved or not. -/
def anyWord : Parser (List Token) := do
  if Terminal.word.starts (← ahead) then take 1 else reject (.expected [.word])

/-- Reads a word that is not reserved. -/
def identifier : Parser (List Token) := do
  match ← ahead with
  | ⟨.ident name, _⟩ :: _ => if isReserved name then reject (.reserved name) else take 1
  | _ => reject (.expected [.identifier])

/-- Reads a lifetime. -/
def lifetime : Parser (List Token) := do
  if isLifetime (← ahead) then take 2 else reject (.expected [.lifetime])

/-- Reads a literal. The minus sign before a number stands alone. -/
def literal : Parser (List Token) := do
  let ts ← ahead
  if isLiteral ts then
    match ts with
    | ⟨.punct _ _, _⟩ :: _ => return respaced "-" (← take 1) ++ (← take 1)
    | _ => take 1
  else reject (.expected [.literal])

/-- Reads a word that is not reserved, as a name. -/
def name : Parser Name := do return .ofTokens (← identifier)

/-- Reads any word as a name. -/
def anyName : Parser Name := do return .ofTokens (← anyWord)

/-- Reads the word that introduces an item. -/
def itemKeyword (text : String) : Parser Name := do return .ofTokens (← keyword text)

/-! ## Groups -/

/-- What is left in a group that ends, if anything is. -/
def leftIn (delimiter : Delimiter) (c : Cursor) : Option Diagnostic :=
  if atEnd c.tokens then none else some (c.surplus (some delimiter))

/-- Remembers what is left in a group, unless something was before. -/
def remember (left : Option Diagnostic) : Parser Unit :=
  modify fun c => { c with leftover := c.leftover.or left }

/-- Reads a group with a parser for its contents, and then what follows it. The latter is given the
brackets as well. What is left in the group is remembered last, so what is left in a group after it
comes first. -/
def bracketedThen (delimiter : Delimiter) (p : Parser α) (next : Token → α → Token → Parser β) :
    Parser β := do
  match ← ahead with
  | first :: _ =>
    if first.lexeme = .opening delimiter then
      let _ ← take 1
      let content ← p
      let c ← get
      let (contents, after) := splitGroup 0 c.tokens
      set { c with tokens := after }
      let result ← next first content ((contents.getLast?).getD ⟨.closing delimiter, c.limit⟩)
      remember (leftIn delimiter c)
      return result
    else reject (.expected [.group delimiter])
  | [] => reject (.expected [.group delimiter])

/-- Reads a group with a parser for its contents. Gives the brackets as well. -/
def bracketed (delimiter : Delimiter) (p : Parser α) : Parser (Token × α × Token) :=
  bracketedThen delimiter p fun opening content closing => return (opening, content, closing)

/-- Reads a group, for the value of its contents only. -/
def inside (delimiter : Delimiter) (p : Parser α) : Parser α := do
  let (_, content, _) ← bracketed delimiter p
  return content

/-- Reads a group, and gives its tokens. -/
def group (delimiter : Delimiter) (p : Parser (List Token)) : Parser (List Token) := do
  let (opening, content, closing) ← bracketed delimiter p
  return opening :: content ++ [closing]

/-- Reads a group of any kind, as it is. -/
def anyGroup : Parser (List Token) := do
  let ts ← ahead
  if isParen ts || isBracket ts || isBrace ts then take (splitTree ts).1.length
  else reject .delimiter

/-! ## Sequence and repetition -/

/-- One parser after another, for the tokens of all. -/
def seq : List (Parser (List Token)) → Parser (List Token)
  | [] => return []
  | p :: rest => do
    let first ← p
    let others ← seq rest
    return first ++ others

/-- Repeats a step until it gives a result. -/
def loop (step : σ → Parser (σ ⊕ α)) (start : σ) : Parser α := fun c =>
  iterate (fun state : σ × Cursor => state.2.tokens.length)
    (fun (s, c) =>
      match step s c with
      | .ok (.inl next, c) => .inl (next, c)
      | .ok (.inr result, c) => .inr (.ok (result, c))
      | .error e => .inr (.error e))
    (fun (_, c) => .error (c.surplus none)) (start, c)

/-- Reads items until the stream is as `stop` says. -/
def repeatUntil (stop : List Token → Bool) (item : Parser α) : Parser (List α) :=
  loop (fun items => do
    if stop (← ahead) then return .inr items.reverse
    else return .inl ((← item) :: items)) []

/-- Reads token lists until the stream is as `stop` says, and joins them. -/
def concatUntil (stop : List Token → Bool) (item : Parser (List Token)) : Parser (List Token) := do
  return (← repeatUntil stop item).flatten

/-- Reads one item if the stream is as `test` says. -/
def when? (test : List Token → Bool) (item : Parser (List Token)) : Parser (List Token) := do
  if test (← ahead) then item else return []

/-! ## Raw tokens -/

/-- Reads all that is left in the group, as it is. -/
def remaining : Parser (List Token) :=
  concatUntil atEnd do take (splitTree (← ahead)).1.length

/-- The tokens read since `before` was left, as they are in the source. -/
def since (before : List Token) : Parser (List Token) := do
  return before.take (before.length - (← ahead).length)

/-- The tokens that a parser reads, as they are in the source. -/
def verbatim (p : Parser α) : Parser (List Token) := do
  let before ← ahead
  let _ ← p
  since before

end Parser

/-! ## Whole streams -/

/-- Reads a whole stream. Nothing may be left over in a group of it or at its end. -/
def parseAll {α : Type} (p : Parser α) (ts : List Token) (limit : Span) :
    Except Diagnostic α := do
  let (a, c) ← p (.ofTokens ts limit)
  match c.leftover with
  | some d => throw d
  | none => if atEnd c.tokens then return a else throw (c.surplus none)

end Memberwise
