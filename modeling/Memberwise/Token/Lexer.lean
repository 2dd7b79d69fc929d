import Memberwise.Iterate
import Memberwise.Text.Literal
import Memberwise.Token
import Memberwise.Unicode.Blank

/-!
# Reading tokens

A text is read from left to right into tokens. Comments and blanks separate tokens and vanish,
except that a documentation comment stands for an attribute. A bracket closes the group that was
opened last.

## Main definitions

* `Place`: the text that is left, and where it starts
* `lex`: the tokens of a text, or the position of the first character that cannot be read
-/

namespace Memberwise.Lexer

open Text Unicode

/-- The text that is left, and where it starts. -/
structure Place where
  rest : List Char
  position : Position
  deriving Repr

namespace Place

/-- The place at which only `rest`, the end of the text, is left. -/
def skipTo (p : Place) (rest : List Char) : Place :=
  ⟨rest, p.position.after (before p.rest rest)⟩

/-- The place after one character. -/
def next (p : Place) : Place := p.skipTo (p.rest.drop 1)

/-- The span between two places. -/
def spanTo (first last : Place) : Span := ⟨first.position, last.position⟩

end Place

/-! ## Comments -/

/-- What follows a line, from its line break on. A carriage return before the line feed belongs to
neither the line nor the break. -/
def lineEnd : List Char → List Char × List Char
  | [] => ([], [])
  | '\n' :: rest => ([], '\n' :: rest)
  | '\r' :: '\n' :: rest => ([], '\n' :: rest)
  | c :: rest => let (line, after) := lineEnd rest; (c :: line, after)

/-- What follows a block comment in which `depth` comments are open. -/
def blockEnd? : Nat → List Char → Option (List Char)
  | depth, '/' :: '*' :: rest => blockEnd? (depth + 1) rest
  | depth, '*' :: '/' :: rest => if depth ≤ 1 then some rest else blockEnd? (depth - 1) rest
  | depth, _ :: rest => blockEnd? depth rest
  | _, [] => none

/-- A line comment that documents nothing. -/
def isPlainLine (cs : List Char) : Bool :=
  startsWith "//" cs && (!startsWith "///" cs || startsWith "////" cs) && !startsWith "//!" cs

/-- A block comment that documents nothing. -/
def isPlainBlock (cs : List Char) : Bool :=
  startsWith "/**/" cs
    || (startsWith "/*" cs && (!startsWith "/**" cs || startsWith "/***" cs)
      && !startsWith "/*!" cs)

/-- What follows the blanks and plain comments at the start. A block comment that is not closed is
left where it is. -/
def skipBlank (cs : List Char) : List Char :=
  iterate List.length
    (fun cs =>
      if isPlainLine cs then .inl (lineEnd cs).2
      else if isPlainBlock cs then
        match blockEnd? 0 cs with
        | some rest => .inl rest
        | none => .inr cs
      else
        match cs with
        | c :: rest => if isBlank c then .inl rest else .inr cs
        | [] => .inr [])
    id cs

/-- A carriage return without its line feed. -/
def hasBareReturn : List Char → Bool
  | [] => false
  | '\r' :: '\n' :: rest => hasBareReturn rest
  | '\r' :: _ => true
  | _ :: rest => hasBareReturn rest

/-- A documentation comment: its text, whether it documents what is around it, and the rest. -/
def docComment? (cs : List Char) : Option (List Char × Bool × List Char) := do
  let (text, inner, rest) ←
    if startsWith "//!" cs then
      let (line, rest) := lineEnd (cs.drop 3)
      some (line, true, rest)
    else if startsWith "/*!" cs then do
      let rest ← blockEnd? 0 cs
      let comment := before cs rest
      some ((comment.drop 3).take (comment.length - 5), true, rest)
    else if startsWith "///" cs then
      if startsWith "////" cs then none
      else
        let (line, rest) := lineEnd (cs.drop 3)
        some (line, false, rest)
    else if startsWith "/**" cs && !startsWith "/***" cs then do
      let rest ← blockEnd? 0 cs
      let comment := before cs rest
      some ((comment.drop 3).take (comment.length - 5), false, rest)
    else none
  if hasBareReturn text then none else some (text, inner, rest)

/-- The attribute that a documentation comment stands for, at the place of the comment. -/
def docTokens (text : List Char) (inner : Bool) (span : Span) : List Token :=
  let content := Generated.word "doc" ++ Generated.operator "="
    ++ [⟨.literal (quote (String.ofList text)), span⟩]
  (Generated.operator "#" ++ (if inner then Generated.operator "!" else [])
    ++ Generated.group .bracket content).map (Token.placedIn span)

/-! ## Single tokens -/

/-- The characters that stand for themselves, and the apostrophe of a lifetime. A comment does not
start with one. -/
def punctuation? (cs : List Char) : Option (Char × List Char) :=
  if startsWith "//" cs || startsWith "/*" cs then none
  else
    match cs with
    | c :: rest => if "~!@#$%^&*-=+|;:,<.>/?'".toList.contains c then some (c, rest) else none
    | [] => none

/-- An identifier, perhaps raw. Five names cannot be raw. -/
def identifier? (cs : List Char) : Option (String × List Char) :=
  match after? "r#" cs with
  | some name => do
    let rest ← afterIdentifier? name
    let text := String.ofList (before name rest)
    if ["_", "super", "self", "Self", "crate"].contains text then none
    else some ("r#" ++ text, rest)
  | none => do
    let rest ← afterIdentifier? cs
    some (String.ofList (before cs rest), rest)

/-- The beginnings of literals, with which no identifier starts. -/
def literalOpenings : List String :=
  ["r\"", "r#\"", "r##", "b\"", "b'", "br\"", "br#", "c\"", "cr\"", "cr#"]

/-- A punctuation character. An apostrophe has to begin a lifetime, and not a character. -/
def punctuationLexeme? (cs : List Char) : Option (Lexeme × List Char) := do
  let (c, rest) ← punctuation? cs
  if c = '\x27' then
    let (_, after) ← identifier? rest
    if startsWith "'" after || (startsWith "#" after && !startsWith "r#" rest) then none
    else some (.punct c .joint, rest)
  else some (.punct c (if (punctuation? rest).isSome then .joint else .alone), rest)

/-- The text that stands for a literal which could not be read. -/
def brokenLiteral : String := "(/*ERROR*/)"

/-- One token other than a bracket. -/
def leaf? (cs : List Char) : Option (Lexeme × List Char) :=
  ((afterLiteral? cs).map fun rest => (.literal (String.ofList (before cs rest)), rest))
    <|> punctuationLexeme? cs
    <|> (if literalOpenings.any (startsWith · cs) then none
         else (identifier? cs).map fun (text, rest) => (.ident text, rest))
    <|> (after? brokenLiteral cs).map (.literal brokenLiteral, ·)

/-- The bracket that opens a group. -/
def openingOf? (cs : List Char) : Option Delimiter :=
  match cs with
  | '(' :: _ => if startsWith brokenLiteral cs then none else some .parenthesis
  | '[' :: _ => some .bracket
  | '\x7b' :: _ => some .brace
  | _ => none

/-- The bracket that closes a group. -/
def closingOf? : List Char → Option Delimiter
  | ')' :: _ => some .parenthesis
  | ']' :: _ => some .bracket
  | '\x7d' :: _ => some .brace
  | _ => none

/-! ## Streams -/

/-- What has been read: the place reached, the groups that are open with their places, innermost
first, and the tokens, last first. -/
structure State where
  place : Place
  groups : List (Delimiter × Position)
  tokens : List Token

/-- Reads the next token, or ends. -/
def step (s : State) : State ⊕ Except Position (List Token) :=
  let here := s.place.skipTo (skipBlank s.place.rest)
  match docComment? here.rest with
  | some (text, inner, rest) =>
    let last := here.skipTo rest
    let doc := docTokens text inner (here.spanTo last)
    .inl { s with place := last, tokens := doc.reverse ++ s.tokens }
  | none =>
    match openingOf? here.rest, closingOf? here.rest with
    | some delimiter, _ =>
      .inl ⟨here.next, (delimiter, here.position) :: s.groups,
        ⟨.opening delimiter, here.spanTo here.next⟩ :: s.tokens⟩
    | none, some delimiter =>
      match s.groups with
      | (opened, _) :: groups =>
        if opened = delimiter then
          .inl ⟨here.next, groups, ⟨.closing delimiter, here.spanTo here.next⟩ :: s.tokens⟩
        else .inr (.error here.position)
      | [] => .inr (.error here.position)
    | none, none =>
      if here.rest.isEmpty then
        match s.groups with
        | (_, opened) :: _ => .inr (.error opened)
        | [] => .inr (.ok s.tokens.reverse)
      else
        match leaf? here.rest with
        | some (lexeme, rest) =>
          let last := here.skipTo rest
          .inl { s with place := last, tokens := ⟨lexeme, here.spanTo last⟩ :: s.tokens }
        | none => .inr (.error here.position)

end Memberwise.Lexer

namespace Memberwise

open Lexer in
/-- The tokens of a text, or the position of the character that begins none. A mark of the byte
order at the start of the text is passed over. -/
def lex (text : String) : Except Position (List Token) :=
  let start : Place := ⟨text.toList, .start⟩
  let start := if Text.headIs (· == '\uFEFF') start.rest then start.next else start
  iterate (fun s => s.place.rest.length) step (fun s => .error s.place.position) ⟨start, [], []⟩

end Memberwise
