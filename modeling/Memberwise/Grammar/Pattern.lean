import Memberwise.Grammar.Path
import Memberwise.Grammar.Type

/-!
# Patterns

## Main definitions

* `Parser.pattern`: a pattern without alternatives
* `Parser.alternatives`: a pattern, perhaps with alternatives
* `Parser.member`: the name or number of a field, which expressions use too
-/

namespace Memberwise.Parser

/-! ## Fields -/

/-- The value of an integer and its suffix. -/
def integerValue (text : String) : Nat × List Char :=
  let (base, digits) := Text.baseOf text.toList
  let isDigit (c : Char) := c == '_' || (Text.digitValue? c).any (· < base)
  let value := (digits.takeWhile isDigit).foldl (fun n c =>
    match Text.digitValue? c with
    | some digit => n * base + digit
    | none => n) 0
  (value, digits.dropWhile isDigit)

/-- A number in the place of a field. A sign in front of it belongs to it. -/
structure FieldNumber where
  signed : Bool
  text : String
  span : Span

/-- The number of a field as it is written again: in decimal. -/
def FieldNumber.index (n : FieldNumber) : Except Diagnostic (List Token) :=
  let (value, suffix) := integerValue n.text
  if !(isNumber n.text && !isFloat n.text) then .error (.present (.expected [.integer]) n.span)
  else if !suffix.isEmpty then .error (.present .indexSuffix n.span)
  else if n.signed then .error (.present .indexSign n.span)
  else if value < UInt32.size then .ok [⟨.literal (toString value), n.span⟩]
  else .error (.present .indexTooLarge n.span)

/-- Reads a number in the place of a field. -/
def fieldNumber : Parser FieldNumber := do
  match ← literal with
  | [⟨.literal text, span⟩] => return ⟨false, text, span⟩
  | [sign, ⟨.literal text, span⟩] => return ⟨true, text, sign.span.join span⟩
  | _ => reject .member

/-- Reads the name or the number of a field, and tells whether it is a name. -/
def member : Parser (List Token × Bool) := do
  let ts ← ahead
  if isIdent ts then return (← identifier, true)
  else if Terminal.integer.starts ts then return (← (← fieldNumber).index, false)
  else reject .member

/-! ## Ranges -/

/-- Reads the operator of a range, and tells whether it includes its end. -/
def rangeOperator : Parser (List Token × Bool) := do
  let ts ← ahead
  if isOp "..=" ts then return (← operator "..=", true)
  else if isOp "..." ts then expected [.operator "..="]
  else return (← operator "..", false)

/-- Reads the operator of a range in a pattern, where three dots mean that the end is included. -/
def patternRangeOperator : Parser (List Token × Bool) := do
  let ts ← ahead
  if isOp "..." ts then return (respaced "..=" (← take 3), true) else rangeOperator

/-- Nothing that could be the end of a range in a pattern comes next. -/
def endsPatternRange (ts : List Token) : Bool :=
  atEnd ts || isOp "|" ts || isOp "=" ts || (isOp ":" ts && !isOp "::" ts) || isOp "," ts
    || isOp ";" ts || isWord "if" ts

/-- Reads a constant block. -/
def constBlock (ph : Phrases) : Parser (List Token) := seq [keyword "const", attributedBlock ph]

/-- Reads an end of a range in a pattern, or nothing if the range is open there. -/
def patternRangeEnd (ph : Phrases) : Parser (List Token) := do
  let ts ← ahead
  if endsPatternRange ts then return []
  else if isLiteral ts then literal
  else if isPathWord ts || isOp "::" ts || isOp "<" ts then
    return (← qualifiedPath ph true).tokens
  else if isWord "const" ts then constBlock ph
  else
    expected [.literal, .identifier, .operator "::", .operator "<", .keyword "self",
      .keyword "Self", .keyword "super", .keyword "crate", .keyword "const"]

/-- Reads the rest of a range in a pattern after its first end. -/
def patternRange (ph : Phrases) (first : List Token) : Parser Fragment := do
  let (dots, closed) ← patternRangeOperator
  let last ← patternRangeEnd ph
  if last.isEmpty then
    if closed then reject .rangeEnd
    else return ⟨first ++ dots, .openRange (spanOf dots .outside)⟩
  else
    return ⟨first ++ dots ++ last,
      if first.isEmpty then .openRange (spanOf dots .outside) else .plain⟩

/-- Reads a range without a first end, or the pattern `..`. -/
def openPatternRange (ph : Phrases) : Parser Fragment := do
  let (dots, closed) ← rangeOperator
  let last ← patternRangeEnd ph
  if !last.isEmpty then return ⟨dots ++ last, .openRange (spanOf dots .outside)⟩
  else if closed then reject .rangeEnd
  else return ⟨dots, .rest⟩

/-! ## Patterns with parts -/

/-- Reads a pattern that names something, perhaps with a pattern for it. -/
def namePattern (ph : Phrases) : Parser (List Token) := do
  let modifiers ← seq [keyword? "ref", keyword? "mut"]
  let name ← if isWord "self" (← ahead) then take 1 else identifier
  return modifiers ++ name ++
    (← when? (isOp "@") (seq [operator "@", ph.tokens .pattern]))

/-- Reads a field of a struct pattern. One that is boxed keeps the spacing of its source. -/
def fieldPattern (ph : Phrases) : Parser (List Token) := do
  let before ← ahead
  let boxed ← keyword? "box"
  let modifiers ← seq [keyword? "ref", keyword? "mut"]
  let marked := !(boxed ++ modifiers).isEmpty
  let (field, named) ← if marked then pure (← identifier, true) else member
  if (!marked && isOp ":" (← ahead)) || !named then
    return field ++ (← seq [operator ":", ph.tokens .alternatives])
  else if boxed.isEmpty then return modifiers ++ field
  else since before

/-- Reads the fields of a struct pattern, up to two dots or the end. -/
def fieldPatterns (ph : Phrases) : Parser (List Token) :=
  loop (fun read => do
    if atEnd (← ahead) then return .inr read
    else
      let attributes ← outer ph
      if isOp ".." (← ahead) then return .inr (read ++ attributes ++ (← operator ".."))
      else
        let read := read ++ attributes ++ (← fieldPattern ph)
        if atEnd (← ahead) then return .inr read else return .inl (read ++ (← operator ","))) []

/-- Reads a pattern that starts with a path. -/
def pathPattern (ph : Phrases) : Parser Fragment := do
  let p ← qualifiedPath ph true
  let ts ← ahead
  if !p.qualified && isOp "!" ts && !isOp "!=" ts && !p.generic then
    return ⟨p.tokens ++ (← seq [operator "!", anyGroup]), .plain⟩
  else if isBrace ts then return ⟨p.tokens ++ (← group .brace (fieldPatterns ph)), .plain⟩
  else if isParen ts then
    let parts ← group .parenthesis (commaSeparated (ph.tokens .alternatives))
    return ⟨p.tokens ++ parts, .plain⟩
  else if isOp ".." ts then patternRange ph p.tokens
  else return ⟨p.tokens, .plain⟩

/-- Reads a part of a slice pattern, in which an open range needs parentheses. -/
def slicePart (ph : Phrases) : Parser (List Token) := do
  let part ← ph .alternatives
  match part.shape with
  | .openRange operator => rejectAt .openRangeInSlice operator
  | _ => return part.tokens

/-- A pattern that starts with a path begins, and not a new name. -/
def beginsPathPattern (ts : List Token) : Bool :=
  let second := afterTree ts
  (isIdent ts
      && (isOp "::" second || isOp "!" second || isBrace second || isParen second
        || isOp ".." second))
    || (isWord "self" ts && isOp "::" second)
    || isOp "::" ts || isOp "<" ts || isWord "Self" ts || isWord "super" ts || isWord "crate" ts

/-- Reads a pattern without alternatives. -/
def pattern (ph : Phrases) : Parser Fragment := do
  let ts ← ahead
  if beginsPathPattern ts then pathPattern ph
  else if isWord "_" ts then return ⟨← anyWord, .plain⟩
  else if isWord "box" ts then
    let _ ← keyword "box"
    let _ ← ph .pattern
    return ⟨← since ts, .verbatim⟩
  else if isOp "-" ts || isLiteral ts || isWord "const" ts then
    let first ← patternRangeEnd ph
    if isOp ".." (← ahead) then patternRange ph first else return ⟨first, .plain⟩
  else if isWord "ref" ts || isWord "mut" ts || isWord "self" ts || isIdent ts then
    return ⟨← namePattern ph, .plain⟩
  else if isOp "&" ts then
    return ⟨← seq [operator "&", keyword? "mut", ph.tokens .pattern], .plain⟩
  else if isParen ts then
    return ⟨← group .parenthesis (commaSeparated (ph.tokens .alternatives)), .plain⟩
  else if isBracket ts then
    return ⟨← group .bracket (commaSeparated (slicePart ph)), .plain⟩
  else if isOp ".." ts && !isOp "..." ts then openPatternRange ph
  else
    expected [.identifier, .operator "::", .operator "<", .keyword "_", .literal,
      .keyword "const", .keyword "ref", .keyword "mut", .operator "&", .group .parenthesis,
      .group .bracket, .operator ".."]

/-- Another alternative follows. -/
def beginsAlternative (ts : List Token) : Bool :=
  isOp "|" ts && !isOp "||" ts && !isOp "|=" ts

/-- Reads a pattern, perhaps with alternatives and a bar in front. -/
def alternatives (ph : Phrases) : Parser Fragment := do
  let bar ← operator? "|"
  let first ← pattern ph
  let others ← concatUntil (!beginsAlternative ·) (seq [operator "|", ph.tokens .pattern])
  if bar.isEmpty && others.isEmpty then return first
  else return ⟨bar ++ first.tokens ++ others, .plain⟩

end Memberwise.Parser
