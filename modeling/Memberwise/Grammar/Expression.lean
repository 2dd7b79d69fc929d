import Memberwise.Grammar.Operator
import Memberwise.Grammar.Pattern

/-!
# Expressions

An operand with the operators in front of it and the calls, fields and indices after it, and then
the operators between operands, by precedence climbing. Where `braces` is false, a brace after a
path begins a block and not a struct literal.

## Main definitions

* `Parser.operand`, `Parser.operators`, `Parser.expression`
* `Parser.statementExpression`: an expression that ends early if it can stand by itself
-/

namespace Memberwise.Parser

/-! ## Blocks -/

/-- Reads a block without inner attributes. -/
def block (ph : Phrases) : Parser (List Token) := group .brace (ph.tokens .statements)

/-- Reads `if` with its alternatives. -/
def ifExpression (ph : Phrases) : Parser (List Token) :=
  loop (fun read => do
    let read := read ++ (← seq [keyword "if", ph.tokens (.expression false), block ph])
    if isWord "else" (← ahead) then
      let read := read ++ (← keyword "else")
      let ts ← ahead
      if isWord "if" ts then return .inl read
      else if isBrace ts then return .inr (read ++ (← block ph))
      else expected [.keyword "if", .group .brace]
    else return .inr read) []

/-- Reads an arm of a match. Only one that ends with a block needs no comma. -/
def matchArm (ph : Phrases) : Parser (List Token) := do
  let pattern ← seq [outer ph, ph.tokens .alternatives,
    when? (isWord "if") (seq [keyword "if", ph.tokens (.expression true)]), operator "=>"]
  let body ← ph .statementExpression
  let optional := body.shape = .blockLike || (← ended)
  return pattern ++ body.tokens ++ (← if optional then operator? "," else operator ",")

/-- Reads the arms of a match in their braces. -/
def matchArms (ph : Phrases) : Parser (List Token) :=
  group .brace (seq [inner ph, concatUntil atEnd (matchArm ph)])

/-- Reads a loop over what a pattern takes. -/
def forExpression (ph : Phrases) : Parser (List Token) :=
  seq [keyword "for", ph.tokens .alternatives, keyword "in", ph.tokens (.expression false),
    attributedBlock ph]

/-- Reads a loop with a condition. -/
def whileExpression (ph : Phrases) : Parser (List Token) :=
  seq [keyword "while", ph.tokens (.expression false), attributedBlock ph]

/-- Reads a loop or block after a label. -/
def labelledExpression (ph : Phrases) : Parser (List Token) := do
  let label ← seq [lifetime, operator ":"]
  let ts ← ahead
  let body ←
    if isWord "while" ts then whileExpression ph
    else if isWord "for" ts then forExpression ph
    else if isWord "loop" ts then seq [keyword "loop", attributedBlock ph]
    else if isBrace ts then attributedBlock ph
    else reject .loopOrBlock
  return label ++ body

/-- The expression that comes next if it ends a statement by itself. -/
def blockLike? (ph : Phrases) (ts : List Token) : Option (Parser (List Token)) :=
  let second := afterTree ts
  if isWord "if" ts then some (ifExpression ph)
  else if isWord "while" ts then some (whileExpression ph)
  else if isWord "for" ts && !beginsParams second then some (forExpression ph)
  else if isWord "loop" ts then some (seq [keyword "loop", attributedBlock ph])
  else if isWord "match" ts then
    some (seq [keyword "match", ph.tokens (.expression false), matchArms ph])
  else if isWord "try" ts && isBrace second then some (seq [keyword "try", block ph])
  else if isWord "unsafe" ts then some (seq [keyword "unsafe", attributedBlock ph])
  else if isWord "const" ts && isBrace second then some (constBlock ph)
  else if isBrace ts then some (attributedBlock ph)
  else if isLifetime ts then some (labelledExpression ph)
  else none

/-! ## Operands -/

/-- Reads an expression if one begins and `allowed` holds. -/
def optionalExpression (ph : Phrases) (allowed : Bool) : Parser (List Token) :=
  when? (fun ts => allowed && beginsExpression ts) (ph.tokens (.expression true))

/-- Reads the end of a range, which may be left open. -/
def operandAfter (ph : Phrases) (braces : Bool) (precedence : Precedence) :
    Parser (List Token) := do
  let first ← ph (.operand braces)
  loop (fun (read, shape) => do
    let next := nextPrecedence (← ahead)
    if next.rank > precedence.rank || (next = precedence && precedence = .assign) then
      let more ← ph (.operators shape next braces)
      if more.tokens.isEmpty then return .inr read
      else return .inl (read ++ more.tokens, more.shape)
    else return .inr read) (first.tokens, first.shape)

/-- Reads the operator of a range and its end, which may be left open. -/
def rangeAfter (ph : Phrases) (braces : Bool) : Parser (List Token) := do
  let (dots, closed) ← rangeOperator
  let unbounded := !closed && endsRange braces (← ahead)
  return dots ++ (← if unbounded then pure [] else operandAfter ph braces .range)

/-- Reads a parameter of a closure. Without a type, one that keeps the spacing of its source loses
its attributes. -/
def closureParam (ph : Phrases) : Parser (List Token) := do
  let attributes ← outer ph
  let pattern ← ph .pattern
  let type ← when? (isOp ":") (seq [operator ":", ph.tokens (.type true)])
  let attributes := if pattern.shape = .verbatim && type.isEmpty then [] else attributes
  return attributes ++ pattern.tokens ++ type

/-- Reads a closure. With a return type its body is a block. -/
def closure (ph : Phrases) (braces : Bool) : Parser (List Token) := do
  let modifiers ← seq [binder? ph, keyword? "const", keyword? "static", keyword? "async",
    keyword? "move", operator "|"]
  let params ← separated (isOp "|") "," (closureParam ph)
  let closing ← operator "|"
  let body ←
    if isOp "->" (← ahead) then seq [operator "->", ph.tokens (.type true), block ph]
    else ph.tokens (.expression braces)
  return modifiers ++ params.tokens (Generated.operator ",") id ++ closing ++ body

/-- A closure begins. -/
def beginsClosure (ts : List Token) : Bool :=
  let second := afterTree ts
  isOp "|" ts || isWord "move" ts || (isWord "for" ts && beginsParams second)
    || (isWord "const" ts && !isBrace second) || isWord "static" ts
    || (isWord "async" ts && (isOp "|" second || isWord "move" second))

/-- A block that runs later begins. -/
def beginsAsyncBlock (ts : List Token) : Bool :=
  let second := afterTree ts
  isWord "async" ts && (isBrace second || (isWord "move" second && isBrace (afterTree second)))

/-- Reads a field of a struct literal. A name alone stands for its value too. -/
def fieldValue (ph : Phrases) : Parser (List Token) := do
  let attributes ← outer ph
  let (field, named) ← member
  if isOp ":" (← ahead) || !named then
    return attributes ++ field ++ (← seq [operator ":", ph.tokens (.expression true)])
  else return attributes ++ field

/-- Reads the fields of a struct literal, up to the value for all others or the end. -/
def fieldValues (ph : Phrases) : Parser (List Token) :=
  loop (fun read => do
    let ts ← ahead
    if atEnd ts then return .inr read
    else if isOp ".." ts then
      return .inr (read ++
        (← seq [operator "..", when? (!atEnd ·) (ph.tokens (.expression true))]))
    else
      let read := read ++ (← fieldValue ph)
      if atEnd (← ahead) then return .inr read else return .inl (read ++ (← operator ","))) []

/-- The shape of a macro call with the given brackets. -/
def macroShape (arguments : List Token) : Shape :=
  if isBrace arguments then .braceMacro else .otherMacro

/-- Reads what starts with a path: a macro call, a struct literal or the path itself. -/
def pathExpression (ph : Phrases) (braces : Bool) : Parser Fragment := do
  let p ← qualifiedPath ph true
  let ts ← ahead
  if !p.qualified && isOp "!" ts && !isOp "!=" ts && !p.generic then
    let bang ← operator "!"
    let arguments ← anyGroup
    return ⟨p.tokens ++ bang ++ arguments, macroShape arguments⟩
  else if braces && isBrace ts then
    return ⟨p.tokens ++ (← group .brace (fieldValues ph)), .plain⟩
  else return ⟨p.tokens, .plain⟩

/-- Reads an array, by its elements or by one of them and how often it comes. -/
def arrayExpression (ph : Phrases) : Parser (List Token) :=
  group .bracket do
    if ← ended then return []
    else
      let first ← ph.tokens (.expression true)
      let ts ← ahead
      if atEnd ts then return first
      else if isOp "," ts then
        return first ++
          (← seq [operator ",", commaSeparated (ph.tokens (.expression true))])
      else if isOp ";" ts then
        return first ++ (← seq [operator ";", ph.tokens (.expression true)])
      else reject .commaOrSemicolon

/-- Reads a jump out of a loop. A labelled loop as its value needs parentheses. -/
def breakExpression (ph : Phrases) (braces : Bool) : Parser (List Token) := do
  let jump ← keyword "break"
  let ts ← ahead
  if isLifetime ts && isOp ":" (afterTree ts) then
    let start ← here
    let value ← verbatim (ph (.expression true))
    rejectAt .parenthesesRequired (start.join ((value.getLast?.map Token.span).getD start))
  else
    let label ← when? isLifetime lifetime
    let value ← when? (fun ts => beginsExpression ts && (braces || !isBrace ts))
      (ph.tokens (.expression true))
    return jump ++ label ++ value

/-- Reads a pattern that is matched as a condition. -/
def letExpression (ph : Phrases) (braces : Bool) : Parser (List Token) := do
  let start ← seq [keyword "let", ph.tokens .alternatives, operator "="]
  let first ← ph (.operand braces)
  return start ++ first.tokens ++ (← ph.tokens (.operators first.shape .compare braces))

/-- Reads an operand without the operators in front of it and what follows it. -/
def atom (ph : Phrases) (braces : Bool) : Parser Fragment := do
  let ts ← ahead
  let second := afterTree ts
  if isLiteral ts then return ⟨← literal, .plain⟩
  else if beginsAsyncBlock ts then
    return ⟨← seq [keyword "async", keyword? "move", block ph], .plain⟩
  else if let some p := blockLike? ph ts then return ⟨← p, .blockLike⟩
  else if beginsClosure ts then return ⟨← closure ph braces, .plain⟩
  else if beginsBuiltin ts then return ⟨← verbatim builtin, .verbatim⟩
  else if isPathWord ts || isOp "::" ts || isOp "<" ts
      || (isWord "try" ts && (isOp "!" second || isOp "::" second)) then
    pathExpression ph braces
  else if isParen ts then
    return ⟨← group .parenthesis (commaSeparated (ph.tokens (.expression true))), .plain⟩
  else if isWord "break" ts then return ⟨← breakExpression ph braces, .plain⟩
  else if isWord "continue" ts then
    return ⟨← seq [keyword "continue", when? isLifetime lifetime], .plain⟩
  else if isWord "return" ts || isWord "yield" ts then
    return ⟨← seq [anyWord, optionalExpression ph true], .plain⟩
  else if isWord "become" ts then
    return ⟨← verbatim (seq [anyWord, ph.tokens (.expression true)]), .verbatim⟩
  else if isBracket ts then return ⟨← arrayExpression ph, .plain⟩
  else if isWord "let" ts then return ⟨← letExpression ph braces, .plain⟩
  else if isOp ".." ts then return ⟨← rangeAfter ph braces, .range⟩
  else if isWord "_" ts then return ⟨← anyWord, .plain⟩
  else reject .expression

/-! ## Calls, fields and indices -/

/-- The numbers of nested fields that were read as one number with a point. -/
def nestedIndices (n : FieldNumber) : Except Diagnostic (List Token) := do
  let parts := n.text.splitOn "."
  let parts := if parts.getLast? = some "" then parts.dropLast else parts
  let indices ← parts.mapM fun part => FieldNumber.index { n with text := part }
  return Listed.between (Generated.operator ".") indices

/-- Reads a field, a method call or `await` after a dot. -/
def afterDot (ph : Phrases) : Parser (List Token) := do
  let field ←
    if isWord "await" (← ahead) then pure (← keyword "await", false)
    else member
  let turbofish ← if field.2 then when? (isOp "::") ((·.1) <$> turbofish ph) else pure []
  let arguments ←
    if !turbofish.isEmpty || (field.2 && isParen (← ahead)) then
      group .parenthesis (commaSeparated (ph.tokens (.expression true)))
    else pure []
  return field.1 ++ turbofish ++ arguments

/-- Reads a dot and what follows it. -/
def dotted (ph : Phrases) : Parser (List Token) := do
  let dot ← operator "."
  if Terminal.float.starts (← ahead) then
    let number ← fieldNumber
    let indices ← nestedIndices number
    if number.text.endsWith "." then
      return dot ++ indices ++ Generated.operator "." ++ (← afterDot ph)
    else return dot ++ indices
  else return dot ++ (← afterDot ph)

/-- Reads what follows an operand. Nothing but a call or an index follows a range. -/
def trailers (ph : Phrases) (first : Fragment) : Parser Fragment :=
  loop (fun (e : Fragment) => do
    let ts ← ahead
    let isRange := e.shape = .range
    if isParen ts then
      let arguments ← group .parenthesis (commaSeparated (ph.tokens (.expression true)))
      return .inl ⟨e.tokens ++ arguments, .plain⟩
    else if isDot ts && !isRange then return .inl ⟨e.tokens ++ (← dotted ph), .plain⟩
    else if isBracket ts then
      return .inl ⟨e.tokens ++ (← group .bracket (ph.tokens (.expression true))), .plain⟩
    else if isOp "?" ts && !isRange then return .inl ⟨e.tokens ++ (← operator "?"), .plain⟩
    else return .inr e) first

/-! ## Operators -/

/-- Reads a reference, perhaps a raw one. -/
def referenceExpression (ph : Phrases) (braces : Bool) : Parser (List Token) := do
  let start ← operator "&"
  let ts ← ahead
  let second := afterTree ts
  let raw ←
    if isWord "raw" ts && (isWord "mut" second || isWord "const" second) then seq [anyWord, anyWord]
    else keyword? "mut"
  return start ++ raw ++ (← ph.tokens (.operand braces))

/-- Reads an operand with the attributes and operators in front of it and what follows it. One that
keeps the spacing of its source keeps it from the attributes on. -/
def operand (ph : Phrases) (braces : Bool) : Parser Fragment := do
  let before ← ahead
  let attributes ← outer ph
  let ts ← ahead
  if isOp "&" ts then return ⟨attributes ++ (← referenceExpression ph braces), .plain⟩
  else if isOp "*" ts || isOp "!" ts || isOp "-" ts then
    let sign ← if isOp "*" ts then operator "*" else if isOp "!" ts then operator "!"
      else operator "-"
    return ⟨attributes ++ sign ++ (← ph.tokens (.operand braces)), .plain⟩
  else
    let e ← trailers ph (← atom ph braces)
    if e.shape = .verbatim then return ⟨← since before, .verbatim⟩
    else if e.shape = .range && !attributes.isEmpty then
      let dots := if isOp "..=" ts then 3 else 2
      rejectAt .rangeAttributes (spanOf (ts.take dots) .outside)
    else return ⟨attributes ++ e.tokens, e.shape⟩

/-- Reads the operators after an operand of the given shape, down to the precedence `base`. -/
def operators (ph : Phrases) (left : Shape) (base : Precedence) (braces : Bool) :
    Parser Fragment :=
  loop (fun (e : Fragment) => do
    let ts ← ahead
    if e.shape = .range then return .inr e
    else
      match binaryOperator? ts with
      | some (text, precedence) =>
        if precedence.rank < base.rank then return .inr e
        else if precedence = .compare && e.shape = .comparison then reject .chainedComparison
        else
          let sign ← operator text
          let right ← operandAfter ph braces precedence
          return .inl ⟨e.tokens ++ sign ++ right,
            if precedence = .compare then .comparison else .plain⟩
      | none =>
        if Precedence.assign.rank ≥ base.rank && isAssignment ts then
          let sign ← operator "="
          return .inl ⟨e.tokens ++ sign ++ (← operandAfter ph braces .assign), .plain⟩
        else if Precedence.range.rank ≥ base.rank && isOp ".." ts then
          return .inl ⟨e.tokens ++ (← rangeAfter ph braces), .range⟩
        else if isWord "as" ts then
          let cast ← seq [keyword "as", ph.tokens (.type false)]
          match afterCast? (← ahead) with
          | some what => reject (.castFollowedBy what)
          | none => return .inl ⟨e.tokens ++ cast, .plain⟩
        else return .inr e) ⟨[], left⟩

/-- Reads an expression. -/
def expression (ph : Phrases) (braces : Bool) : Parser Fragment := do
  let first ← operand ph braces
  let others ← operators ph first.shape .lowest braces
  return ⟨first.tokens ++ others.tokens, others.shape⟩

/-- Reads an expression that ends early if it can stand as a statement by itself. Only a dot or a
question mark goes on after such a one. If the first operand keeps the spacing of its source, the
attributes in front of it are lost, other than those of a statement that is a range. -/
def expressionAfter (ph : Phrases) (attributes : List Token) (statement : Bool) :
    Parser Fragment := do
  match blockLike? ph (← ahead) with
  | some p =>
    let e : Fragment := ⟨attributes ++ (← p), .blockLike⟩
    let ts ← ahead
    if isDot ts || isOp "?" ts then
      let e ← trailers ph e
      let others ← operators ph e.shape .lowest true
      return ⟨e.tokens ++ others.tokens, others.shape⟩
    else return e
  | none =>
    let first ← operand ph true
    let others ← operators ph first.shape .lowest true
    let lost := first.shape = .verbatim && !(statement && others.shape = .range)
    return ⟨(if lost then [] else attributes) ++ first.tokens ++ others.tokens, others.shape⟩

/-- Reads an expression with its attributes that ends early if it can stand as a statement. -/
def statementExpression (ph : Phrases) : Parser Fragment := do
  expressionAfter ph (← outer ph) false

end Memberwise.Parser
