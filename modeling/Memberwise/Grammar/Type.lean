import Memberwise.Grammar.Path

/-!
# Types and bounds

## Main definitions

* `Parser.bound`: a bound of a type or lifetime
* `Parser.type`: a type
-/

namespace Memberwise.Parser

/-! ## Bounds -/

/-- The place of the name of a lifetime. -/
def nameSpan (lifetime : List Token) : Span := spanOf (lifetime.drop 1) .outside

/-- Reads `[const]` or `const` in front of a trait, and tells whether it is there. -/
def constModifier (allowed : Bool) : Parser Bool := do
  let ts ← ahead
  if isBracket ts then
    let (opening, _, closing) ← bracketed .bracket (keyword "const")
    if allowed then return true
    else rejectAt .misplacedConditionalConst (opening.span.join closing.span)
  else if isWord "const" ts then
    let start ← here
    let _ ← keyword "const"
    if allowed then return true else rejectAt .misplacedConst start
  else return false

/-- Reads a trait with what stands in front of it, and tells whether `const` does. -/
def traitBound (ph : Phrases) (const : Bool) : Parser (List Token × Bool) := do
  let before ← binder? ph
  let isConst ← constModifier const
  let start ← here
  let modifier ← operator? "?"
  let after ← if before.isEmpty && !modifier.isEmpty then binder? ph else pure []
  let trait ← traitPath ph
  if !modifier.isEmpty && !(before ++ after).isEmpty then rejectAt .binderWithModifier start
  else return (modifier ++ before ++ trait, isConst)

/-- Reads a parameter that is captured, and tells whether it is a lifetime. -/
def capturedParam : Parser (Bool × List Token) := do
  if isLifetime (← ahead) then return (true, ← lifetime) else return (false, ← anyWord)

/-- Reads `use` and the parameters that are captured, the lifetimes of which are written first. -/
def preciseCapture : Parser (List Token) := do
  let opening ← seq [keyword "use", operator "<"]
  let params : Listed (Bool × List Token) ← loop (fun params => do
    let ts ← ahead
    if isOp ">" ts then return .inr ⟨params.reverse, !params.isEmpty⟩
    else if isLifetime ts || isIdent ts || isWord "Self" ts then
      let params := (← capturedParam) :: params
      let ts ← ahead
      if isOp "," ts then
        let _ ← operator ","
        return .inl params
      else if isOp ">" ts then return .inr ⟨params.reverse, false⟩
      else expected [.operator ",", .operator ">"]
    else expected [.lifetime, .identifier, .operator ">"]) []
  let closing ← operator ">"
  return opening ++ (params.sortedBy (·.1)).tokens (Generated.operator ",") (·.2) ++ closing

/-- Reads a bound. One that is `const` keeps the spacing of its source. -/
def bound (ph : Phrases) (capture const : Bool) : Parser Fragment := do
  let ts ← ahead
  if isLifetime ts then
    let tokens ← lifetime
    return ⟨tokens, .otherBound (nameSpan tokens)⟩
  else if isWord "use" ts then
    let start ← here
    let tokens ← preciseCapture
    let last := (tokens.getLast?.map Token.span).getD start
    if capture then return ⟨tokens, .otherBound last⟩
    else rejectAt .misplacedCapture (start.join last)
  else
    let (tokens, isConst) ←
      if isParen ts then
        let (opening, (tokens, isConst), closing) ← bracketed .parenthesis (traitBound ph const)
        pure (opening :: tokens ++ [closing], isConst)
      else traitBound ph const
    if isConst then return ⟨← since ts, .traitBound⟩ else return ⟨tokens, .traitBound⟩

/-- After a plus sign, another bound begins. -/
def beginsBound (const : Bool) (ts : List Token) : Bool :=
  Terminal.word.starts ts || isOp "::" ts || isOp "?" ts || isLifetime ts || isParen ts
    || (const && isBracket ts)

/-- Reads bounds with plus signs between them, and gives the shape of each. -/
def sumOfBounds (ph : Phrases) (plus capture const : Bool) : Parser (List Token × List Shape) :=
  loop (fun (tokens, shapes) => do
    let b ← bound ph capture const
    let tokens := tokens ++ b.tokens
    let shapes := shapes ++ [b.shape]
    if plus && isOp "+" (← ahead) then
      let tokens := tokens ++ (← operator "+")
      if beginsBound const (← ahead) then return .inl (tokens, shapes)
      else return .inr (tokens, shapes)
    else return .inr (tokens, shapes)) ([], [])

/-- Reads bounds of which one has to be a trait. Otherwise they are rejected for `cause`, from
`start` to the end of the last. -/
def boundsWithTrait (ph : Phrases) (plus capture const : Bool) (cause : Cause) (start : Span) :
    Parser (List Token) := do
  let (tokens, shapes) ← sumOfBounds ph plus capture const
  if shapes.contains .traitBound then return tokens
  else
    match shapes.getLast? with
    | some (.otherBound last) => rejectAt cause (start.join last)
    | _ => rejectAt cause start

/-! ## Types -/

/-- Reads a plus sign and a bound, as often as a plus sign comes. -/
def moreBounds (ph : Phrases) : Parser (List Token) :=
  concatUntil (!isOp "+" ·) (seq [operator "+", ph.tokens (.bound false false)])

/-- Reads the contents of parentheses in a type, and tells whether plus signs may follow even where
a sum is not allowed. -/
def parenthesisedContent (ph : Phrases) : Parser (Fragment × Bool) := do
  let ts ← ahead
  if atEnd ts then return (⟨[], .plain⟩, false)
  else if isLifetime ts then
    let bounds ← boundsWithTrait ph true false false .objectWithoutTrait (← here)
    return (⟨bounds, .parenthesised⟩, false)
  else if isOp "?" ts then
    let (bound, _) ← traitBound ph false
    return (⟨bound, .soleBound bound⟩, true)
  else
    let first ← ph (.type true)
    if isOp "," (← ahead) then
      let others ← seq [operator ",", commaSeparated (ph.tokens (.type true))]
      return (⟨first.tokens ++ others, .plain⟩, false)
    else return (⟨first.tokens, match first.shape with
      | .name | .path => .soleBound first.tokens
      | .soleBound core => .soleBound core
      | _ => .parenthesised⟩, false)

/-- Reads what starts with a group in parentheses: a tuple, a type in parentheses, or a sum of
bounds of which the first is in parentheses. -/
def parenthesisedType (ph : Phrases) (plus : Bool) : Parser Fragment :=
  bracketedThen .parenthesis (parenthesisedContent ph) fun opening (content, sum) closing => do
    let whole (inner : List Token) := opening :: inner ++ [closing]
    match content.shape, sum with
    | .soleBound core, true =>
      let others ← moreBounds ph
      return ⟨whole core ++ others, if others.isEmpty then .soleBound core else .plain⟩
    | .soleBound core, false =>
      if plus && isOp "+" (← ahead) then return ⟨whole core ++ (← moreBounds ph), .plain⟩
      else return ⟨whole content.tokens, .parenthesised⟩
    | .parenthesised, _ => return ⟨whole content.tokens, .parenthesised⟩
    | _, _ => return ⟨whole content.tokens, .plain⟩

/-- Reads what starts with a path: a path, a macro call or a sum of bounds. -/
def pathType (ph : Phrases) (plus : Bool) (lifetimes : List Token) : Parser Fragment := do
  let p ← qualifiedPath ph false
  let ts ← ahead
  if p.qualified then return ⟨lifetimes ++ p.tokens, .plain⟩
  else if isOp "!" ts && !isOp "!=" ts && !p.generic then
    return ⟨p.tokens ++ (← seq [operator "!", anyGroup]), .plain⟩
  else if !lifetimes.isEmpty || (plus && isOp "+" ts) then
    let first := lifetimes ++ p.tokens
    let others ←
      if plus then
        loop (fun read => do
          if isOp "+" (← ahead) then
            let read := read ++ (← operator "+")
            if beginsBound false (← ahead) then
              return .inl (read ++ (← ph.tokens (.bound false false)))
            else return .inr read
          else return .inr read) []
      else pure []
    return ⟨first ++ others, if others.isEmpty then .soleBound first else .plain⟩
  else return ⟨p.tokens, p.shape⟩

/-- Reads the dots after the last argument of a function type, perhaps with a name. -/
def variadicArgument : Parser (List Token) := do
  let ts ← ahead
  let name ←
    if isIdent ts || isWord "_" ts then seq [anyWord, operator ":"] else pure []
  return name ++ (← seq [operator "...", operator? ","])

/-- The words `mut self` come next. -/
def isMutSelf (ts : List Token) : Bool := isWord "mut" ts && isWord "self" (afterTree ts)

/-- Reads an argument of a function type. The first may be `self` without a type, and `mut self` may
stand in its place or in that of its type. With `mut` it keeps the spacing of its source. -/
def functionTypeArgument (ph : Phrases) (first : Bool) : Parser (List Token) := do
  let attributes ← outer ph
  let before ← ahead
  let mutSelf := first && isMutSelf before
  if mutSelf then
    let _ ← keyword "mut"
  let ts ← ahead
  let named := (isIdent ts || isWord "_" ts || (first && isWord "self" ts))
    && isOp ":" (afterTree ts) && !isOp "::" (afterTree ts)
  let name ← if named then seq [anyWord, operator ":"] else pure []
  if first && !isWord "self" ts && isMutSelf (← ahead) then
    let _ ← seq [keyword "mut", keyword "self"]
    return attributes ++ (← since before)
  else if mutSelf then
    if named then
      let _ ← ph.tokens (.type true)
    else
      let _ ← keyword "self"
    return attributes ++ (← since before)
  else return attributes ++ name ++ (← ph.tokens (.type true))

/-- The last argument of a function type begins, with dots. -/
def beginsVariadic (ts : List Token) : Bool :=
  isOp "..." ts
    || ((isIdent ts || isWord "_" ts) && isOp ":" (afterTree ts)
      && isOp "..." (afterTree (afterTree ts)))

/-- Reads the arguments of a function type. -/
def functionTypeArguments (ph : Phrases) : Parser (List Token) :=
  loop (fun (read, first) => do
    if atEnd (← ahead) then return .inr read
    else
      let attributes ← outer ph
      if beginsVariadic (← ahead) then return .inr (read ++ attributes ++ (← variadicArgument))
      else
        let read := read ++ attributes ++ (← functionTypeArgument ph first)
        if atEnd (← ahead) then return .inr read
        else return .inl (read ++ (← operator ","), false)) ([], true)

/-- Reads `extern` and the name of a calling convention, if the word comes next. -/
def abi? : Parser (List Token) :=
  when? (isWord "extern") (seq [keyword "extern", when? Terminal.string.starts literal])

/-- Reads a function type. -/
def functionType (ph : Phrases) : Parser (List Token) := do
  let head ← seq [binder? ph, keyword? "unsafe", abi?, keyword "fn"]
  bracketedThen .parenthesis (functionTypeArguments ph) fun opening arguments closing => do
    return head ++ opening :: arguments ++ closing :: (← returnType ph false)

/-- A type that the compiler has built in begins. -/
def beginsBuiltin (ts : List Token) : Bool := isWord "builtin" ts && isOp "#" (afterTree ts)

/-- Reads what the compiler has built in: a name and arguments that are not looked into. -/
def builtin : Parser (List Token) :=
  seq [keyword "builtin", operator "#", identifier, group .parenthesis remaining]

/-- Reads a type behind a raw pointer. -/
def pointerType (ph : Phrases) : Parser (List Token) := do
  let star ← operator "*"
  let ts ← ahead
  let target ←
    if isWord "const" ts || isWord "mut" ts then take 1
    else expected [.keyword "const", .keyword "mut"]
  return star ++ target ++ (← ph.tokens (.type false))

/-- Reads a slice or an array. -/
def bracketType (ph : Phrases) : Parser (List Token) :=
  group .bracket (seq [ph.tokens (.type true),
    when? (isOp ";") (seq [operator ";", ph.tokens (.expression true)])])

/-- Reads a trait object after `dyn`. One with a star keeps the spacing of its source. -/
def traitObject (ph : Phrases) (plus : Bool) : Parser (List Token) := do
  let before ← ahead
  let start ← here
  let opening ← keyword "dyn"
  let star ← operator? "*"
  let bounds ← boundsWithTrait ph plus false false .objectWithoutTrait start
  if star.isEmpty then return opening ++ bounds else since before

/-- A path in a type begins, reserved words included. -/
def beginsTypePath (ts : List Token) : Bool :=
  isPathWord ts || isOp "::" ts || isOp "<" ts

/-- A function type begins. -/
def beginsFunctionType (ts : List Token) : Bool :=
  isWord "fn" ts || isWord "unsafe" ts || isWord "extern" ts

/-- Reads a type. -/
def type (ph : Phrases) (plus : Bool) : Parser Fragment := do
  if isWord "for" (← ahead) then
    let before ← ahead
    let lifetimes ← binder ph
    let ts ← ahead
    if beginsFunctionType ts then return ⟨lifetimes ++ (← functionType ph), .plain⟩
    else if beginsBuiltin ts then
      let _ ← builtin
      return ⟨← since before, .plain⟩
    else if isPathWord ts then pathType ph plus lifetimes
    else
      expected [.identifier, .keyword "fn", .keyword "unsafe", .keyword "extern", .keyword "super",
        .keyword "self", .keyword "Self", .keyword "crate"]
  else
    let ts ← ahead
    let start ← here
    if isParen ts then parenthesisedType ph plus
    else if beginsFunctionType ts then return ⟨← functionType ph, .plain⟩
    else if beginsBuiltin ts then return ⟨← verbatim builtin, .plain⟩
    else if beginsTypePath ts then pathType ph plus []
    else if isWord "dyn" ts then return ⟨← traitObject ph plus, .plain⟩
    else if isBracket ts then return ⟨← bracketType ph, .plain⟩
    else if isOp "*" ts then return ⟨← pointerType ph, .plain⟩
    else if isOp "&" ts then
      return ⟨← seq [operator "&", when? isLifetime lifetime, keyword? "mut",
        ph.tokens (.type false)], .plain⟩
    else if isOp "!" ts then return ⟨← operator "!", .plain⟩
    else if isWord "impl" ts then
      let opening ← keyword "impl"
      let bounds ← boundsWithTrait ph plus true true .implWithoutTrait start
      return ⟨opening ++ bounds, .plain⟩
    else if isWord "_" ts then return ⟨← anyWord, .plain⟩
    else if isLifetime ts then
      return ⟨← boundsWithTrait ph true false false .objectWithoutTrait start, .plain⟩
    else
      expected [.keyword "for", .group .parenthesis, .keyword "fn", .keyword "unsafe",
        .keyword "extern", .identifier, .operator "::", .operator "<", .keyword "dyn",
        .group .bracket, .operator "*", .operator "&", .operator "!", .keyword "impl",
        .keyword "_", .lifetime]

end Memberwise.Parser
