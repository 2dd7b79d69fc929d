import Memberwise.Generics

/-!
# Paths

Paths whose segments may have arguments. In types the angle brackets follow a name directly; in
expressions `::` has to come between. Lifetime arguments are written first.

## Main definitions

* `Path`: a path that has been read, and what the grammar asks about it
* `Parser.path`, `Parser.qualifiedPath`
* `Parser.traitPath`: a path that may end with arguments in parentheses
-/

namespace Memberwise

/-- A segment of a path. -/
structure Segment where
  name : List Token
  /-- Arguments in angle brackets, perhaps with `::` in front, or nothing. -/
  arguments : List Token
  /-- There is an argument, and not only brackets around nothing. -/
  applied : Bool
  deriving Repr

/-- The tokens of a path, and what the grammar asks about it. -/
structure Path where
  /-- The tokens in front of the last segment. -/
  front : List Token
  last : Segment
  /-- The number of segments after the one in which the path starts. -/
  more : Nat
  /-- The path starts with `::` or with a self type in angle brackets. -/
  rooted : Bool
  /-- The path starts with a self type. -/
  qualified : Bool
  /-- A segment has angle brackets. -/
  generic : Bool
  deriving Repr

namespace Path

/-- The tokens of the path. -/
def tokens (p : Path) : List Token := p.front ++ p.last.name ++ p.last.arguments

/-- The shape of a type that is the path. -/
def shape (p : Path) : Shape :=
  if p.qualified then .plain
  else if p.more = 0 && !p.rooted then .name
  else .path

/-- The path with one more segment after `colons`. -/
def add (p : Path) (colons : List Token) (s : Segment) : Path :=
  { p with
    front := p.tokens ++ colons, last := s, more := p.more + 1,
    generic := p.generic || !s.arguments.isEmpty }

end Path

namespace Parser

/-! ## Arguments -/

/-- Reads an argument in angle brackets, and tells whether it is a lifetime. -/
def genericArgument (ph : Phrases) : Parser (Bool × List Token) := do
  let ts ← ahead
  if isLifetime ts && !isOp "+" (afterTree ts) then return (true, ← lifetime)
  else if isLiteral ts || isBrace ts then return (false, ← constArgument ph)
  else
    let type ← ph (.type true)
    let ts ← ahead
    if type.shape = .name && isOp "=" ts then
      let equals ← operator "="
      let ts ← ahead
      let value ←
        if isLiteral ts || isBrace ts then constArgument ph else ph.tokens (.type true)
      return (false, type.tokens ++ equals ++ value)
    else if type.shape = .name && isOp ":" ts then
      let colon ← operator ":"
      let bounds ← bounds endsArgument (ph.tokens (.bound false true))
      return (false, type.tokens ++ colon ++ bounds.tokens (Generated.operator "+") id)
    else return (false, type.tokens)

/-- Reads arguments in angle brackets, and tells whether there are any. -/
def genericArguments (ph : Phrases) : Parser (List Token × Bool) := do
  let opening ← operator "<"
  let arguments ← separated (isOp ">") "," (genericArgument ph)
  let closing ← operator ">"
  return (opening ++ (arguments.sortedBy (·.1)).tokens (Generated.operator ",") (·.2) ++ closing,
    !arguments.isEmpty)

/-- Reads arguments in angle brackets after `::`, and tells whether there are any. -/
def turbofish (ph : Phrases) : Parser (List Token × Bool) := do
  let colons ← operator "::"
  let (arguments, applied) ← genericArguments ph
  return (colons ++ arguments, applied)

/-- Reads the type after an arrow, if there is one. -/
def returnType (ph : Phrases) (plus : Bool) : Parser (List Token) :=
  when? (isOp "->") (seq [operator "->", ph.tokens (.type plus)])

/-! ## Segments -/

/-- Reads a segment. `style` is true in expressions. -/
def segment (ph : Phrases) (style : Bool) : Parser Segment := do
  let ts ← ahead
  if isWord "super" ts || isWord "self" ts || isWord "crate" ts || isWord "try" ts then
    return ⟨← take 1, [], false⟩
  else
    let name ← if isWord "Self" ts then take 1 else identifier
    let ts ← ahead
    let (arguments, applied) ←
      if !style && isAngle ts then genericArguments ph
      else if isOp "::" ts && isOp "<" (afterTree (afterTree ts)) then turbofish ph
      else pure ([], false)
    return ⟨name, arguments, applied⟩

/-- Reads one more segment after `::`. -/
def addSegment (ph : Phrases) (style : Bool) (p : Path) : Parser Path := do
  let colons ← operator "::"
  return p.add colons (← segment ph style)

/-- Reads a path without a self type. It ends in front of `::` and parentheses. -/
def path (ph : Phrases) (style : Bool) : Parser Path := do
  let leading ← operator? "::"
  let first ← segment ph style
  loop (fun p => do
    let ts ← ahead
    if isOp "::" ts && !isParen (afterTree (afterTree ts)) then
      return .inl (← addSegment ph style p)
    else return .inr p) ⟨leading, first, 0, !leading.isEmpty, false, !first.arguments.isEmpty⟩

/-- Reads a path that may start with a self type. -/
def qualifiedPath (ph : Phrases) (style : Bool) : Parser Path := do
  if isOp "<" (← ahead) then
    let self ← seq [operator "<", ph.tokens (.type true)]
    let trait ← when? (isWord "as") do return (← keyword "as") ++ (← path ph false).tokens
    let closing ← operator ">"
    let first ← addSegment ph style
      ⟨self ++ trait ++ closing, ⟨[], [], false⟩, 0, true, true, true⟩
    loop (fun p => do
      if isOp "::" (← ahead) then return .inl (← addSegment ph style p) else return .inr p) first
  else path ph style

/-! ## Arguments in parentheses -/

/-- Arguments in parentheses come next, perhaps after `::`. -/
def beginsArguments (ts : List Token) : Bool :=
  isParen ts || (isOp "::" ts && isParen (afterTree (afterTree ts)))

/-- Reads a path as the trait of a bound. If its last segment has no arguments yet, arguments in
parentheses and a return type may follow. Angle brackets around nothing and a `::` in front of the
parentheses are left out then. -/
def traitPath (ph : Phrases) : Parser (List Token) := do
  let p ← path ph false
  if !p.last.applied && beginsArguments (← ahead) then
    let _ ← operator? "::"
    let arguments ← group .parenthesis (commaSeparated (ph.tokens (.type true)))
    return p.front ++ p.last.name ++ arguments ++ (← returnType ph false)
  else return p.tokens

end Parser

end Memberwise
