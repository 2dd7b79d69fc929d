import Memberwise.Grammar.Expression
import Memberwise.Visibility

/-!
# Functions

The head of a function in its parts, and its body.

## Main definitions

* `Argument`, `Signature`, `Block`
* `Parser.signature`, `Parser.functionBody`
-/

namespace Memberwise

/-- An argument of a function. -/
inductive Argument where
  /-- The value that a method is called on, with its reference, modifier and type. -/
  | receiver (attributes : List Attribute) (tokens : List Token)
  | typed (attributes : List Attribute) (pattern : List Token) (type : List Token)
  /-- All further arguments, perhaps with a pattern and a colon in front of the dots. -/
  | variadic (attributes : List Attribute) (pattern : List Token)
  deriving DecidableEq, Repr

/-- The tokens of the argument. -/
def Argument.tokens : Argument → List Token
  | receiver attributes tokens => Attribute.listTokens attributes ++ tokens
  | typed attributes pattern type =>
    Attribute.listTokens attributes ++ pattern ++ Generated.operator ":" ++ type
  | variadic attributes pattern =>
    Attribute.listTokens attributes ++ pattern ++ Generated.operator "..."

/-- The argument is what a method is called on. -/
def Argument.isReceiver : Argument → Bool
  | receiver .. => true
  | _ => false

/-- The head of a function. -/
structure Signature where
  /-- What stands in front of `fn`. -/
  modifiers : List Token
  keyword : Name
  name : Name
  generics : Generics
  inputs : Listed Argument
  /-- The return type after its arrow, or nothing. -/
  output : List Token
  deriving DecidableEq, Repr

/-- The tokens of the head. -/
def Signature.tokens (s : Signature) : List Token :=
  s.modifiers ++ s.keyword.tokens ++ s.name.tokens ++ s.generics.tokens
    ++ Generated.group .parenthesis (s.inputs.tokens (Generated.operator ",") Argument.tokens)
    ++ s.output ++ s.generics.whereTokens

/-- The attributes of what a block belongs to, and its statements. -/
structure Block where
  attributes : List Attribute
  statements : List Token
  deriving DecidableEq, Repr

/-- The tokens of the block, with its braces. -/
def Block.tokens (b : Block) : List Token :=
  Generated.group .brace (Attribute.listTokens b.attributes ++ b.statements)

namespace Parser

/-! ## Arguments -/

/-- Reads `self` as an argument of a function, and gives its place. -/
def receiver (ph : Phrases) : Parser (List Token × Span) := do
  let reference ← when? (isOp "&") (seq [operator "&", when? isLifetime lifetime])
  let mutability ← keyword? "mut"
  let place ← here
  let self ← keyword "self"
  let type ←
    if reference.isEmpty then when? (isOp ":") (seq [operator ":", ph.tokens (.type true)])
    else pure []
  return (reference ++ mutability ++ self ++ type, place)

/-- Reads a comma, if the group goes on, and tells whether it does. -/
def trailingComma : Parser Bool := do
  if ← ended then return false
  else
    let _ ← operator ","
    return true

/-- Reads an argument of a function that is not `self`. A type alone stands for an argument without
a name. -/
def typedArgument (ph : Phrases) (attributes : List Attribute) : Parser Argument := do
  let ts ← ahead
  if isIdent ts && isOp "<" (afterTree ts) then
    return .typed attributes (Generated.word "_") (← ph.tokens (.type true))
  else
    let pattern ← ph.tokens .pattern
    let colon ← operator ":"
    if isOp "..." (← ahead) then
      let _ ← operator "..."
      return .variadic attributes (pattern ++ colon)
    else return .typed attributes pattern (← ph.tokens (.type true))

/-- Reads an argument of a function. Only the first of those, `read` in reverse, may be `self`. -/
def functionArgument (ph : Phrases) (read : List Argument) : Parser Argument := do
  let attributes ← outerAttributes ph
  if isOp "..." (← ahead) then
    let _ ← operator "..."
    return .variadic attributes []
  else
    let self? := match receiver ph (← get) with
      | .ok (result, after) => if isOp "::" after.tokens then none else some (result, after)
      | .error _ => none
    match self? with
    | some ((tokens, place), after) =>
      set after
      if read.any Argument.isReceiver then rejectAt .secondReceiver place
      else if !read.isEmpty then rejectAt .lateReceiver place
      else return .receiver attributes tokens
    | none => typedArgument ph attributes

/-- Reads the arguments of a function. Nothing follows the dots. -/
def functionArguments (ph : Phrases) : Parser (Listed Argument) :=
  loop (fun read => do
    if ← ended then return .inr ⟨read.reverse, !read.isEmpty⟩
    else
      let argument ← functionArgument ph read
      let read := argument :: read
      let comma ← trailingComma
      if argument matches .variadic .. then return .inr ⟨read.reverse, comma⟩
      else if comma then return .inl read
      else return .inr ⟨read.reverse, false⟩) []

/-! ## Heads and bodies -/

/-- The stream after the word, if it comes next. -/
def pastWord (text : String) (ts : List Token) : List Token :=
  if isWord text ts then afterTree ts else ts

/-- What stands in front of `fn`, and `fn`. A foreign function may be `safe` as well. -/
def beginsFunction (safe : Bool) (ts : List Token) : Bool :=
  let ts := pastWord "async" (pastWord "const" ts)
  let ts := if safe && isWord "safe" ts then afterTree ts else pastWord "unsafe" ts
  let ts :=
    if isWord "extern" ts then
      let ts := afterTree ts
      if Terminal.string.starts ts then afterTree ts else ts
    else ts
  isWord "fn" ts

/-- Reads the head of a function. -/
def signature (ph : Phrases) : Parser Signature := do
  let modifiers ← seq [keyword? "const", keyword? "async", keyword? "unsafe", abi?]
  let fn ← itemKeyword "fn"
  let name ← name
  let params ← generics ph
  bracketedThen .parenthesis (functionArguments ph) fun _ inputs _ => do
    let output ← returnType ph true
    let condition ← whereClause? ph
    return ⟨modifiers, fn, name, { params with whereClause := condition }, inputs, output⟩

/-- Reads the body of a function. -/
def functionBody (ph : Phrases) : Parser Block :=
  inside .brace do return ⟨← innerAttributes ph, ← ph.tokens .statements⟩

end Parser

end Memberwise
