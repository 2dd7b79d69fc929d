import Memberwise.Item.Associated

/-!
# Implementations

What a type implements: of a trait, or on its own. The functions are kept in their parts.

## Main definitions

* `ImplFunction`, `ImplItem`, `Implementation`
* `Implementation.tokens`
* `Parser.implementation?`
-/

namespace Memberwise

/-- A function with its body. -/
structure ImplFunction where
  attributes : List Attribute
  visibility : Visibility
  /-- The modifier `default`, or nothing. -/
  default : List Token
  signature : Signature
  body : Block
  deriving DecidableEq, Repr

/-- The tokens of the function. -/
def ImplFunction.tokens (f : ImplFunction) : List Token :=
  Attribute.listTokens f.attributes ++ f.visibility.tokens ++ f.default ++ f.signature.tokens
    ++ f.body.tokens

/-- An item of an implementation. -/
inductive ImplItem where
  | function (f : ImplFunction)
  /-- A constant, a type, a macro call, or a function without a body. -/
  | other (tokens : List Token)
  deriving DecidableEq, Repr

/-- The tokens of the item. -/
def ImplItem.tokens : ImplItem → List Token
  | function f => f.tokens
  | other tokens => tokens

/-- What a type implements. -/
structure Implementation where
  attributes : List Attribute
  /-- What stands in front of `impl`. -/
  modifiers : List Token
  keyword : Name
  generics : Generics
  /-- The trait that is implemented, with the mark that it is not, if there is one. -/
  trait : Option (List Token)
  /-- The type that implements. -/
  subject : List Token
  /-- Attributes inside the braces. -/
  inside : List Attribute
  items : List ImplItem
  deriving DecidableEq, Repr

namespace Implementation

/-- The trait and the word `for` after it, or nothing. -/
def traitTokens (i : Implementation) : List Token :=
  match i.trait with
  | some trait => trait ++ Generated.word "for"
  | none => []

/-- The tokens of the implementation. -/
def tokens (i : Implementation) : List Token :=
  Attribute.listTokens i.attributes ++ i.modifiers ++ i.keyword.tokens ++ i.generics.tokens
    ++ i.traitTokens ++ i.subject ++ i.generics.whereTokens
    ++ Generated.group .brace
      (Attribute.listTokens i.inside ++ i.items.flatMap ImplItem.tokens)

end Implementation

namespace Parser

/-- Reads a function with its attributes, or gives nothing if it has no body. -/
def implFunction? (ph : Phrases) (attributes : List Attribute) : Parser (Option ImplFunction) := do
  let visibility ← visibility
  let default ← keyword? "default"
  let s ← signature ph
  let ending ← operator? ";"
  if ending.isEmpty then
    return some ⟨attributes, visibility, default, s, ← functionBody ph⟩
  else return none

/-- Reads a constant with a modifier or without. Gives nothing if it has no value, or parameters. -/
def implConst? (ph : Phrases) (hasDefault : Bool) : Parser (Option (List Token)) := do
  let visibility ← visibility
  let default ← if hasDefault then keyword "default" else pure []
  let word ← keyword "const"
  let (_, tokens, plain, valued) ← constBody ph
  if plain && valued then return some (visibility.tokens ++ default ++ word ++ tokens)
  else return none

/-- Reads a type item. Gives nothing if it has bounds or no type. -/
def implType? (ph : Phrases) : Parser (Option (List Token)) := do
  let t ← typeItem ph true .afterType
  if t.colon || t.type.isNone then return none
  else
    return some (t.head ++ t.typeTokens ++ t.generics.whereTokens ++ Generated.operator ";")

/-- The modifier `default` comes next, and not the call of a macro of that name. -/
def beginsDefault (ts : List Token) : Bool := isWord "default" ts && !isOp "!" (afterTree ts)

/-- Reads an item of an implementation. An incomplete one keeps the spacing of its source. -/
def implItem (ph : Phrases) : Parser ImplItem := do
  let before ← ahead
  let attributes ← outerAttributes ph
  let finish (tokens? : Option (List Token)) : Parser ImplItem := do
    match tokens? with
    | some tokens => return .other (Attribute.listTokens attributes ++ tokens)
    | none => return .other (← since before)
  let (visible, ts) ← afterVisibility
  let hasDefault := beginsDefault ts
  let ts := if hasDefault then afterTree ts else ts
  if beginsFunction false ts then
    match ← implFunction? ph attributes with
    | some f => return .function f
    | none => finish none
  else if isWord "const" ts then finish (← implConst? ph hasDefault)
  else if isWord "type" ts then finish (← implType? ph)
  else if visible = .inherited && !hasDefault && beginsMacroCall ts then
    finish (some (← innerMacroCall))
  else
    expectedAt ts ((if hasDefault then [] else [.keyword "default"])
      ++ [.keyword "fn", .keyword "const", .keyword "type"]
      ++ if visible = .inherited && !hasDefault then macroCallTerminals else [])

/-- Reads the words in front of a trait that make the implementation constant. -/
def implConstness : Parser Bool := do
  let ts ← ahead
  if isWord "const" ts || (isOp "?" ts && isWord "const" (afterTree ts)) then
    let _ ← seq [operator? "?", keyword "const"]
    return true
  else return false

/-- Reads the trait, if there is one, and the type that implements. Tells whether what stands for
the trait is a path. Only a trait may have the mark `!`, that it is not implemented. -/
def implTarget (ph : Phrases) : Parser (Option (List Token) × List Token × Bool) := do
  let ts ← ahead
  let start ← here
  let mark ← if isOp "!" ts && !isBrace (afterTree ts) then operator "!" else pure []
  let first ← ph (.type true)
  let isPath := first.shape = .name || first.shape = .path
  if isWord "for" (← ahead) then
    let _ ← keyword "for"
    return (some (mark ++ first.tokens), ← ph.tokens (.type true), isPath)
  else if mark.isEmpty then return (none, first.tokens, true)
  else rejectAt .inherentNegation start

/-- Reads an implementation after its attributes. Gives nothing if it has a visibility, is constant
or is of something that is no trait. -/
def implementation? (ph : Phrases) (attributes : List Attribute) :
    Parser (Option Implementation) := do
  let visibility ← visibility
  let modifiers ← seq [keyword? "default", keyword? "unsafe"]
  let word ← itemKeyword "impl"
  let params ← if beginsParams (← ahead) then generics ph else pure .none
  let isConst ← implConstness
  let (trait, subject, isPath) ← implTarget ph
  let condition ← whereClause? ph
  let params := { params with whereClause := condition }
  let (attributesInside, items) ← inside .brace do
    return (← innerAttributes ph, ← repeatUntil atEnd (implItem ph))
  if visibility ≠ .inherited || isConst || !isPath then return none
  else
    return some ⟨attributes, modifiers, word, params, trait, subject, attributesInside, items⟩

end Parser

end Memberwise
