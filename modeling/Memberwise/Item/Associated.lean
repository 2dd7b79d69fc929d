import Memberwise.Item.Function

/-!
# Parts of items

What stands in traits, implementations and foreign blocks as well as outside of them: type items,
constants and macro calls.

## Main definitions

* `TypeItem`, `Parser.typeItem`
* `Parser.constBody`, `Parser.innerMacroCall`
-/

namespace Memberwise.Parser

/-! ## Types -/

/-- Where the where clause of a type item may stand. -/
inductive WherePlace where
  | beforeType
  | afterType
  | either
  deriving DecidableEq

/-- A type item in any of its places. -/
structure TypeItem where
  visibility : Visibility
  /-- The modifier `default`, or nothing. -/
  default : List Token
  keyword : Name
  name : Name
  generics : Generics
  colon : Bool
  bounds : Listed (List Token)
  type : Option (List Token)

/-- A type item ends here, or its type begins. -/
def endsTypeBounds (ts : List Token) : Bool := isWord "where" ts || isOp "=" ts || isOp ";" ts

/-- Reads a type item. -/
def typeItem (ph : Phrases) (default : Bool) (place : WherePlace) : Parser TypeItem := do
  let visibility ← visibility
  let default ← if default then keyword? "default" else pure []
  let word ← itemKeyword "type"
  let name ← name
  let params ← generics ph
  let colon ← operator? ":"
  let bounds ←
    if colon.isEmpty then pure .empty
    else separated endsTypeBounds "+" (ph.tokens (.bound false true))
  let before ← if place = .afterType then pure none else whereClause? ph
  let equals ← operator? "="
  let type ← if equals.isEmpty then pure none else some <$> ph.tokens (.type true)
  let after ←
    if place = .beforeType || before.isSome then pure before else whereClause? ph
  let _ ← operator ";"
  return ⟨visibility, default, word, name, { params with whereClause := after }, !colon.isEmpty,
    bounds, type⟩

/-- The tokens of a type item up to its parameters. -/
def TypeItem.head (t : TypeItem) : List Token :=
  t.visibility.tokens ++ t.default ++ t.keyword.tokens ++ t.name.tokens ++ t.generics.tokens

/-- An equals sign and a type, or nothing if there is none. -/
def TypeItem.typeTokens (t : TypeItem) : List Token := GenericParam.defaultTokens t.type

/-! ## Macro calls and constants -/

/-- After a call without curly braces comes a semicolon. -/
def callEnd (arguments : List Token) : Parser (List Token) :=
  if isBrace arguments then return [] else operator ";"

/-- Reads a macro call as an item inside another. -/
def innerMacroCall : Parser (List Token) := do
  let call ← seq [modPath, operator "!"]
  let arguments ← anyGroup
  return call ++ arguments ++ (← callEnd arguments)

/-- A macro call may begin. -/
def beginsMacroCall (ts : List Token) : Bool :=
  isIdent ts || isWord "self" ts || isWord "super" ts || isWord "crate" ts || isOp "::" ts

/-- The terminals with which a macro call may begin. -/
def macroCallTerminals : List Terminal :=
  [.identifier, .keyword "self", .keyword "super", .keyword "crate", .operator "::"]

/-- Reads the name of a constant, which may be an underscore. -/
def constName : Parser Name := do
  let ts ← ahead
  if isIdent ts || isWord "_" ts then anyName else expected [.identifier, .keyword "_"]

/-- Reads a constant from its name on. Gives its name, its tokens from there on, and whether it has
neither parameters nor a where clause, and whether it has a value. -/
def constBody (ph : Phrases) : Parser (Name × List Token × Bool × Bool) := do
  let name ← constName
  let params ← generics ph
  let type ← seq [operator ":", ph.tokens (.type true)]
  let value ← when? (isOp "=") (seq [operator "=", ph.tokens (.expression true)])
  let condition ← whereClause? ph
  let ending ← operator ";"
  return (name, name.tokens ++ type ++ value ++ ending, !params.bracketed && condition.isNone,
    !value.isEmpty)

end Memberwise.Parser
