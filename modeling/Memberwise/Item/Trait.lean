import Memberwise.Item.Basic

/-!
# Traits

## Main definitions

* `Parser.traitItem`
* `Parser.traitDefinition`, `Parser.traitOrSum`
-/

namespace Memberwise.Parser

/-! ## Items of traits -/

/-- Reads a function of a trait, which may have no body. -/
def traitFunction (ph : Phrases) : Parser (List Token) := do
  let s ← signature ph
  let ts ← ahead
  let body ←
    if isBrace ts then Block.tokens <$> functionBody ph
    else if isOp ";" ts then operator ";"
    else expected [.group .brace, .operator ";"]
  return s.tokens ++ body

/-- Reads an item of a trait. One with a modifier keeps the spacing of its source. -/
def traitItem (ph : Phrases) : Parser (List Token) := do
  let before ← ahead
  let attributes ← outer ph
  let visible ← visibility
  let default ← keyword? "default"
  let modified := visible ≠ .inherited || !default.isEmpty
  let finish (tokens : List Token) : Parser (List Token) := do
    if modified then since before else return attributes ++ tokens
  let ts ← ahead
  let second := afterTree ts
  if beginsFunction false ts then finish (← traitFunction ph)
  else if isWord "const" ts then
    if isIdent second || isWord "_" second then
      let start ← keyword "const"
      let (_, tokens, plain, _) ← constBody ph
      if plain then finish (start ++ tokens) else since before
    else if isWord "async" second || isWord "unsafe" second || isWord "extern" second then
      finish (← traitFunction ph)
    else
      let _ ← keyword "const"
      expected [.identifier, .keyword "_", .keyword "async", .keyword "unsafe", .keyword "extern",
        .keyword "fn"]
  else if isWord "type" ts then
    let t ← typeItem ph false .afterType
    finish (t.head ++ GenericParam.boundTokens t.bounds ++ t.typeTokens
      ++ t.generics.whereTokens ++ Generated.operator ";")
  else if !modified && beginsMacroCall ts then finish (← innerMacroCall)
  else
    expected ([.keyword "fn", .keyword "const", .keyword "type"]
      ++ if modified then [] else macroCallTerminals)

/-! ## Traits -/

/-- Reads supertraits up to the body. -/
def supertraits (ph : Phrases) : Parser (Listed (List Token)) :=
  separated (fun ts => isWord "where" ts || isBrace ts) "+" (ph.tokens (.bound false true))

/-- Reads a trait from its supertraits on. -/
def traitBody (ph : Phrases) (head : List Token) (params : Generics) :
    Parser (Generics × List Token) := do
  let colon ← operator? ":"
  let bounds ← if colon.isEmpty then pure .empty else supertraits ph
  let condition ← whereClause? ph
  let params := { params with whereClause := condition }
  let body ← group .brace (seq [inner ph, concatUntil atEnd (traitItem ph)])
  return (params, head ++ params.tokens ++ GenericParam.boundTokens bounds ++ params.whereTokens
    ++ body)

/-- Reads a trait. -/
def traitDefinition (ph : Phrases) (attributes : List Token) : Parser Item := do
  let visibility ← visibility
  let modifiers ← seq [keyword? "unsafe", keyword? "auto"]
  let word ← itemKeyword "trait"
  let name ← name
  let params ← generics ph
  let head := attributes ++ visibility.tokens ++ modifiers ++ word.tokens ++ name.tokens
  let (params, tokens) ← traitBody ph head params
  return .trait ⟨visibility, word, name, params, tokens⟩

/-- Reads a trait or a name for a sum of traits. -/
def traitOrSum (ph : Phrases) (attributes : List Token) : Parser Item := do
  let visibility ← visibility
  let word ← itemKeyword "trait"
  let name ← name
  let params ← generics ph
  let head := attributes ++ visibility.tokens ++ word.tokens ++ name.tokens
  let ts ← ahead
  if isBrace ts || isOp ":" ts || isWord "where" ts then
    let (params, tokens) ← traitBody ph head params
    return .trait ⟨visibility, word, name, params, tokens⟩
  else if isOp "=" ts then
    let equals ← operator "="
    let bounds ← separated (fun ts => isWord "where" ts || isOp ";" ts) "+"
      (ph.tokens (.bound false false))
    let condition ← whereClause? ph
    let params := { params with whereClause := condition }
    return .traitAlias ⟨visibility, word, name, params,
      head ++ params.tokens ++ equals ++ bounds.tokens (Generated.operator "+") id
        ++ params.whereTokens ++ (← operator ";")⟩
  else expected [.group .brace, .operator ":", .keyword "where", .operator "="]

end Memberwise.Parser
