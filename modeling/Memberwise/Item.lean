import Memberwise.Item.Foreign
import Memberwise.Item.Import
import Memberwise.Item.Trait

/-!
# Items

## Main definitions

* `Parser.itemAfter`: an item after its attributes
* `Parser.item`
-/

namespace Memberwise.Parser

/-! ## Modules, functions, values and types -/

/-- Reads a module, with its contents or without. -/
def moduleItem (ph : Phrases) (attributes : List Token) : Parser Item := do
  let visibility ← visibility
  let unsafety ← keyword? "unsafe"
  let word ← itemKeyword "mod"
  let name ← if isWord "try" (← ahead) then anyName else name
  let ts ← ahead
  let body ←
    if isOp ";" ts then operator ";"
    else if isBrace ts then
      group .brace (seq [inner ph, concatUntil atEnd (ph.tokens .item)])
    else expected [.operator ";", .group .brace]
  return .module ⟨visibility, word, name,
    attributes ++ visibility.tokens ++ unsafety ++ word.tokens ++ name.tokens ++ body⟩

/-- Reads a function. Without a body it keeps the spacing of its source. -/
def functionItem (ph : Phrases) (before attributes : List Token) : Parser Item := do
  let visibility ← visibility
  let s ← signature ph
  if isOp ";" (← ahead) then
    let _ ← operator ";"
    return .verbatim (← since before)
  else
    return .function ⟨attributes, visibility, s, ← functionBody ph⟩

/-- Reads a variable. Without a type or value it keeps the spacing of its source. -/
def staticItem (ph : Phrases) (before attributes : List Token) : Parser Item := do
  let visibility ← visibility
  let word ← itemKeyword "static"
  let mutability ← keyword? "mut"
  let name ← name
  if isOp "=" (← ahead) then
    let _ ← seq [operator "=", ph.tokens (.expression true), operator ";"]
    return .verbatim (← since before)
  else
    let type ← seq [operator ":", ph.tokens (.type true)]
    if isOp ";" (← ahead) then
      let _ ← operator ";"
      return .verbatim (← since before)
    else
      let value ← seq [operator "=", ph.tokens (.expression true), operator ";"]
      return .static ⟨visibility, word, name, attributes ++ visibility.tokens ++ word.tokens
        ++ mutability ++ name.tokens ++ type ++ value⟩

/-- Reads a constant. Without a value, or with parameters or a where clause, it keeps the spacing of
its source. -/
def constItem (ph : Phrases) (before attributes : List Token) : Parser Item := do
  let visibility ← visibility
  let word ← itemKeyword "const"
  let (name, tokens, plain, valued) ← constBody ph
  if plain && valued then
    return .constant ⟨visibility, word, name, .none,
      attributes ++ visibility.tokens ++ word.tokens ++ tokens⟩
  else return .verbatim (← since before)

/-- Reads a type alias. Without a type, or with bounds, it keeps the spacing of its source. -/
def aliasItem (ph : Phrases) (before attributes : List Token) : Parser Item := do
  let t ← typeItem ph false .beforeType
  if t.colon || t.type.isNone then return .verbatim (← since before)
  else
    return .typeAlias ⟨t.visibility, t.keyword, t.name, t.generics,
      attributes ++ t.head ++ t.generics.whereTokens ++ t.typeTokens ++ Generated.operator ";"⟩

/-- Reads a macro call as an item, which may define a name. -/
def macroItem (attributes : List Token) : Parser Item := do
  let path ← modPath
  let bang ← operator "!"
  let ts ← ahead
  let name ← if isWord "try" ts then anyWord else if isIdent ts then identifier else pure []
  let arguments ← anyGroup
  return .macroCall path (attributes ++ path ++ bang ++ name ++ arguments ++ (← callEnd arguments))

/-- Reads the definition of a macro, which keeps the spacing of its source. -/
def macroDefinition (before : List Token) : Parser Item := do
  let _ ← seq [keyword "macro", identifier]
  let hasParams := isParen (← ahead)
  if hasParams then
    let _ ← group .parenthesis remaining
  if isBrace (← ahead) then
    let _ ← group .brace remaining
    return .verbatim (← since before)
  else if hasParams then expected [.group .brace]
  else expected [.group .parenthesis, .group .brace]

/-- The terminals after which an item can follow, its visibility aside. -/
def itemTerminals : List Terminal :=
  ["fn", "extern", "use", "static", "const", "unsafe", "mod", "type", "struct", "enum", "union",
   "trait", "auto", "impl", "default", "macro"].map .keyword

/-- Reads an implementation. Some forms keep the spacing of their source. -/
def implementationItem (ph : Phrases) (before : List Token) (attributes : List Attribute) :
    Parser Item := do
  match ← implementation? ph attributes with
  | some i => return .implementation i
  | none => return .verbatim (← since before)

/-! ## Any item -/

/-- Reads an item after its attributes, which `before` starts with. -/
def itemAfter (ph : Phrases) (before : List Token) (attributes : List Attribute) : Parser Item := do
  let outer := Attribute.listTokens attributes
  let (visible, ts) ← afterVisibility
  let second := afterTree ts
  if isWord "fn" ts || beginsFunction false ts then functionItem ph before outer
  else if isWord "extern" ts then
    let third := afterTree second
    if isWord "crate" second then externCrate outer
    else if isBrace second then foreignBlock ph outer
    else if Terminal.string.starts second then
      if isBrace third then foreignBlock ph outer else expectedAt third [.group .brace]
    else expectedAt second [.keyword "crate", .group .brace, .string]
  else if isWord "use" ts then useItem ph before outer
  else if isWord "static" ts then staticItem ph before outer
  else if isWord "const" ts then constItem ph before outer
  else if isWord "unsafe" ts then
    if isWord "trait" second || (isWord "auto" second && isWord "trait" (afterTree second)) then
      traitDefinition ph outer
    else if isWord "impl" second then implementationItem ph before attributes
    else if isWord "extern" second then foreignBlock ph outer
    else if isWord "mod" second then moduleItem ph outer
    else
      expectedAt second [.keyword "trait", .keyword "auto", .keyword "impl", .keyword "extern",
        .keyword "mod"]
  else if isWord "mod" ts then moduleItem ph outer
  else if isWord "type" ts then aliasItem ph before outer
  else if isWord "struct" ts then .struct <$> structItem ph attributes
  else if isWord "enum" ts then .enum <$> enumItem ph attributes
  else if isWord "union" ts && isIdent second then .union <$> unionItem ph attributes
  else if isWord "trait" ts then traitOrSum ph outer
  else if isWord "auto" ts && isWord "trait" second then traitDefinition ph outer
  else if isWord "impl" ts || beginsDefault ts then
    implementationItem ph before attributes
  else if isWord "macro" ts then
    let _ ← visibility
    macroDefinition before
  else if visible = .inherited && beginsMacroCall ts then macroItem outer
  else
    expectedAt ts (itemTerminals ++ if visible = .inherited then macroCallTerminals else [])

/-- Reads an item. -/
def item (ph : Phrases) : Parser Item := do
  let before ← ahead
  itemAfter ph before (← outerAttributes ph)

end Memberwise.Parser
