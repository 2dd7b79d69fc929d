import Memberwise.Item.Basic

/-!
# Foreign items

What is declared here and defined in another language.

## Main definitions

* `Parser.foreignItem`, `Parser.foreignBlock`
-/

namespace Memberwise.Parser

/-- Reads a foreign function. One that is safe or has a body keeps the spacing of its source. -/
def foreignFunction (ph : Phrases) (before attributes : List Token) : Parser (List Token) := do
  let visibility ← visibility
  let modifiers ← seq [keyword? "const", keyword? "async"]
  let safe ← keyword? "safe"
  let s ← signature ph
  if isBrace (← ahead) then
    let _ ← functionBody ph
    since before
  else
    let ending ← operator ";"
    if safe.isEmpty then return attributes ++ visibility.tokens ++ modifiers ++ s.tokens ++ ending
    else since before

/-- Reads a foreign variable. One with a modifier or a value keeps the spacing of its source. -/
def foreignStatic (ph : Phrases) (before attributes : List Token) : Parser (List Token) := do
  let visibility ← visibility
  let unsafety ← keyword? "unsafe"
  let safe ← if unsafety.isEmpty then keyword? "safe" else pure []
  let tokens ← seq [keyword "static", keyword? "mut", identifier, operator ":",
    ph.tokens (.type true)]
  let value ← when? (isOp "=") (seq [operator "=", ph.tokens (.expression true)])
  let ending ← operator ";"
  if (unsafety ++ safe ++ value).isEmpty then
    return attributes ++ visibility.tokens ++ tokens ++ ending
  else since before

/-- Reads a foreign item. -/
def foreignItem (ph : Phrases) : Parser (List Token) := do
  let before ← ahead
  let attributes ← outer ph
  let (visible, ts) ← afterVisibility
  if beginsFunction true ts then foreignFunction ph before attributes
  else if isWord "static" ts
      || ((isWord "unsafe" ts || isWord "safe" ts) && isWord "static" (afterTree ts)) then
    foreignStatic ph before attributes
  else if isWord "type" ts then
    let t ← typeItem ph false .either
    if t.colon || t.type.isSome then since before
    else return attributes ++ t.head ++ t.generics.whereTokens ++ Generated.operator ";"
  else if visible = .inherited && beginsMacroCall ts then return attributes ++ (← innerMacroCall)
  else
    expectedAt ts ([.keyword "fn", .keyword "static", .keyword "type"]
      ++ if visible = .inherited then macroCallTerminals else [])

/-- Reads a block of foreign items. -/
def foreignBlock (ph : Phrases) (attributes : List Token) : Parser Item := do
  let unsafety ← keyword? "unsafe"
  let word ← itemKeyword "extern"
  let convention ← when? Terminal.string.starts literal
  let body ← group .brace (seq [inner ph, concatUntil atEnd (foreignItem ph)])
  return .foreign ⟨word, attributes ++ unsafety ++ word.tokens ++ convention ++ body⟩

end Memberwise.Parser
