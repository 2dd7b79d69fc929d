import Memberwise.Item.Basic

/-!
# Imports

## Main definitions

* `Parser.useTree`, `Parser.useItem`
* `Parser.externCrate`
-/

namespace Memberwise.Parser

/-- Reads a name after `as`, which may be an underscore. -/
def newName : Parser (List Token) := do
  let ts ← ahead
  if isIdent ts || isWord "_" ts then anyWord else reject .rename

/-- Reads the trees of a group of imports. Tells whether one of them starts with `::`. -/
def useTrees (ph : Phrases) (rooted : Bool) : Parser (List Token × Bool) :=
  loop (fun (read, anyRoot) => do
    if atEnd (← ahead) then return .inr (read, anyRoot)
    else
      let root ← if rooted then operator? "::" else pure []
      let tree ← ph (.useTree (rooted && root.isEmpty))
      let anyRoot := anyRoot || !root.isEmpty || tree.shape = .verbatim
      let read := read ++ root ++ tree.tokens
      if atEnd (← ahead) then return .inr (read, anyRoot)
      else return .inl (read ++ (← operator ","), anyRoot)) ([], false)

/-- Reads what is imported. If a tree in a group starts with `::`, the import keeps the spacing of
its source. -/
def useTree (ph : Phrases) (rooted : Bool) : Parser Fragment := do
  let ts ← ahead
  if isPathWord ts && !isWord "Self" ts || isWord "try" ts then
    let word ← anyWord
    let ts ← ahead
    if isOp "::" ts then
      return ⟨word ++ (← operator "::") ++ (← ph.tokens (.useTree false)), .plain⟩
    else if isWord "as" ts then return ⟨word ++ (← seq [keyword "as", newName]), .plain⟩
    else return ⟨word, .plain⟩
  else if isOp "*" ts then return ⟨← operator "*", .plain⟩
  else if isBrace ts then
    let (opening, (trees, anyRoot), closing) ← bracketed .brace (useTrees ph rooted)
    return ⟨opening :: trees ++ [closing], if anyRoot then .verbatim else .plain⟩
  else
    expected [.identifier, .keyword "self", .keyword "super", .keyword "crate", .keyword "try",
      .operator "*", .group .brace]

/-- Reads an import. -/
def useItem (ph : Phrases) (before attributes : List Token) : Parser Item := do
  let visibility ← visibility
  let word ← itemKeyword "use"
  let leading ← operator? "::"
  let tree ← useTree ph leading.isEmpty
  let ending ← operator ";"
  if tree.shape = .verbatim then return .verbatim (← since before)
  else
    return .use ⟨word, attributes ++ visibility.tokens ++ word.tokens ++ leading ++ tree.tokens
      ++ ending⟩

/-- Reads the import of another library. -/
def externCrate (attributes : List Token) : Parser Item := do
  let visibility ← visibility
  let word ← itemKeyword "extern"
  let crate ← keyword "crate"
  let library ← if isWord "self" (← ahead) then anyWord else identifier
  let renamed ← when? (isWord "as") do
    let word ← keyword "as"
    return word ++ (← if isWord "_" (← ahead) then anyWord else identifier)
  let ending ← operator ";"
  return .externCrate ⟨word, attributes ++ visibility.tokens ++ word.tokens ++ crate ++ library
    ++ renamed ++ ending⟩

end Memberwise.Parser
