import Memberwise.Grammar.Phrase

/-!
# Attributes

An attribute is a path and, perhaps, arguments in brackets or a value. Arguments are not looked into
and keep their spacing.

## Main definitions

* `Attribute`, `Attribute.tokens`, `Attribute.isNamed`
* `Parser.modPath`: a path without arguments
* `Parser.outerAttributes`, `Parser.innerAttributes`
-/

namespace Memberwise

/-- What follows the path of an attribute. -/
inductive Attribute.Content where
  | bare
  | arguments (opening : Token) (content : List Token) (closing : Token)
  | value (equals : Span) (tokens : List Token)
  deriving DecidableEq, Repr

/-- An attribute of what follows it, or of what is around it. -/
structure Attribute where
  inner : Bool
  path : List Token
  content : Attribute.Content
  /-- From the `#` to the closing bracket. -/
  span : Span
  deriving DecidableEq, Repr

namespace Attribute

/-- The tokens after the path. -/
def Content.tokens : Content → List Token
  | bare => []
  | arguments opening content closing => opening :: content ++ [closing]
  | value _ tokens => Generated.operator "=" ++ tokens

/-- The tokens of the attribute. -/
def tokens (a : Attribute) : List Token :=
  Generated.operator "#" ++ (if a.inner then Generated.operator "!" else [])
    ++ Generated.group .bracket (a.path ++ a.content.tokens)

/-- The path of the attribute is this one word. -/
def isNamed (name : String) (a : Attribute) : Bool := lexemes a.path == [.ident name]

/-- The tokens of attributes, one after the other. -/
def listTokens (as : List Attribute) : List Token := as.flatMap tokens

end Attribute

namespace Parser

/-! ## Paths without arguments -/

/-- A word that may stand in a path although it is reserved. -/
def isPathWord (ts : List Token) : Bool :=
  isIdent ts || isWord "super" ts || isWord "self" ts || isWord "Self" ts || isWord "crate" ts

/-- Reads a path of words. -/
def modPath : Parser (List Token) := do
  let leading ← operator? "::"
  let segments ← loop (fun (read : List Token) => do
    if isPathWord (← ahead) then
      let read := read ++ (← take 1)
      if isOp "::" (← ahead) then return .inl (read ++ (← operator "::")) else return .inr read
    else if read.isEmpty then return .inr (← identifier)
    else reject .pathSegment) []
  return leading ++ segments

/-! ## Attributes -/

/-- Reads what follows the path of an attribute. -/
def attributeContent (ph : Phrases) : Parser Attribute.Content := do
  let ts ← ahead
  if isParen ts || isBracket ts || isBrace ts then
    match ← anyGroup with
    | opening :: rest => return .arguments opening rest.dropLast (rest.getLast?.getD opening)
    | [] => return .bare
  else if isOp "=" ts && !isOp "==" ts && !isOp "=>" ts then
    let equals ← here
    let _ ← operator "="
    let ts ← ahead
    if isOp "#" ts && isBracket (afterTree ts) then reject .nestedAttribute
    else return .value equals (← ph.tokens (.expression true))
  else return .bare

/-- Reads the brackets of an attribute that starts at `start`. -/
def attributeBody (ph : Phrases) (inner : Bool) (start : Span) : Parser Attribute := do
  let (_, (path, content), closing) ← bracketed .bracket do
    let path ← if isWord "unsafe" (← ahead) then take 1 else modPath
    return (path, ← attributeContent ph)
  return ⟨inner, path, content, start.join closing.span⟩

/-- Reads an attribute of what follows it. -/
def outerAttribute (ph : Phrases) : Parser Attribute := do
  let start ← here
  let _ ← operator "#"
  attributeBody ph false start

/-- Reads an attribute of what is around it. -/
def innerAttribute (ph : Phrases) : Parser Attribute := do
  let start ← here
  let _ ← operator "#"
  let _ ← operator "!"
  attributeBody ph true start

/-- Reads all attributes in front of something. -/
def outerAttributes (ph : Phrases) : Parser (List Attribute) :=
  repeatUntil (!isOp "#" ·) (outerAttribute ph)

/-- Reads all attributes at the start of a group. -/
def innerAttributes (ph : Phrases) : Parser (List Attribute) :=
  repeatUntil (fun ts => !(isOp "#" ts && isOp "!" (afterTree ts))) (innerAttribute ph)

/-- Reads all attributes in front of something, for their tokens only. -/
def outer (ph : Phrases) : Parser (List Token) := do
  return Attribute.listTokens (← outerAttributes ph)

/-- Reads all attributes at the start of a group, for their tokens only. -/
def inner (ph : Phrases) : Parser (List Token) := do
  return Attribute.listTokens (← innerAttributes ph)

end Parser

end Memberwise
