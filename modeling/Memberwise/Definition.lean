import Memberwise.Generics
import Memberwise.Visibility

/-!
# Definitions of types

A struct, an enum or a union, in its parts. As an item it is one of three sorts, each with parts of its
own. By itself, for a derive, it is a definition, in which only the body tells the three apart. The two
are read apart from each other, with the same readers for the parts.

## Main definitions

* `NamedField`, `PositionalField`, `Fields`, `Variant`
* `StructItem`, `EnumItem`, `UnionItem`: the three as items, with their tokens
* `Body`, `Definition`: any of them by itself
* `Parser.structItem`, `Parser.enumItem`, `Parser.unionItem`: an item after its attributes
* `Parser.derivedDefinition`: a definition with its attributes and nothing else
-/

namespace Memberwise

/-- A field with a name. -/
structure NamedField where
  attributes : List Attribute
  visibility : Visibility
  name : Name
  type : List Token
  deriving DecidableEq, Repr

/-- A field without a name. -/
structure PositionalField where
  attributes : List Attribute
  visibility : Visibility
  type : List Token
  deriving DecidableEq, Repr

/-- The fields of a struct or of a variant. -/
inductive Fields where
  | named (fields : Listed NamedField)
  | positional (fields : Listed PositionalField)
  | unit
  deriving DecidableEq, Repr

/-- A variant of an enum, perhaps with its number. -/
structure Variant where
  attributes : List Attribute
  name : Name
  fields : Fields
  discriminant : Option (List Token)
  deriving DecidableEq, Repr

/-- A struct. -/
structure StructItem where
  attributes : List Attribute
  visibility : Visibility
  keyword : Name
  name : Name
  generics : Generics
  fields : Fields
  deriving DecidableEq, Repr

/-- An enum. -/
structure EnumItem where
  attributes : List Attribute
  visibility : Visibility
  keyword : Name
  name : Name
  generics : Generics
  variants : Listed Variant
  deriving DecidableEq, Repr

/-- A union. -/
structure UnionItem where
  attributes : List Attribute
  visibility : Visibility
  keyword : Name
  name : Name
  generics : Generics
  fields : Listed NamedField
  deriving DecidableEq, Repr

/-- What a definition consists of, with the keyword for it. -/
inductive Body where
  | struct (keyword : Name) (fields : Fields)
  | enum (keyword : Name) (variants : Listed Variant)
  | union (keyword : Name) (fields : Listed NamedField)
  deriving DecidableEq, Repr

/-- A struct, an enum or a union by itself. -/
structure Definition where
  attributes : List Attribute
  visibility : Visibility
  name : Name
  generics : Generics
  body : Body
  deriving DecidableEq, Repr

/-! ## Tokens -/

/-- The tokens of the field. -/
def NamedField.tokens (f : NamedField) : List Token :=
  Attribute.listTokens f.attributes ++ f.visibility.tokens ++ f.name.tokens
    ++ Generated.operator ":" ++ f.type

/-- The tokens of the field. -/
def PositionalField.tokens (f : PositionalField) : List Token :=
  Attribute.listTokens f.attributes ++ f.visibility.tokens ++ f.type

/-- The tokens of fields with names, in their braces. -/
def namedTokens (fields : Listed NamedField) : List Token :=
  Generated.group .brace (fields.tokens (Generated.operator ",") NamedField.tokens)

/-- The tokens of fields without names, in their parentheses. -/
def positionalTokens (fields : Listed PositionalField) : List Token :=
  Generated.group .parenthesis (fields.tokens (Generated.operator ",") PositionalField.tokens)

/-- The tokens of the fields, with their brackets. -/
def Fields.tokens : Fields → List Token
  | named fields => namedTokens fields
  | positional fields => positionalTokens fields
  | unit => []

/-- The tokens of the variant. -/
def Variant.tokens (v : Variant) : List Token :=
  Attribute.listTokens v.attributes ++ v.name.tokens ++ v.fields.tokens
    ++ GenericParam.defaultTokens v.discriminant

/-- The tokens of the body of a struct, with the where clause where it belongs: in front of braces or
of a lone semicolon, but after the parentheses of a tuple. -/
def Fields.bodyTokens (condition : List Token) : Fields → List Token
  | named fields => condition ++ namedTokens fields
  | positional fields => positionalTokens fields ++ condition ++ Generated.operator ";"
  | unit => condition ++ Generated.operator ";"

/-- The tokens of the struct. -/
def StructItem.tokens (s : StructItem) : List Token :=
  Attribute.listTokens s.attributes ++ s.visibility.tokens ++ s.keyword.tokens ++ s.name.tokens
    ++ s.generics.tokens ++ s.fields.bodyTokens s.generics.whereTokens

/-- The tokens of the enum. -/
def EnumItem.tokens (e : EnumItem) : List Token :=
  Attribute.listTokens e.attributes ++ e.visibility.tokens ++ e.keyword.tokens ++ e.name.tokens
    ++ e.generics.tokens ++ e.generics.whereTokens
    ++ Generated.group .brace (e.variants.tokens (Generated.operator ",") Variant.tokens)

/-- The tokens of the union. -/
def UnionItem.tokens (u : UnionItem) : List Token :=
  Attribute.listTokens u.attributes ++ u.visibility.tokens ++ u.keyword.tokens ++ u.name.tokens
    ++ u.generics.tokens ++ u.generics.whereTokens ++ namedTokens u.fields

namespace Parser

/-! ## Fields -/

/-- An unnamed struct or union begins, as the type of a field. -/
def beginsAnonymous (ts : List Token) : Bool :=
  isWord "struct" ts || (isWord "union" ts && isBrace (afterTree ts))

/-- Reads a field with a name. A field without a name of its own, whose name is an underscore, may
have an unnamed struct or union as its type, which keeps the spacing of its source. -/
def namedField (ph : Phrases) : Parser NamedField := do
  let attributes ← outerAttributes ph
  let visibility ← visibility
  let unnamed := isWord "_" (← ahead)
  let name ← if unnamed then anyName else name
  let _ ← operator ":"
  let type ←
    if unnamed && beginsAnonymous (← ahead) then verbatim (seq [anyWord, ph.tokens .namedFields])
    else ph.tokens (.type true)
  return ⟨attributes, visibility, name, type⟩

/-- Reads a field without a name. -/
def positionalField (ph : Phrases) : Parser PositionalField := do
  let attributes ← outerAttributes ph
  let visibility ← visibility
  return ⟨attributes, visibility, ← ph.tokens (.type true)⟩

/-- Reads fields with names, in their braces. -/
def namedFields (ph : Phrases) : Parser (Listed NamedField) :=
  inside .brace (separated atEnd "," (namedField ph))

/-- Reads fields without names, in their parentheses. -/
def positionalFields (ph : Phrases) : Parser (Listed PositionalField) :=
  inside .parenthesis (separated atEnd "," (positionalField ph))

/-- Reads a variant. A visibility in front of it means nothing and is left out. -/
def variant (ph : Phrases) : Parser Variant := do
  let attributes ← outerAttributes ph
  let _ ← visibility
  let name ← name
  let ts ← ahead
  let fields ←
    if isBrace ts then Fields.named <$> namedFields ph
    else if isParen ts then Fields.positional <$> positionalFields ph
    else pure .unit
  if isOp "=" (← ahead) then
    let _ ← operator "="
    return ⟨attributes, name, fields, some (← ph.tokens (.expression true))⟩
  else return ⟨attributes, name, fields, none⟩

/-! ## Bodies -/

/-- Reads the fields of a struct with the where clause, which stands in front of braces or of a lone
semicolon, but after the parentheses of a tuple. -/
def structBody (ph : Phrases) : Parser (Option WhereClause × Fields) := do
  let condition ← whereClause? ph
  let ts ← ahead
  if condition.isNone && isParen ts then
    let fields ← positionalFields ph
    let condition ← whereClause? ph
    if isOp ";" (← ahead) then
      let _ ← operator ";"
      return (condition, .positional fields)
    else if condition.isNone then expected [.keyword "where", .operator ";"]
    else expected [.operator ";"]
  else if isBrace ts then return (condition, .named (← namedFields ph))
  else if isOp ";" ts then
    let _ ← operator ";"
    return (condition, .unit)
  else if condition.isNone then
    expected [.keyword "where", .group .parenthesis, .group .brace, .operator ";"]
  else expected [.group .brace, .operator ";"]

/-- Reads the where clause and the variants of an enum. -/
def enumBody (ph : Phrases) : Parser (Option WhereClause × Listed Variant) := do
  let condition ← whereClause? ph
  return (condition, ← inside .brace (separated atEnd "," (variant ph)))

/-- Reads the where clause and the fields of a union. -/
def unionBody (ph : Phrases) : Parser (Option WhereClause × Listed NamedField) := do
  let condition ← whereClause? ph
  return (condition, ← namedFields ph)

/-! ## Items -/

/-- Reads a struct after its attributes. -/
def structItem (ph : Phrases) (attributes : List Attribute) : Parser StructItem := do
  let visibility ← visibility
  let keyword ← itemKeyword "struct"
  let name ← name
  let params ← generics ph
  let (condition, fields) ← structBody ph
  return ⟨attributes, visibility, keyword, name, { params with whereClause := condition }, fields⟩

/-- Reads an enum after its attributes. -/
def enumItem (ph : Phrases) (attributes : List Attribute) : Parser EnumItem := do
  let visibility ← visibility
  let keyword ← itemKeyword "enum"
  let name ← name
  let params ← generics ph
  let (condition, variants) ← enumBody ph
  return ⟨attributes, visibility, keyword, name, { params with whereClause := condition }, variants⟩

/-- Reads a union after its attributes. -/
def unionItem (ph : Phrases) (attributes : List Attribute) : Parser UnionItem := do
  let visibility ← visibility
  let keyword ← itemKeyword "union"
  let name ← name
  let params ← generics ph
  let (condition, fields) ← unionBody ph
  return ⟨attributes, visibility, keyword, name, { params with whereClause := condition }, fields⟩

/-! ## Definitions -/

/-- Reads a definition after its attributes. -/
def definition (ph : Phrases) (attributes : List Attribute) : Parser Definition := do
  let visibility ← visibility
  let ts ← ahead
  if isWord "struct" ts then
    let keyword ← itemKeyword "struct"
    let name ← name
    let params ← generics ph
    let (condition, fields) ← structBody ph
    return ⟨attributes, visibility, name, { params with whereClause := condition },
      .struct keyword fields⟩
  else if isWord "enum" ts then
    let keyword ← itemKeyword "enum"
    let name ← name
    let params ← generics ph
    let (condition, variants) ← enumBody ph
    return ⟨attributes, visibility, name, { params with whereClause := condition },
      .enum keyword variants⟩
  else if isWord "union" ts then
    let keyword ← itemKeyword "union"
    let name ← name
    let params ← generics ph
    let (condition, fields) ← unionBody ph
    return ⟨attributes, visibility, name, { params with whereClause := condition },
      .union keyword fields⟩
  else expected [.keyword "struct", .keyword "enum", .keyword "union"]

/-- Reads a definition with its attributes. -/
def derivedDefinition (ph : Phrases) : Parser Definition := do
  definition ph (← outerAttributes ph)

end Parser

end Memberwise
