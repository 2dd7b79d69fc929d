import Memberwise.Definition
import Memberwise.Item.Implementation

/-!
# The kinds of item

An item is of one of sixteen sorts. A struct, an enum, a union, a function and an implementation are
kept in their parts. Of the others only what names them is kept apart, and all of it as tokens.

## Main definitions

* `FunctionItem`, `NamedItem`, `PlainItem`, `UnnamedItem`: the parts of items
* `Item`, `Item.tokens`
-/

namespace Memberwise

/-- A function, with the tokens of its attributes. -/
structure FunctionItem where
  attributes : List Token
  visibility : Visibility
  signature : Signature
  body : Block
  deriving DecidableEq, Repr

/-- The tokens of the function. -/
def FunctionItem.tokens (f : FunctionItem) : List Token :=
  f.attributes ++ f.visibility.tokens ++ f.signature.tokens ++ f.body.tokens

/-- An item under a name, which may have parameters. -/
structure NamedItem where
  visibility : Visibility
  keyword : Name
  name : Name
  generics : Generics
  /-- The whole item. -/
  tokens : List Token
  deriving DecidableEq, Repr

/-- An item under a name, without parameters. -/
structure PlainItem where
  visibility : Visibility
  keyword : Name
  name : Name
  /-- The whole item. -/
  tokens : List Token
  deriving DecidableEq, Repr

/-- An item without a name. -/
structure UnnamedItem where
  keyword : Name
  /-- The whole item. -/
  tokens : List Token
  deriving DecidableEq, Repr

/-- An item. -/
inductive Item where
  | struct (s : StructItem)
  | enum (e : EnumItem)
  | union (u : UnionItem)
  | trait (t : NamedItem)
  /-- A name for a sum of traits. -/
  | traitAlias (t : NamedItem)
  | typeAlias (t : NamedItem)
  | function (f : FunctionItem)
  | module (m : PlainItem)
  | constant (c : NamedItem)
  | static (s : PlainItem)
  /-- What a type implements. -/
  | implementation (i : Implementation)
  | use (u : UnnamedItem)
  | externCrate (e : UnnamedItem)
  /-- A block of foreign items. -/
  | foreign (f : UnnamedItem)
  /-- A call of the macro at `path`. -/
  | macroCall (path : List Token) (tokens : List Token)
  /-- An item that keeps the spacing of its source. -/
  | verbatim (tokens : List Token)
  deriving DecidableEq, Repr

/-- The tokens of the item. -/
def Item.tokens : Item → List Token
  | struct s => s.tokens
  | enum e => e.tokens
  | union u => u.tokens
  | trait t => t.tokens
  | traitAlias t => t.tokens
  | typeAlias t => t.tokens
  | function f => f.tokens
  | module m => m.tokens
  | constant c => c.tokens
  | static s => s.tokens
  | implementation i => i.tokens
  | use u => u.tokens
  | externCrate e => e.tokens
  | foreign f => f.tokens
  | macroCall _ tokens => tokens
  | verbatim tokens => tokens

end Memberwise
