import Memberwise.Item

/-!
# Declarations

What an initializer is made from: the name, the kind, the generic parameters and the members of the
item it belongs to. Of the visibility only plain `pub` counts, and of the attributes of a field only
`cfg`.

## Main definitions

* `Kind`, `Access`, `Member`, `Declaration`
* `Item.declaration`, `Definition.declaration`: what each of the two readers makes
-/

namespace Memberwise

/-- The kinds of item. -/
inductive Kind where
  /-- A struct with named fields. -/
  | struct
  | unitStruct
  | tupleStruct
  | enum
  | union
  /-- Any other item, told by its keyword. -/
  | other (keyword : String)
  deriving DecidableEq, Repr

/-- The item has named members, or none, and can be built from them. -/
def Kind.isProduct : Kind → Bool
  | struct => true
  | unitStruct => true
  | _ => false

/-- Whether an initializer is as visible as can be. -/
inductive Access where
  | full
  | limited
  deriving DecidableEq, Repr

/-- A restricted visibility does not pass on to the initializer. -/
def Visibility.access : Visibility → Access
  | pub => .full
  | _ => .limited

/-- A member of an item. -/
inductive Member where
  /-- A member with a name. Only one with a type is given a value by an initializer. -/
  | stored (name : Name) (type : Option (List Token)) (cfgs : List Attribute)
  | unnamed
  deriving DecidableEq, Repr

/-- What an initializer is made from. -/
structure Declaration where
  name : Name
  kind : Kind
  access : Access
  generics : Generics
  members : List Member
  /-- Where the kind of the item is told. -/
  keywordSpan : Span
  deriving DecidableEq, Repr

/-! ## Reading -/

/-- The attributes under which a field exists. -/
def cfgAttributes (attributes : List Attribute) : List Attribute :=
  attributes.filter (Attribute.isNamed "cfg")

/-- The field as a member. -/
def NamedField.member (f : NamedField) : Member :=
  .stored f.name (some f.type) (cfgAttributes f.attributes)

/-- The kind of a struct with these fields. -/
def Fields.kind : Fields → Kind
  | named _ => .struct
  | positional _ => .tupleStruct
  | unit => .unitStruct

/-- The fields as members. -/
def Fields.members : Fields → List Member
  | named fields => fields.items.map NamedField.member
  | positional fields => fields.items.map fun _ => .unnamed
  | unit => []

/-- The declaration that an item under a name makes, unless it is a struct. -/
def Declaration.named (name : Name) (kind : Kind) (visibility : Visibility) (generics : Generics)
    (span : Span) : Declaration :=
  ⟨name, kind, visibility.access, generics, [], span⟩

/-- The declaration that an item without a name of its own makes. Its kind names it. -/
def Declaration.unnamed (keyword : String) (span : Span) : Declaration :=
  ⟨⟨keyword, span⟩, .other keyword, .limited, .none, [], span⟩

/-- The declaration that an item makes. -/
def Item.declaration : Item → Declaration
  | struct s =>
    ⟨s.name, s.fields.kind, s.visibility.access, s.generics, s.fields.members, s.keyword.span⟩
  | enum e => .named e.name .enum e.visibility e.generics e.keyword.span
  | union u => .named u.name .union u.visibility u.generics u.keyword.span
  | trait t => .named t.name (.other "trait") t.visibility t.generics t.keyword.span
  | traitAlias t => .named t.name (.other "trait") t.visibility t.generics t.keyword.span
  | typeAlias t => .named t.name (.other "type") t.visibility t.generics t.keyword.span
  | function f =>
    .named f.signature.name (.other "fn") f.visibility f.signature.generics f.signature.keyword.span
  | module m => .named m.name (.other "mod") m.visibility .none m.keyword.span
  | constant c => .named c.name (.other "const") c.visibility c.generics c.keyword.span
  | static s => .named s.name (.other "static") s.visibility .none s.keyword.span
  | implementation i => .unnamed "impl" i.keyword.span
  | use u => .unnamed "use" u.keyword.span
  | externCrate e => .unnamed "extern" e.keyword.span
  | foreign f => .unnamed "extern" f.keyword.span
  | macroCall path _ => .unnamed "macro" (spanOf path .outside)
  | verbatim tokens => .unnamed "item" (spanOf tokens .outside)

/-- The kind of a definition with this body. -/
def Body.kind : Body → Kind
  | struct _ fields => fields.kind
  | enum _ _ => .enum
  | union _ _ => .union

/-- Only the fields of a struct are members. -/
def Body.members : Body → List Member
  | struct _ fields => fields.members
  | enum _ _ => []
  | union _ _ => []

/-- The keyword in front of the name. -/
def Body.keyword : Body → Name
  | struct keyword _ => keyword
  | enum keyword _ => keyword
  | union keyword _ => keyword

/-- The declaration that a definition makes. -/
def Definition.declaration (d : Definition) : Declaration where
  name := d.name
  kind := d.body.kind
  access := d.visibility.access
  generics := d.generics
  members := d.body.members
  keywordSpan := d.body.keyword.span

end Memberwise
