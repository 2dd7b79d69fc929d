import Memberwise.Arguments
import Memberwise.Declaration

/-!
# Memberwise initializers

An initializer is a function that takes a value for each member of a struct and builds the struct. A
member that exists only under a condition has its parameter and its assignment under the same
condition.

## Main definitions

* `Field`, `extractFields`: the members that are given a value
* `Initializer`, `Initializer.generate`
* `Initializer.functionTokens`, `Initializer.implTokens`
-/

namespace Memberwise

/-- A member that is given a value: it has a name and a type. -/
structure Field where
  name : Name
  type : List Token
  cfgs : List Attribute
  deriving DecidableEq, Repr

/-- A value that the function takes. -/
structure Parameter where
  name : Name
  type : List Token
  cfgs : List Attribute
  deriving DecidableEq, Repr

/-- A member that is given the value of the same name. -/
structure Assignment where
  member : Name
  cfgs : List Attribute
  deriving DecidableEq, Repr

/-- The function that builds a struct. -/
structure Initializer where
  name : Name
  access : Access
  selfType : Name
  generics : Generics
  parameters : List Parameter
  assignments : List Assignment
  deriving DecidableEq, Repr

/-- Why there is no initializer. -/
inductive GenerationError where
  /-- The item is no struct with named members. -/
  | unsupportedKind
  deriving DecidableEq, Repr

/-- The error as a rejection of what tells the kind. -/
def GenerationError.diagnostic : GenerationError → Span → Diagnostic
  | unsupportedKind, span => .present .unsupportedKind span

/-- The member as a field, unless it has no name or no type. -/
def Member.field? : Member → Option Field
  | stored name (some type) cfgs => some ⟨name, type, cfgs⟩
  | stored _ none _ => none
  | unnamed => none

/-- The fields among the members, in their order. Other members are skipped. -/
def extractFields (members : List Member) : List Field := members.filterMap Member.field?

/-- The parameter for the field. -/
def Field.parameter (f : Field) : Parameter := ⟨f.name, f.type, f.cfgs⟩

/-- The assignment to the field. -/
def Field.assignment (f : Field) : Assignment := ⟨f.name, f.cfgs⟩

/-- The initializer of a declaration. -/
def Initializer.generate (d : Declaration) (arguments : Arguments) :
    Except GenerationError Initializer :=
  if d.kind.isProduct then
    let fields := extractFields d.members
    .ok {
      name := arguments.functionName
      access := d.access
      selfType := d.name
      generics := d.generics
      parameters := fields.map Field.parameter
      assignments := fields.map Field.assignment }
  else .error .unsupportedKind

/-! ## Tokens -/

open Generated

/-- The parameter, after what it is conditional on. -/
def Parameter.tokens (p : Parameter) : List Token :=
  Attribute.listTokens p.cfgs ++ p.name.tokens ++ operator ":" ++ p.type

/-- The assignment, after what it is conditional on. -/
def Assignment.tokens (a : Assignment) : List Token :=
  Attribute.listTokens a.cfgs ++ a.member.tokens

/-- The modifier of a function. -/
def Access.tokens : Access → List Token
  | full => word "pub"
  | limited => []

namespace Initializer

/-- The attribute in front of the function: a struct may well have many members. -/
def allowance : List Token :=
  operator "#" ++ group .bracket (word "allow"
    ++ group .parenthesis (word "clippy" ++ operator "::" ++ word "too_many_arguments"))

/-- The function. -/
def functionTokens (f : Initializer) : List Token :=
  let comma := operator ","
  allowance ++ f.access.tokens ++ word "fn" ++ f.name.tokens
    ++ group .parenthesis (Listed.between comma (f.parameters.map Parameter.tokens))
    ++ operator "->" ++ word "Self"
    ++ group .brace (word "Self"
      ++ group .brace (Listed.between comma (f.assignments.map Assignment.tokens)))

/-- The function in an implementation of its type. -/
def implTokens (f : Initializer) : List Token :=
  word "impl" ++ f.generics.implTokens ++ f.selfType.tokens ++ f.generics.argumentTokens
    ++ f.generics.whereTokens ++ group .brace f.functionTokens

end Initializer

end Memberwise
