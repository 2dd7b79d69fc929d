import Memberwise.Attribute

/-!
# Generic parameters

A declaration has lifetime, type and constant parameters, in any order, and a where clause. They are
written with the lifetimes first.

## Main definitions

* `GenericParam`, `Binder`, `Predicate`, `WhereClause`, `Generics`
* `Generics.tokens`, `Generics.implTokens`, `Generics.argumentTokens`: the three ways to write them
* `Parser.generics`, `Parser.whereClause?`, `Parser.binder`
-/

namespace Memberwise

/-- A parameter by its sort. A colon may stand in the source without bounds after it. -/
inductive GenericParam.Sort where
  | lifetime (name : List Token) (colon : Bool) (bounds : Listed (List Token))
  | type (name : List Token) (colon : Bool) (bounds : Listed (List Token))
      (default : Option (List Token))
  | const (name : List Token) (type : List Token) (default : Option (List Token))
  deriving DecidableEq, Repr

/-- A parameter with its attributes. -/
structure GenericParam where
  attributes : List Attribute
  sort : GenericParam.Sort
  deriving DecidableEq, Repr

namespace GenericParam

/-- The parameter is a lifetime. -/
def isLifetime (p : GenericParam) : Bool := p.sort matches .lifetime ..

/-- The name by which the parameter is used. -/
def name (p : GenericParam) : List Token :=
  match p.sort with
  | .lifetime name _ _ => name
  | .type name _ _ _ => name
  | .const name _ _ => name

/-- A colon and bounds, or nothing if there are none. -/
def boundTokens (bounds : Listed (List Token)) : List Token :=
  if bounds.isEmpty then []
  else Generated.operator ":" ++ bounds.tokens (Generated.operator "+") id

/-- The default after its equals sign, or nothing if there is none. -/
def defaultTokens (default : Option (List Token)) : List Token :=
  match default with
  | some value => Generated.operator "=" ++ value
  | none => []

/-- The parameter as the declaration states it. -/
def tokens (p : GenericParam) : List Token :=
  Attribute.listTokens p.attributes ++
    match p.sort with
    | .lifetime name _ bounds => name ++ boundTokens bounds
    | .type name _ bounds default => name ++ boundTokens bounds ++ defaultTokens default
    | .const name type default =>
      Generated.word "const" ++ name ++ Generated.operator ":" ++ type ++ defaultTokens default

/-- The parameter without its default. -/
def withoutDefault (p : GenericParam) : GenericParam :=
  { p with
    sort := match p.sort with
      | .lifetime name colon bounds => .lifetime name colon bounds
      | .type name colon bounds _ => .type name colon bounds none
      | .const name type _ => .const name type none }

@[simp] theorem isLifetime_withoutDefault (p : GenericParam) :
    p.withoutDefault.isLifetime = p.isLifetime := by
  cases p with
  | mk attributes sort => cases sort <;> rfl

@[simp] theorem name_withoutDefault (p : GenericParam) : p.withoutDefault.name = p.name := by
  cases p with
  | mk attributes sort => cases sort <;> rfl

end GenericParam

/-- Parameters after `for`. The brackets stay even around nothing. -/
structure Binder where
  /-- The word and the opening bracket. -/
  opening : List Token
  params : Listed GenericParam
  closing : List Token
  deriving DecidableEq, Repr

/-- The tokens of the binder. -/
def Binder.tokens (b : Binder) : List Token :=
  b.opening ++ b.params.tokens (Generated.operator ",") GenericParam.tokens ++ b.closing

/-- What a where clause demands of a lifetime or of a type. -/
inductive Predicate where
  | lifetime (name : List Token) (bounds : Listed (List Token))
  | type (binder : Option Binder) (subject : List Token) (bounds : Listed (List Token))
  deriving DecidableEq, Repr

/-- The tokens of the predicate. Its colon stays even without bounds. -/
def Predicate.tokens : Predicate → List Token
  | lifetime name bounds =>
    name ++ Generated.operator ":" ++ bounds.tokens (Generated.operator "+") id
  | type binder subject bounds =>
    (binder.map Binder.tokens).getD [] ++ subject ++ Generated.operator ":"
      ++ bounds.tokens (Generated.operator "+") id

/-- Predicates after the word `where`. -/
structure WhereClause where
  predicates : Listed Predicate
  deriving DecidableEq, Repr

/-- The tokens of the clause, which is left out if it has no predicates. -/
def WhereClause.tokens (w : WhereClause) : List Token :=
  if w.predicates.isEmpty then []
  else Generated.word "where" ++ w.predicates.tokens (Generated.operator ",") Predicate.tokens

/-- Parameters and a where clause. Angle brackets around nothing are told from none at all, because
only the latter allow a constant to be an ordinary item. -/
structure Generics where
  bracketed : Bool
  params : Listed GenericParam
  whereClause : Option WhereClause
  deriving DecidableEq, Repr

namespace Generics

/-- No parameters and no where clause. -/
def none : Generics := ⟨false, .empty, .none⟩

/-- The parameters in the order in which they are written. -/
def ordered (g : Generics) : Listed GenericParam := g.params.sortedBy GenericParam.isLifetime

/-- A list of parameters in angle brackets, or nothing if there are none. -/
def angled (f : GenericParam → List Token) (params : Listed GenericParam) : List Token :=
  if params.isEmpty then []
  else Generated.operator "<" ++ params.tokens (Generated.operator ",") f ++ Generated.operator ">"

/-- The parameters as the declaration states them. -/
def tokens (g : Generics) : List Token := angled GenericParam.tokens g.ordered

/-- The parameters as an `impl` states them: without defaults. -/
def implTokens (g : Generics) : List Token :=
  angled (fun p => p.withoutDefault.tokens) g.ordered

/-- The parameters as arguments of the type: their names. -/
def argumentTokens (g : Generics) : List Token := angled GenericParam.name g.ordered

/-- The where clause, if there is one with predicates. -/
def whereTokens (g : Generics) : List Token := (g.whereClause.map WhereClause.tokens).getD []

end Generics

namespace Parser

/-! ## Parameters -/

/-- Reads bounds, each by `item`, up to a place where `stop` holds. -/
def bounds (stop : List Token → Bool) (item : Parser (List Token)) : Parser (Listed (List Token)) :=
  joined stop "+" item

/-- An argument in angle brackets ends at a comma or at the closing bracket. -/
def endsArgument (ts : List Token) : Bool := isOp "," ts || isOp ">" ts

/-- A parameter ends like an argument, or with the stream. -/
def endsParam (ts : List Token) : Bool := atEnd ts || endsArgument ts

/-- Reads a lifetime parameter. -/
def lifetimeParam : Parser GenericParam.Sort := do
  let name ← lifetime
  if isOp ":" (← ahead) then
    let _ ← operator ":"
    return .lifetime name true (← bounds endsParam lifetime)
  else return .lifetime name false .empty

/-- Reads a type parameter. -/
def typeParam (ph : Phrases) : Parser GenericParam.Sort := do
  let name ← identifier
  let colon ← operator? ":"
  let bounds ←
    if colon.isEmpty then pure .empty
    else bounds (fun ts => endsParam ts || isOp "=" ts) (ph.tokens (.bound false true))
  let equals ← operator? "="
  if equals.isEmpty then return .type name (!colon.isEmpty) bounds none
  else return .type name (!colon.isEmpty) bounds (some (← ph.tokens (.type true)))

/-- Reads the statements of a block, with the inner attributes in front, in their braces. -/
def attributedBlock (ph : Phrases) : Parser (List Token) :=
  group .brace (seq [inner ph, ph.tokens .statements])

/-- Reads a constant that is an argument: a literal, a name or a block. -/
def constArgument (ph : Phrases) : Parser (List Token) := do
  let ts ← ahead
  if isLiteral ts then literal
  else if isIdent ts then identifier
  else if isBrace ts then attributedBlock ph
  else expected []

/-- Reads a constant parameter. -/
def constParam (ph : Phrases) : Parser GenericParam.Sort := do
  let _ ← keyword "const"
  let name ← identifier
  let _ ← operator ":"
  let type ← ph.tokens (.type true)
  if isOp "=" (← ahead) then
    let _ ← operator "="
    return .const name type (some (← constArgument ph))
  else return .const name type none

/-- Reads a parameter of a declaration, which may be an underscore. -/
def declaredParam (ph : Phrases) : Parser GenericParam := do
  let attributes ← outerAttributes ph
  let ts ← ahead
  let sort ←
    if isLifetime ts then lifetimeParam
    else if isIdent ts then typeParam ph
    else if isWord "const" ts then constParam ph
    else if isWord "_" ts then pure (.type (← anyWord) false .empty none)
    else expected [.lifetime, .identifier, .keyword "const"]
  return ⟨attributes, sort⟩

/-- Reads a parameter after `for`. -/
def boundParam (ph : Phrases) : Parser GenericParam := do
  let attributes ← outerAttributes ph
  let ts ← ahead
  let sort ←
    if isIdent ts then typeParam ph
    else if isLifetime ts then lifetimeParam
    else if isWord "const" ts then constParam ph
    else expected [.identifier, .lifetime, .keyword "const"]
  return ⟨attributes, sort⟩

/-- Reads the parameters of a declaration, if there are any. The where clause comes later. -/
def generics (ph : Phrases) : Parser Generics := do
  if isOp "<" (← ahead) then
    let _ ← operator "<"
    let params ← separated (isOp ">") "," (declaredParam ph)
    let _ ← operator ">"
    return ⟨true, params, none⟩
  else return .none

/-- Reads `for` and the parameters after it, in their parts. -/
def binderParts (ph : Phrases) : Parser Binder := do
  let opening ← seq [keyword "for", operator "<"]
  let params ← separated (isOp ">") "," (boundParam ph)
  return ⟨opening, params, ← operator ">"⟩

/-- Reads `for` and the parameters after it. -/
def binder (ph : Phrases) : Parser (List Token) := Binder.tokens <$> binderParts ph

/-- Reads `for` and the parameters after it, if the word comes next. -/
def binder? (ph : Phrases) : Parser (List Token) := when? (isWord "for") (binder ph)

/-! ## Where clauses -/

/-- After `<`, what comes next begins parameters and not the self type of a path. -/
def beginsParams (ts : List Token) : Bool :=
  let second := afterTree ts
  let third := afterTree second
  isOp "<" ts
    && (isOp ">" second || isOp "#" second
      || ((isLifetime second || isIdent second)
        && (isOp ">" third || isOp "," third || (isOp ":" third && !isOp "::" third)
          || isOp "=" third))
      || isWord "const" second)

/-- A predicate or its last bound ends here. -/
def endsPredicate (ts : List Token) : Bool :=
  atEnd ts || isBrace ts || isOp "," ts || isOp ";" ts || (isOp ":" ts && !isOp "::" ts)
    || isOp "=" ts

/-- The bounds of a lifetime end here. -/
def endsLifetimeBounds (ts : List Token) : Bool := endsPredicate ts || isOp ":" ts

/-- Reads a predicate. -/
def predicate (ph : Phrases) : Parser Predicate := do
  let ts ← ahead
  if isLifetime ts && isOp ":" (afterTree ts) then
    let name ← lifetime
    let _ ← operator ":"
    return .lifetime name (← bounds endsLifetimeBounds lifetime)
  else
    let binder ← if isWord "for" ts then some <$> binderParts ph else pure none
    let subject ← ph.tokens (.type true)
    let _ ← operator ":"
    return .type binder subject (← bounds endsPredicate (ph.tokens (.bound false true)))

/-- Reads a where clause. -/
def whereClause (ph : Phrases) : Parser WhereClause := do
  let _ ← keyword "where"
  if beginsParams (← ahead) then reject .whereParameters
  else return ⟨← joined endsPredicate "," (predicate ph)⟩

/-- Reads a where clause, if the word comes next. -/
def whereClause? (ph : Phrases) : Parser (Option WhereClause) := do
  if isWord "where" (← ahead) then return some (← whereClause ph) else return none

end Parser

end Memberwise
