import Memberwise.Proofs.Definitions
import Memberwise.Proofs.Quote
import Memberwise.Proofs.Stream

/-!
# Outcomes of expansions

An expansion can fail in four places: the item, the arguments, the helper attribute and the kind of
the item. Whatever goes wrong at once, one error is reported and nothing is generated; the attribute
gives the item back all the same, if it can be read.

## Main definitions

* `Reports`: a stream reports one error and is nothing else
* `Item.Buildable`: the items that have an initializer
* `Builds`: a stream is the implementation of an initializer

## Main statements

* `reports_tokens`: the tokens of a diagnostic report it
* `isProduct_iff_buildable`: which declarations have an initializer
* `generate_eq_ok`, `assignments_eq`: what an initializer is made of, and how its lists are aligned
* `adds_added`: what an expansion adds to an item
-/

namespace Memberwise

open Generated

/-! ## Reports -/

/-- The stream reports the error at its place, with its message, and no more. Nothing in it begins
an implementation. -/
structure Reports (ts : List Token) (d : Diagnostic) : Prop where
  tokens_eq : ts = d.tokens
  reported : reportedErrors ts = [(d.message, d.span)]
  generatesNothing : Lexeme.ident "impl" ∉ lexemes ts

/-- A report in its ten tokens. -/
theorem Diagnostic.tokens_eq (d : Diagnostic) :
    d.tokens = [⟨.punct ':' .joint, d.span⟩, ⟨.punct ':' .alone, d.span⟩, ⟨.ident "core", d.span⟩,
      ⟨.punct ':' .joint, d.span⟩, ⟨.punct ':' .alone, d.span⟩, ⟨.ident "compile_error", d.span⟩,
      ⟨.punct '!' .alone, d.span⟩, ⟨.opening .brace, d.span⟩,
      ⟨.literal (Text.quote d.message), d.span⟩, ⟨.closing .brace, d.span⟩] := by
  rfl

/-- A report in front of others is found, with what follows it. -/
theorem report?_tokens (d : Diagnostic) (rest : List Token) :
    report? (d.tokens ++ rest) = some (d.message, d.span, rest) := by
  rw [d.tokens_eq]
  have hshape : lexemes (operator "::" ++ word "core" ++ operator "::" ++ word "compile_error"
      ++ operator "!")
      = [.punct ':' .joint, .punct ':' .alone, .ident "core", .punct ':' .joint, .punct ':' .alone,
        .ident "compile_error", .punct '!' .alone] := by rfl
  rw [report?, hshape]
  simp [splitTree, splitGroup, Text.isString_quote, Text.ofText?_quote, spanOf, Span.join]

theorem reportedErrors_tokens (d : Diagnostic) :
    reportedErrors d.tokens = [(d.message, d.span)] := by
  have hreport := report?_tokens d []
  rw [List.append_nil] at hreport
  have hlength : d.tokens.length = 10 := by rw [d.tokens_eq]; rfl
  rw [reportedErrors, iterate_eq]
  simp only [hreport, hlength]
  rw [if_pos (by decide), iterate_eq]
  rfl

/-- The tokens of a diagnostic report it. -/
theorem reports_tokens (d : Diagnostic) : Reports d.tokens d where
  tokens_eq := rfl
  reported := reportedErrors_tokens d
  generatesNothing := by simp [d.tokens_eq]

/-! ## Initializers -/

/-- The item is a struct with named fields, or one without fields. -/
def Item.Buildable (i : Item) : Prop :=
  ∃ s, i = .struct s ∧ ((∃ fields, s.fields = .named fields) ∨ s.fields = .unit)

/-- The stream is one implementation, with the initializer of the declaration in it. -/
def Builds (ts : List Token) (d : Declaration) (a : Arguments) : Prop :=
  ∃ f header, Initializer.generate d a = .ok f
    ∧ ts = word "impl" ++ header ++ group .brace f.functionTokens ∧ ts = f.implTokens

theorem Fields.isProduct_kind (fields : Fields) :
    fields.kind.isProduct ↔ (∃ named, fields = .named named) ∨ fields = .unit := by
  cases fields <;> simp [Fields.kind, Kind.isProduct]

theorem Body.kind_eq_struct (b : Body) :
    b.kind = .struct ↔ ∃ keyword fields, b = .struct keyword (.named fields) := by
  cases b with
  | struct keyword fields => cases fields <;> simp [Body.kind, Fields.kind]
  | enum keyword variants => simp [Body.kind]
  | union keyword fields => simp [Body.kind]

/-- Only structs with named fields or without fields have an initializer. -/
theorem isProduct_iff_buildable (i : Item) : i.declaration.kind.isProduct ↔ i.Buildable := by
  cases i with
  | struct s => simpa [Item.Buildable, Item.declaration] using s.fields.isProduct_kind
  | enum | union | trait | traitAlias | typeAlias | function | module | constant | static =>
    simp [Item.Buildable, Item.declaration, Declaration.named, Kind.isProduct]
  | implementation | use | externCrate | foreign | macroCall | verbatim =>
    simp [Item.Buildable, Item.declaration, Declaration.unnamed, Kind.isProduct]

/-- So it is with what a derive is for. -/
theorem isProduct_iff_buildable_item (d : Definition) :
    d.declaration.kind.isProduct ↔ d.item.Buildable := by
  rw [← declaration_item]
  exact isProduct_iff_buildable d.item

/-- The fields of a struct with named fields. Nothing else has named fields that are members. -/
def Body.namedFields : Body → List NamedField
  | .struct _ (.named fields) => fields.items
  | _ => []

/-- The field as an initializer takes it. -/
def NamedField.field (f : NamedField) : Field := ⟨f.name, f.type, cfgAttributes f.attributes⟩

/-- No named field of a definition is skipped, and nothing else is a field. -/
theorem extractFields_members (b : Body) :
    extractFields b.members = b.namedFields.map NamedField.field := by
  cases b with
  | struct keyword fields =>
    cases fields with
    | named fields =>
      rw [Body.members, Fields.members, Body.namedFields, extractFields, List.filterMap_map]
      exact congrFun List.filterMap_eq_map fields.items
    | positional fields =>
      simp [Body.members, Fields.members, Body.namedFields, extractFields, Member.field?]
    | unit => rfl
  | enum keyword variants => rfl
  | union keyword fields => rfl

/-- The initializer of a definition has a parameter and an assignment for each of its named fields. -/
theorem generate_of_isProduct {d : Definition} (h : d.declaration.kind.isProduct)
    (arguments : Arguments) :
    Initializer.generate d.declaration arguments = .ok {
      name := arguments.functionName
      access := d.visibility.access
      selfType := d.name
      generics := d.generics
      parameters := (d.body.namedFields.map NamedField.field).map Field.parameter
      assignments := (d.body.namedFields.map NamedField.field).map Field.assignment } := by
  rw [Initializer.generate, if_pos h, ← extractFields_members]
  rfl

/-- What an initializer takes from its declaration and its arguments. -/
theorem generate_eq_ok {d : Declaration} {a : Arguments} {f : Initializer}
    (h : Initializer.generate d a = .ok f) :
    f.name = a.functionName ∧ f.access = d.access ∧ f.selfType = d.name ∧ f.generics = d.generics
      ∧ f.parameters = (extractFields d.members).map Field.parameter
      ∧ f.assignments = (extractFields d.members).map Field.assignment := by
  unfold Initializer.generate at h
  split at h
  · injection h with h
    subst h
    exact ⟨rfl, rfl, rfl, rfl, rfl, rfl⟩
  · cases h

/-- The two lists are aligned: each assignment is the parameter at its place, without the type. -/
theorem assignments_eq {d : Declaration} {a : Arguments} {f : Initializer}
    (h : Initializer.generate d a = .ok f) :
    f.assignments = f.parameters.map fun p => ⟨p.name, p.cfgs⟩ := by
  obtain ⟨-, -, -, -, hparameters, hassignments⟩ := generate_eq_ok h
  rw [hparameters, hassignments, List.map_map]
  rfl

theorem builds_implTokens {d : Declaration} {a : Arguments} {f : Initializer}
    (h : Initializer.generate d a = .ok f) : Builds f.implTokens d a :=
  ⟨f, f.generics.implTokens ++ f.selfType.tokens ++ f.generics.argumentTokens
    ++ f.generics.whereTokens, h, by simp [Initializer.implTokens], rfl⟩

theorem initializer_of_isProduct {d : Declaration} (h : d.kind.isProduct) (a : Arguments) :
    ∃ f, Initializer.generate d a = .ok f ∧ d.initializer a = .ok f := by
  refine ⟨_, if_pos h, ?_⟩
  rw [Declaration.initializer, Initializer.generate, if_pos h]
  rfl

theorem initializer_of_not_isProduct {d : Declaration} (h : ¬ d.kind.isProduct) (a : Arguments) :
    d.initializer a = .error (.present .unsupportedKind d.keywordSpan) := by
  rw [Declaration.initializer, Initializer.generate, if_neg h]
  rfl

/-! ## What is added -/

/-- What is added for an item that can be read: the error of the arguments, whatever the item is,
or else what its kind allows. -/
def Adds (ts : List Token) (i : Item) (arguments : Except Diagnostic Arguments) : Prop :=
  (∃ e, arguments = .error e ∧ Reports ts e)
    ∨ (∃ a, arguments = .ok a ∧ i.Buildable ∧ Builds ts i.declaration a)
    ∨ ∃ a, arguments = .ok a ∧ ¬ i.Buildable
        ∧ Reports ts (.present .unsupportedKind i.declaration.keywordSpan)

theorem adds_added (i : Item) (arguments : Except Diagnostic Arguments) (kept : Option Item) :
    Adds (Expansion.added ⟨kept, arguments >>= i.declaration.initializer⟩) i arguments := by
  cases arguments with
  | error e => exact .inl ⟨e, rfl, reports_tokens e⟩
  | ok a =>
    by_cases h : i.declaration.kind.isProduct
    · obtain ⟨f, hf, hinit⟩ := initializer_of_isProduct h a
      refine .inr (.inl ⟨a, rfl, (isProduct_iff_buildable i).1 h, ?_⟩)
      simp only [bind, Except.bind, hinit, Expansion.added]
      exact builds_implTokens hf
    · refine .inr (.inr ⟨a, rfl, mt (isProduct_iff_buildable i).2 h, ?_⟩)
      simp only [bind, Except.bind, initializer_of_not_isProduct h, Expansion.added]
      exact reports_tokens _

end Memberwise
