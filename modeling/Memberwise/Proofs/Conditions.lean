import Memberwise.Proofs.Definitions
import Memberwise.Proofs.Outcome

/-!
# Conditional members

A field may exist only under conditions, which stand in its `cfg` attributes. A compiler that decides
them can leave out the fields that do not exist before the initializer is made, or leave out what
belongs to them in the initializer. Both give the same, whatever it decides.

What is left out is said in the same way in all three places: in a struct, in a declaration and in an
initializer. Reading a struct and making an initializer each keep to it.

## Main definitions

* `enabled`: all conditions in some attributes hold
* `Definition.configured`, `Declaration.configured`, `Initializer.configured`: without what does not
  exist

## Main statements

* `declaration_configured`: reading leaves out the same
* `generate_configured`: so does making an initializer, for any declaration
* `initializer_configured`: the initializer of a struct
-/

namespace Memberwise

/-! ## Leaving out -/

/-- What has these attributes exists: each `cfg` among them is on. -/
def enabled (on : Attribute → Bool) (attributes : List Attribute) : Bool :=
  attributes.all fun a => !a.isNamed "cfg" || on a

/-- The field exists. -/
def NamedField.enabled (on : Attribute → Bool) (f : NamedField) : Bool :=
  Memberwise.enabled on f.attributes

/-- The definition without the fields that do not exist. Only a struct with named fields has any
that count. -/
def Definition.configured (on : Attribute → Bool) (d : Definition) : Definition :=
  { d with
    body := match d.body with
      | .struct keyword (.named fields) =>
        .struct keyword (.named { fields with items := fields.items.filter (NamedField.enabled on) })
      | body => body }

/-- The member exists. One without a name has no conditions. -/
def Member.enabled (on : Attribute → Bool) : Member → Bool
  | .stored _ _ cfgs => Memberwise.enabled on cfgs
  | .unnamed => true

/-- The declaration without the members that do not exist. -/
def Declaration.configured (on : Attribute → Bool) (d : Declaration) : Declaration :=
  { d with members := d.members.filter (Member.enabled on) }

/-- The initializer without the parameters and the assignments that do not exist. -/
def Initializer.configured (on : Attribute → Bool) (f : Initializer) : Initializer :=
  { f with
    parameters := f.parameters.filter fun p => enabled on p.cfgs
    assignments := f.assignments.filter fun s => enabled on s.cfgs }

/-! ## Reading -/

section Reading

variable (on : Attribute → Bool)

/-- The conditions among the attributes decide. -/
theorem enabled_cfgAttributes (attributes : List Attribute) :
    enabled on (cfgAttributes attributes) = enabled on attributes := by
  induction attributes with
  | nil => rfl
  | cons a attributes ih =>
    simp only [enabled, cfgAttributes] at ih ⊢
    by_cases hname : a.isNamed "cfg"
    · simp [hname, ih]
    · simp [hname, ih]

/-- A field exists if its member does. -/
theorem enabled_member (f : NamedField) : f.member.enabled on = f.enabled on :=
  enabled_cfgAttributes on f.attributes

theorem members_configured (d : Definition) :
    (d.configured on).body.members = d.body.members.filter (Member.enabled on) := by
  cases hbody : d.body with
  | struct keyword fields =>
    cases fields with
    | named fields =>
      have hsame : (Member.enabled on ∘ NamedField.member) = NamedField.enabled on :=
        funext (enabled_member on)
      simp [Definition.configured, hbody, Body.members, Fields.members, List.filter_map, hsame]
    | positional fields =>
      symm
      simp [Definition.configured, hbody, Body.members, Fields.members, Member.enabled]
    | unit => simp [Definition.configured, hbody, Body.members, Fields.members]
  | enum | union => simp [Definition.configured, hbody, Body.members]

theorem kind_configured (d : Definition) : (d.configured on).body.kind = d.body.kind := by
  cases hbody : d.body with
  | struct keyword fields =>
    cases fields <;> simp [Definition.configured, hbody, Body.kind, Fields.kind]
  | enum | union => simp [Definition.configured, hbody, Body.kind]

theorem keyword_configured (d : Definition) : (d.configured on).body.keyword = d.body.keyword := by
  cases hbody : d.body with
  | struct keyword fields => cases fields <;> simp [Definition.configured, hbody, Body.keyword]
  | enum | union => simp [Definition.configured, hbody, Body.keyword]

/-- To read a definition and then leave out members is to leave out fields and then read it. -/
theorem declaration_configured (d : Definition) :
    (d.configured on).declaration = d.declaration.configured on := by
  simp only [Definition.declaration, Declaration.configured, members_configured, kind_configured,
    keyword_configured]
  rfl

end Reading

/-! ## Making the initializer -/

section Making

variable (on : Attribute → Bool)

/-- A member exists if its field does. -/
theorem enabled_field {m : Member} {f : Field} (h : m.field? = some f) :
    m.enabled on = enabled on f.cfgs := by
  cases m with
  | unnamed => cases h
  | stored name type cfgs =>
    cases type with
    | none => cases h
    | some type =>
      cases h
      rfl

theorem extractFields_configured (members : List Member) :
    extractFields (members.filter (Member.enabled on))
      = (extractFields members).filter fun f => enabled on f.cfgs := by
  rw [extractFields, extractFields, List.filterMap_filter, List.filter_filterMap]
  congr 1
  funext m
  cases hfield : m.field? with
  | none => simp
  | some f => simp [Option.filter, enabled_field on hfield]

/-- A field, its parameter and its assignment have the same conditions. -/
theorem map_configured {α : Type} (f : Field → α) (cfgs : α → List Attribute)
    (hcfgs : ∀ a, cfgs (f a) = a.cfgs) (fields : List Field) :
    (fields.filter fun a => enabled on a.cfgs).map f
      = (fields.map f).filter fun b => enabled on (cfgs b) := by
  rw [List.filter_map]
  simp only [Function.comp_def, hcfgs]

/-- To make the initializer of a declaration and then leave out what does not exist is to leave out
the members and then make it. This holds of any declaration, and of the failure as well. -/
theorem generate_configured (d : Declaration) (a : Arguments) :
    Initializer.generate (d.configured on) a
      = (Initializer.generate d a).map (Initializer.configured on) := by
  unfold Initializer.generate
  by_cases hkind : d.kind.isProduct
  · have hkind' : (d.configured on).kind.isProduct := hkind
    rw [if_pos hkind, if_pos hkind']
    simp only [Except.map, Declaration.configured, Initializer.configured, extractFields_configured,
      map_configured on Field.parameter Parameter.cfgs fun _ => rfl,
      map_configured on Field.assignment Assignment.cfgs fun _ => rfl]
  · have hkind' : ¬ (d.configured on).kind.isProduct := hkind
    rw [if_neg hkind, if_neg hkind']
    rfl

end Making

/-! ## The initializer of a struct -/

/-- The parameters and the assignments for a struct with named fields have the names of the fields. -/
theorem names_of_generate {d : Definition} {a : Arguments} {f : Initializer}
    (h : Initializer.generate d.declaration a = .ok f) :
    f.parameters.map (·.name) = d.body.namedFields.map (·.name)
      ∧ f.assignments.map (·.member) = d.body.namedFields.map (·.name) := by
  obtain ⟨-, -, -, -, hparameters, hassignments⟩ := generate_eq_ok h
  have hfields : extractFields d.declaration.members = d.body.namedFields.map NamedField.field :=
    extractFields_members d.body
  rw [hparameters, hassignments, hfields]
  simp only [List.map_map]
  exact ⟨rfl, rfl⟩

/-- A struct with named fields, read as an item or by itself, has an initializer. Without the
parameters and assignments that do not exist it is the initializer of the struct without the fields
that do not exist, and is written in the same way. What is left has the names of the fields that are
left, in their order. -/
theorem initializer_configured {d : Definition} {keyword : Name} {fields : Listed NamedField}
    (hbody : d.body = .struct keyword (.named fields)) {read : Definition → Declaration}
    (hread : read = Definition.declaration ∨ read = fun d => d.item.declaration)
    (a : Arguments) (on : Attribute → Bool) :
    ∃ f g, Initializer.generate (read d) a = .ok f
      ∧ Initializer.generate (read (d.configured on)) a = .ok g
      ∧ g = { f with
          parameters := f.parameters.filter fun p => enabled on p.cfgs
          assignments := f.assignments.filter fun s => enabled on s.cfgs }
      ∧ g.implTokens = (f.configured on).implTokens
      ∧ g.parameters.map (·.name) = (fields.items.filter (NamedField.enabled on)).map (·.name)
      ∧ g.assignments.map (·.member)
        = (fields.items.filter (NamedField.enabled on)).map (·.name) := by
  obtain rfl : read = Definition.declaration := by
    obtain rfl | rfl := hread
    · rfl
    · exact funext declaration_item
  have hkind : d.declaration.kind.isProduct := by
    simp [Definition.declaration, hbody, Body.kind, Fields.kind, Kind.isProduct]
  obtain ⟨f, hf, -⟩ := initializer_of_isProduct hkind a
  have hg : Initializer.generate (d.configured on).declaration a = .ok (f.configured on) := by
    rw [declaration_configured, generate_configured, hf]
    rfl
  have hleft : (d.configured on).body.namedFields = fields.items.filter (NamedField.enabled on) := by
    simp [Definition.configured, hbody, Body.namedFields]
  obtain ⟨hparameters, hassignments⟩ := names_of_generate hg
  rw [hleft] at hparameters hassignments
  exact ⟨f, f.configured on, hf, hg, rfl, rfl, hparameters, hassignments⟩

open Generated

/-- For `struct Probe { #[cfg(unix)] #[cfg(test)] x: u8, #[a::cfg(test)] y: u16 }` where `test` is off:
the path of the second attribute has two words, so only `x` is left out. -/
theorem initializer_configured_probe :
    let condition (path : List Token) (option : String) : List Token :=
      operator "#" ++ group .bracket (path ++ group .parenthesis (word option))
    let item := word "struct" ++ word "Probe" ++ group .brace (
      condition (word "cfg") "unix" ++ condition (word "cfg") "test" ++ word "x" ++ operator ":"
        ++ word "u8" ++ operator ","
        ++ condition (word "a" ++ operator "::" ++ word "cfg") "test" ++ word "y" ++ operator ":"
        ++ word "u16")
    let on (a : Attribute) : Bool := !(lexemes a.tokens).contains (.ident "test")
    ∃ d keyword fields f g, readDefinition item = .ok d ∧ d.body = .struct keyword (.named fields)
      ∧ Initializer.generate d.declaration {} = .ok f
      ∧ Initializer.generate (d.configured on).declaration {} = .ok g
      ∧ f.parameters.map (·.name.text) = ["x", "y"] ∧ g.parameters.map (·.name.text) = ["y"]
      ∧ g.implTokens = (f.configured on).implTokens := by
  intro condition item on
  obtain ⟨d, hread, htest⟩ := @readDefinition_of_any item (fun d =>
    decide (d.body.kind = .struct ∧ d.body.namedFields.map (·.name.text) = ["x", "y"]
      ∧ (d.body.namedFields.filter (NamedField.enabled on)).map (·.name.text) = ["y"]))
    (by decide +kernel)
  obtain ⟨hkind, hall, hleft⟩ := of_decide_eq_true htest
  obtain ⟨keyword, fields, hbody⟩ := d.body.kind_eq_struct.1 hkind
  have hfields : d.body.namedFields = fields.items := by rw [hbody, Body.namedFields]
  obtain ⟨f, g, hf, hg, -, htokens, hnames, -⟩ := initializer_configured hbody (.inl rfl) {} on
  have htext : f.parameters.map (·.name.text) = ["x", "y"] := by
    rw [← hall]
    simpa [Function.comp_def] using congrArg (List.map Name.text) (names_of_generate hf).1
  have htext' : g.parameters.map (·.name.text) = ["y"] := by
    rw [← hleft, hfields]
    simpa [Function.comp_def] using congrArg (List.map Name.text) hnames
  exact ⟨d, keyword, fields, f, g, hread, hbody, hf, hg, htext, htext', htokens⟩

end Memberwise
