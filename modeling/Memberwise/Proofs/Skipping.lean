import Mathlib.Data.List.Basic
import Memberwise.Proofs.Outcome

/-!
# Members that are skipped

A declaration may have members that no initializer can give a value: those without a type and those
without a name. No reader makes a declaration that mixes them with others, but an initializer is made
of any list of members. They are no fields, wherever they stand. The parameters and the assignments are
two lists with an entry for each field, so that in neither is a place left empty.

## Main definitions

* `Member.isTyped`: the members that are given a value
* `Member.SameTyped`: lists that differ only in members that are skipped
* `Initializer.followedBy`: the initializer of some members and then of others

## Main statements

* `members_extractFields`: the fields are the members with a name and a type
* `extractFields_of_sameTyped`: members that are skipped make no difference to the fields
* `generate_append`: some members and then others
* `generate_of_any_members`: what is made of any declaration
-/

namespace Memberwise

/-- The member is given a value: it has a name and a type. -/
def Member.isTyped : Member → Bool
  | stored _ (some _) _ => true
  | stored _ none _ => false
  | unnamed => false

/-- The member that a field was. -/
def Field.member (f : Field) : Member := .stored f.name (some f.type) f.cfgs

/-- The member that a parameter is for. -/
def Parameter.member (p : Parameter) : Member := .stored p.name (some p.type) p.cfgs

theorem Field.member_injective : Function.Injective Field.member := by
  rintro ⟨name, type, cfgs⟩ ⟨name', type', cfgs'⟩ h
  cases h
  rfl

/-! ## Lists with the same typed members -/

/-- One list comes from the other by leaving out and putting in, at any places, members that are not
given a value. -/
inductive Member.SameTyped : List Member → List Member → Prop
  | nil : SameTyped [] []
  | kept (m : Member) {ms ns : List Member} (rest : SameTyped ms ns) : SameTyped (m :: ms) (m :: ns)
  | leftOut {m : Member} {ms ns : List Member} (skipped : m.isTyped = false)
    (rest : SameTyped ms ns) : SameTyped (m :: ms) ns
  | putIn {m : Member} {ms ns : List Member} (skipped : m.isTyped = false)
    (rest : SameTyped ms ns) : SameTyped ms (m :: ns)

theorem Member.SameTyped.filter_eq {ms ns : List Member} (h : SameTyped ms ns) :
    ms.filter isTyped = ns.filter isTyped := by
  induction h with
  | nil => rfl
  | kept m _ ih => simp only [List.filter_cons, ih]
  | leftOut skipped _ ih => rw [List.filter_cons_of_neg (by simp [skipped]), ih]
  | putIn skipped _ ih => rw [List.filter_cons_of_neg (by simp [skipped]), ih]

/-! ## Fields -/

/-- The fields are the members with a name and a type, in their order. -/
theorem members_extractFields (ms : List Member) :
    (extractFields ms).map Field.member = ms.filter Member.isTyped := by
  induction ms with
  | nil => rfl
  | cons m ms ih =>
    cases m with
    | unnamed => exact ih
    | stored name type cfgs =>
      cases type with
      | none => exact ih
      | some type => exact congrArg (Member.stored name (some type) cfgs :: ·) ih

/-- Members that are skipped make no difference to the fields. -/
theorem extractFields_of_sameTyped {ms ns : List Member} (h : Member.SameTyped ms ns) :
    extractFields ms = extractFields ns := by
  refine List.map_injective_iff.2 Field.member_injective ?_
  rw [members_extractFields, members_extractFields, h.filter_eq]

/-- The fields of some members and then of others. -/
theorem extractFields_append (xs ys : List Member) :
    extractFields (xs ++ ys) = extractFields xs ++ extractFields ys :=
  List.filterMap_append

/-! ## Initializers -/

/-- The parameters and assignments of one initializer, and then those of another. -/
def Initializer.followedBy (f g : Initializer) : Initializer :=
  { f with
    parameters := f.parameters ++ g.parameters
    assignments := f.assignments ++ g.assignments }

/-- There is no initializer exactly if the item is no struct with named members or without members. -/
theorem generate_eq_error {d : Declaration} {a : Arguments} {e : GenerationError} :
    Initializer.generate d a = .error e
      ↔ e = .unsupportedKind ∧ d.kind ≠ .struct ∧ d.kind ≠ .unitStruct := by
  have hkind : d.kind.isProduct = false ↔ d.kind ≠ .struct ∧ d.kind ≠ .unitStruct := by
    cases d.kind <;> simp [Kind.isProduct]
  rw [← hkind]
  cases e
  cases h : d.kind.isProduct <;> simp [Initializer.generate, h]

/-- Some members and then others have the parameters and assignments of both, one after the other. -/
theorem generate_append (d : Declaration) (a : Arguments) (xs ys : List Member) :
    Initializer.generate { d with members := xs ++ ys } a = (do
      let f ← Initializer.generate { d with members := xs } a
      let g ← Initializer.generate { d with members := ys } a
      return f.followedBy g) := by
  cases h : d.kind.isProduct with
  | false => simp [Initializer.generate, h, bind, Except.bind]
  | true =>
    simp [Initializer.generate, h, bind, Except.bind, pure, Except.pure, Initializer.followedBy,
      extractFields_append]

/-- Members that are skipped make no difference at all. -/
theorem generate_of_sameTyped (d : Declaration) (a : Arguments) {ms : List Member}
    (h : Member.SameTyped ms d.members) :
    Initializer.generate { d with members := ms } a = Initializer.generate d a := by
  simp only [Initializer.generate, extractFields_of_sameTyped h]

/-- What is made of any declaration, whatever its members are. It fails for the kind alone. Otherwise
the parameters are for the members with a name and a type, in their order, and the assignments are the
parameters without their types. The members of two lists, one after the other, have the parameters and
assignments of both, and members without a type or without a name change neither the initializer nor
what is written of it, wherever they are put in or left out. -/
theorem generate_of_any_members (d : Declaration) (a : Arguments) :
    (∀ e, Initializer.generate d a = .error e
        ↔ e = .unsupportedKind ∧ d.kind ≠ .struct ∧ d.kind ≠ .unitStruct)
      ∧ (∀ f, Initializer.generate d a = .ok f →
        f.parameters.map Parameter.member = d.members.filter Member.isTyped
          ∧ f.assignments = f.parameters.map fun p => ⟨p.name, p.cfgs⟩)
      ∧ (∀ xs ys, Initializer.generate { d with members := xs ++ ys } a = (do
        let f ← Initializer.generate { d with members := xs } a
        let g ← Initializer.generate { d with members := ys } a
        return { f with
          parameters := f.parameters ++ g.parameters
          assignments := f.assignments ++ g.assignments }))
      ∧ ∀ ms, Member.SameTyped ms d.members →
        Initializer.generate { d with members := ms } a = Initializer.generate d a
          ∧ ∀ f g, Initializer.generate { d with members := ms } a = .ok f →
            Initializer.generate d a = .ok g →
            f.functionTokens = g.functionTokens ∧ f.implTokens = g.implTokens := by
  refine ⟨fun e => generate_eq_error, fun f hf => ?_, generate_append d a, fun ms hms => ?_⟩
  · obtain ⟨-, -, -, -, hparameters, -⟩ := generate_eq_ok hf
    refine ⟨?_, assignments_eq hf⟩
    rw [hparameters, List.map_map, ← members_extractFields]
    rfl
  · have hsame := generate_of_sameTyped d a hms
    refine ⟨hsame, fun f g hf hg => ?_⟩
    obtain rfl : f = g := Except.ok.inj (hf.symm.trans (hsame.trans hg))
    exact ⟨rfl, rfl⟩

end Memberwise
