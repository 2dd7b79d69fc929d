import Memberwise.Proofs.Equivalence

/-!
# What an initializer depends on

The implementation that is added to a struct shows its name, whether it is public, its parameters
without their defaults, its where clause, and the name, the type and the `cfg` attributes of each
field. Two structs that agree on these get the same implementation, whatever else is different in them.

## Main definitions

* `Definition.outline`: what the implementation shows of a definition, without places
* `Definition.ShowsAs`: what is written of two definitions in an implementation is the same
* `Arguments.written`: the arguments in the helper attributes, without places

## Main statements

* `lexemes_added_expandAttribute`: what is added is the same if what it shows is
* `expansions_of_outline`: both expansions add the same
-/

namespace Memberwise

open Generated

/-! ## Outlines -/

/-- The parameter without its default: whether it is a lifetime, its name and its tokens. -/
def GenericParam.outline (p : GenericParam) : Bool × List Lexeme × List Lexeme :=
  (p.isLifetime, lexemes p.name, lexemes p.withoutDefault.tokens)

/-- The field as a member: its name, its type and its `cfg` attributes, in their order. -/
def NamedField.outline (f : NamedField) : String × List Lexeme × List (List Lexeme) :=
  (f.name.text, lexemes f.type, (cfgAttributes f.attributes).map fun a => lexemes a.tokens)

/-- What an implementation shows of a definition, without places. -/
structure Outline where
  name : String
  access : Access
  params : Listed (Bool × List Lexeme × List Lexeme)
  condition : List Lexeme
  fields : List (String × List Lexeme × List (List Lexeme))
  deriving DecidableEq, Repr

/-- The outline of a definition. -/
def Definition.outline (d : Definition) : Outline where
  name := d.name.text
  access := d.visibility.access
  params := d.generics.params.map GenericParam.outline
  condition := lexemes d.generics.whereTokens
  fields := d.body.namedFields.map NamedField.outline

namespace Listed

variable {α β : Type}

/-- Items can be replaced before or after they are put in order. -/
theorem sortedBy_map (early : β → Bool) (f : α → β) (l : Listed α) :
    (l.map f).sortedBy early = (l.sortedBy (early ∘ f)).map f := by
  simp [sortedBy, map, List.filter_map, List.getLast?_map, Option.any_map, Function.comp_def]

end Listed

/-! ## Parameters -/

/-- Parameters with the same outlines are put in the same order. -/
theorem outlines_ordered {g g' : Generics}
    (h : g.params.map GenericParam.outline = g'.params.map GenericParam.outline) :
    g.ordered.map GenericParam.outline = g'.ordered.map GenericParam.outline := by
  have hsorted (g : Generics) : g.ordered.map GenericParam.outline
      = (g.params.map GenericParam.outline).sortedBy Prod.fst :=
    (Listed.sortedBy_map Prod.fst GenericParam.outline g.params).symm
  rw [hsorted, hsorted, h]

/-- Lists that show the same are written alike. -/
theorem sameItems_of_map {f g : GenericParam → List Token} {l m : Listed GenericParam}
    (h : l.map (fun p => lexemes (f p)) = m.map fun p => lexemes (g p)) : Parser.SameItems f l g m := by
  have hempty : l.isEmpty = m.isEmpty := by
    rw [← Listed.isEmpty_map fun p => lexemes (f p), h, Listed.isEmpty_map]
  have htrailing : l.trailing = m.trailing := (Listed.mk.inj h).2
  exact ⟨(Listed.mk.inj h).1, by rw [hempty, htrailing]⟩

theorem lexemes_implTokens_generics {g g' : Generics}
    (h : g.params.map GenericParam.outline = g'.params.map GenericParam.outline) :
    lexemes g.implTokens = lexemes g'.implTokens := by
  refine lexemes_angled (sameItems_of_map ?_)
  have hparts := congrArg (Listed.map (·.2.2)) (outlines_ordered h)
  simpa [Listed.map, GenericParam.outline, Function.comp_def] using hparts

theorem lexemes_argumentTokens {g g' : Generics}
    (h : g.params.map GenericParam.outline = g'.params.map GenericParam.outline) :
    lexemes g.argumentTokens = lexemes g'.argumentTokens := by
  refine lexemes_angled (sameItems_of_map ?_)
  have hparts := congrArg (Listed.map (·.2.1)) (outlines_ordered h)
  simpa [Listed.map, GenericParam.outline, Function.comp_def] using hparts

/-! ## Members -/

theorem lexemes_parameter {f g : NamedField} (h : f.outline = g.outline) :
    lexemes f.field.parameter.tokens = lexemes g.field.parameter.tokens := by
  simp only [NamedField.outline, Prod.mk.injEq] at h
  simp [NamedField.field, Field.parameter, Parameter.tokens, lexemes_listTokens h.2.2, Name.tokens,
    h.1, h.2.1]

theorem lexemes_assignment {f g : NamedField} (h : f.outline = g.outline) :
    lexemes f.field.assignment.tokens = lexemes g.field.assignment.tokens := by
  simp only [NamedField.outline, Prod.mk.injEq] at h
  simp [NamedField.field, Field.assignment, Assignment.tokens, lexemes_listTokens h.2.2, Name.tokens,
    h.1]

/-- What is written for fields with the same outlines, if the outline decides what is written. -/
theorem lexemes_between_of_outlines {written : NamedField → List Token}
    (hwritten : ∀ {f g : NamedField}, f.outline = g.outline → lexemes (written f) = lexemes (written g))
    {fs gs : List NamedField} (h : fs.map NamedField.outline = gs.map NamedField.outline) :
    lexemes (Listed.between (operator ",") (fs.map written))
      = lexemes (Listed.between (operator ",") (gs.map written)) := by
  apply Parser.lexemes_between
  induction fs generalizing gs with
  | nil =>
    obtain rfl : gs = [] := by simpa using h.symm
    rfl
  | cons f fs ih =>
    cases gs with
    | nil => cases h
    | cons g gs =>
      simp only [List.map_cons, List.cons.injEq] at h ⊢
      exact ⟨hwritten h.1, ih h.2⟩

/-! ## Implementations -/

/-- All that is written of two definitions in an implementation is the same, if anything is. -/
structure Definition.ShowsAs (d e : Definition) : Prop where
  product : d.declaration.kind.isProduct = e.declaration.kind.isProduct
  name : d.name.text = e.name.text
  access : d.visibility.access = e.visibility.access
  implTokens : lexemes d.generics.implTokens = lexemes e.generics.implTokens
  argumentTokens : lexemes d.generics.argumentTokens = lexemes e.generics.argumentTokens
  whereTokens : lexemes d.generics.whereTokens = lexemes e.generics.whereTokens
  fields : d.body.namedFields.map NamedField.outline = e.body.namedFields.map NamedField.outline

/-- The outline decides what is written, whatever the order of the parameters is in the source. -/
theorem showsAs_of_outline {d e : Definition} (houtline : d.outline = e.outline)
    (hkind : d.declaration.kind.isProduct = e.declaration.kind.isProduct) : d.ShowsAs e := by
  obtain ⟨hname, haccess, hparams, hcondition, hfields⟩ :
      d.name.text = e.name.text ∧ d.visibility.access = e.visibility.access
        ∧ d.generics.params.map GenericParam.outline = e.generics.params.map GenericParam.outline
        ∧ lexemes d.generics.whereTokens = lexemes e.generics.whereTokens
        ∧ d.body.namedFields.map NamedField.outline = e.body.namedFields.map NamedField.outline :=
    Outline.mk.inj houtline
  exact ⟨hkind, hname, haccess, lexemes_implTokens_generics hparams, lexemes_argumentTokens hparams,
    hcondition, hfields⟩

/-- What an implementation shows of its initializer. -/
theorem lexemes_implTokens {f g : Initializer} (hname : f.name.text = g.name.text)
    (haccess : f.access = g.access) (hself : f.selfType.text = g.selfType.text)
    (hparams : lexemes f.generics.implTokens = lexemes g.generics.implTokens)
    (harguments : lexemes f.generics.argumentTokens = lexemes g.generics.argumentTokens)
    (hcondition : lexemes f.generics.whereTokens = lexemes g.generics.whereTokens)
    (hparameters : lexemes (Listed.between (operator ",") (f.parameters.map Parameter.tokens))
      = lexemes (Listed.between (operator ",") (g.parameters.map Parameter.tokens)))
    (hassignments : lexemes (Listed.between (operator ",") (f.assignments.map Assignment.tokens))
      = lexemes (Listed.between (operator ",") (g.assignments.map Assignment.tokens))) :
    lexemes f.implTokens = lexemes g.implTokens := by
  simp only [Initializer.implTokens, Initializer.functionTokens, Name.tokens, group, lexemes_append,
    lexemes_cons, lexemes_nil, hname, haccess, hself, hparams, harguments, hcondition, hparameters,
    hassignments]

/-- Definitions that show the same get the same initializer, or none for the same reason. -/
theorem sameOutcome_initializer {d d' : Definition} (hshows : d.ShowsAs d') {a a' : Arguments}
    (harguments : a.Alike False a') :
    SameOutcome (fun f g => lexemes f.implTokens = lexemes g.implTokens)
      (d.declaration.initializer a) (d'.declaration.initializer a') := by
  by_cases h : d.declaration.kind.isProduct
  · have h' : d'.declaration.kind.isProduct := hshows.product ▸ h
    rw [Declaration.initializer, Declaration.initializer, generate_of_isProduct h,
      generate_of_isProduct h']
    refine .ok (lexemes_implTokens harguments.functionName hshows.access hshows.name
      hshows.implTokens hshows.argumentTokens hshows.whereTokens ?_ ?_)
    · simp only [List.map_map]
      exact lexemes_between_of_outlines lexemes_parameter hshows.fields
    · simp only [List.map_map]
      exact lexemes_between_of_outlines lexemes_assignment hshows.fields
  · have h' : ¬ d'.declaration.kind.isProduct := hshows.product ▸ h
    rw [initializer_of_not_isProduct h, initializer_of_not_isProduct h']
    exact .error rfl

theorem lexemes_added {e e' : Expansion}
    (h : SameOutcome (fun f g => lexemes f.implTokens = lexemes g.implTokens) e.outcome e'.outcome) :
    lexemes e.added = lexemes e'.added := by
  obtain ⟨item, outcome⟩ := e
  obtain ⟨item', outcome'⟩ := e'
  cases h with
  | ok h => exact h
  | error h => exact (lexemes_tokens_of_message h).symm

/-- What the attribute adds to a definition depends on what an implementation shows of it. -/
theorem lexemes_added_expandAttribute {item item' : List Token} {d d' : Definition}
    (hread : readDefinition item = .ok d) (hread' : readDefinition item' = .ok d')
    (hshows : d.ShowsAs d') {arguments arguments' : List Token}
    (harguments : lexemes arguments = lexemes arguments') :
    lexemes (expandAttribute arguments item).added
      = lexemes (expandAttribute arguments' item').added := by
  apply lexemes_added
  simp only [expandAttribute, readItem_eq_definition.2 hread, readItem_eq_definition.2 hread',
    declaration_item]
  refine SameOutcome.bind (R := Arguments.Alike False) ?_ fun a a' ha =>
    sameOutcome_initializer hshows ha
  exact Parser.alike_arguments.parseAll (sameTokens_of_lexemes harguments) .outside .outside

/-! ## The helper attribute -/

/-- The arguments in an attribute, which are none if it has no brackets. Those of an attribute with a
value are nowhere. -/
def Attribute.Content.written : Attribute.Content → Option (List Lexeme)
  | .bare => some []
  | .arguments _ content _ => some (lexemes content)
  | .value _ _ => none

/-- The arguments in each of the helper attributes. -/
def Arguments.written (attributes : List Attribute) : List (Option (List Lexeme)) :=
  (attributes.filter (·.isNamed Arguments.helper)).map (·.content.written)

/-- No tokens are no arguments. -/
theorem parseAll_arguments_nil (limit : Span) : parseAll Parser.arguments [] limit = .ok {} := rfl

/-- An attribute has the arguments that are written in it. -/
theorem sameOutcome_ofAttribute {a b : Attribute} (h : a.content.written = b.content.written) :
    SameOutcome (Arguments.Alike False) (Arguments.ofAttribute a) (Arguments.ofAttribute b) := by
  -- An attribute without brackets is like one with nothing in them.
  have hread (a : Attribute) :
      (∃ content limit, a.content.written = some (lexemes content)
        ∧ Arguments.ofAttribute a = parseAll Parser.arguments content limit)
      ∨ a.content.written = none
        ∧ ∃ span, Arguments.ofAttribute a = .error (.present (.helperValue Arguments.helper) span) := by
    unfold Arguments.ofAttribute
    cases a.content with
    | bare => exact .inl ⟨[], .outside, rfl, (parseAll_arguments_nil .outside).symm⟩
    | arguments opening content closing => exact .inl ⟨content, closing.span, rfl, rfl⟩
    | value equals tokens => exact .inr ⟨rfl, equals, rfl⟩
  rcases hread a with ⟨content, limit, hwritten, ha⟩ | ⟨hwritten, span, ha⟩
  · rcases hread b with ⟨content', limit', hwritten', hb⟩ | ⟨hwritten', -⟩
    · rw [ha, hb]
      apply Parser.alike_arguments.parseAll
      apply sameTokens_of_lexemes
      exact Option.some.inj (by rw [← hwritten, ← hwritten', h])
    · rw [hwritten, hwritten'] at h
      cases h
  · rcases hread b with ⟨content', limit', hwritten', -⟩ | ⟨-, span', hb⟩
    · rw [hwritten, hwritten'] at h
      cases h
    · rw [ha, hb]
      exact .error rfl

/-- Attributes that are no helper attributes are passed over. -/
theorem ofRest_filter (found : Option Arguments) (attributes : List Attribute) :
    Arguments.ofRest found attributes
      = Arguments.ofRest found (attributes.filter (·.isNamed Arguments.helper)) := by
  induction attributes generalizing found with
  | nil => rfl
  | cons a rest ih =>
    by_cases h : a.isNamed Arguments.helper
    · simp only [List.filter_cons_of_pos h, Arguments.ofRest, h, if_true, ← ih]
    · simp only [List.filter_cons_of_neg h, Arguments.ofRest, h, ← ih]
      rfl

/-- Helper attributes with the same arguments in them have the same outcome. -/
theorem sameOutcome_ofAttributes {as bs : List Attribute}
    (h : Arguments.written as = Arguments.written bs) :
    SameOutcome (Arguments.Alike False) (Arguments.ofAttributes as) (Arguments.ofAttributes bs) := by
  suffices general : ∀ (as bs : List Attribute) (found found' : Option Arguments),
      (∀ a ∈ as, a.isNamed Arguments.helper = true) → (∀ b ∈ bs, b.isNamed Arguments.helper = true) →
      as.map (·.content.written) = bs.map (·.content.written) →
      Option.Rel (Arguments.Alike False) found found' →
      SameOutcome (Arguments.Alike False) (Arguments.ofRest found as) (Arguments.ofRest found' bs) by
    rw [Arguments.ofAttributes, Arguments.ofAttributes, ofRest_filter, ofRest_filter none bs]
    exact general _ _ none none (by simp) (by simp) h .none
  intro as
  induction as with
  | nil =>
    intro bs found found' _ _ hmap hfound
    obtain rfl : bs = [] := by simpa using hmap.symm
    cases hfound with
    | none => exact .ok .none
    | some h => exact .ok h
  | cons a as ih =>
    intro bs found found' has hbs hmap hfound
    cases bs with
    | nil => cases hmap
    | cons b bs =>
      simp only [List.map_cons, List.cons.injEq] at hmap
      simp only [Arguments.ofRest, has a (by simp), hbs b (by simp), if_true]
      cases hfound with
      | some _ => exact .error rfl
      | none =>
        refine SameOutcome.bind (sameOutcome_ofAttribute hmap.1) fun x y hxy => ?_
        exact ih bs _ _ (fun c hc => has c (by simp [hc])) (fun c hc => hbs c (by simp [hc])) hmap.2
          (.some hxy)

/-! ## Expansions -/

/-- Two structs that have the same outline get the same implementation from the attribute, for any
arguments, and from the derive if the arguments in their helper attributes are the same. -/
theorem expansions_of_outline {item item' : List Token} {d d' : Definition}
    (hread : readDefinition item = .ok d) (hread' : readDefinition item' = .ok d')
    (hkind : d.declaration.kind.isProduct) (hkind' : d'.declaration.kind.isProduct)
    (houtline : d.outline = d'.outline) :
    (∀ arguments arguments', lexemes arguments = lexemes arguments' →
      lexemes (expandAttribute arguments item).added
        = lexemes (expandAttribute arguments' item').added)
    ∧ (Arguments.written d.attributes = Arguments.written d'.attributes →
      lexemes (expandDerive item).tokens = lexemes (expandDerive item').tokens) := by
  have hshows : d.ShowsAs d' := showsAs_of_outline houtline (by rw [hkind, hkind'])
  constructor
  · intro arguments arguments' harguments
    exact lexemes_added_expandAttribute hread hread' hshows harguments
  · intro hwritten
    have hadded : lexemes (expandDerive item).added = lexemes (expandDerive item').added := by
      apply lexemes_added
      simp only [expandDerive, hread, hread']
      change SameOutcome _ (Arguments.ofAttributes d.attributes >>= d.declaration.initializer)
        (Arguments.ofAttributes d'.attributes >>= d'.declaration.initializer)
      exact SameOutcome.bind (sameOutcome_ofAttributes hwritten) fun a a' ha =>
        sameOutcome_initializer hshows ha
    exact hadded

/-- For `#[init(name = make)] pub(crate) struct Probe<'a, T = u8> { #[doc] #[cfg(unix)] pub x: T }` and
`#[derive(Debug)] #[init(name = make)] struct Probe<'a, T> { #[cfg(unix)] #[a::cfg(test)] x: T, }`: they
differ in their visibility, a default, some attributes and a comma. -/
theorem expansions_of_outline_probe :
    let lifetime : List Token := ⟨.punct '\x27' .joint, .outside⟩ :: word "a"
    let arguments := word "name" ++ operator "=" ++ word "make"
    let marked (content : List Token) := operator "#" ++ group .bracket content
    let init := marked (word "init" ++ group .parenthesis arguments)
    let condition := marked (word "cfg" ++ group .parenthesis (word "unix"))
    let item := init ++ word "pub" ++ group .parenthesis (word "crate") ++ word "struct"
      ++ word "Probe" ++ operator "<" ++ lifetime ++ operator "," ++ word "T" ++ operator "="
      ++ word "u8" ++ operator ">" ++ group .brace (marked (word "doc") ++ condition ++ word "pub"
      ++ word "x" ++ operator ":" ++ word "T")
    let item' := marked (word "derive" ++ group .parenthesis (word "Debug")) ++ init
      ++ word "struct" ++ word "Probe" ++ operator "<" ++ lifetime ++ operator "," ++ word "T"
      ++ operator ">" ++ group .brace (condition ++ marked (word "a" ++ operator "::" ++ word "cfg"
      ++ group .parenthesis (word "test")) ++ word "x" ++ operator ":" ++ word "T" ++ operator ",")
    ∃ d d', readDefinition item = .ok d ∧ readDefinition item' = .ok d'
      ∧ d.declaration.kind.isProduct ∧ d'.declaration.kind.isProduct ∧ d.outline = d'.outline
      ∧ Arguments.written d.attributes = Arguments.written d'.attributes
      ∧ d.visibility ≠ d'.visibility ∧ d.generics.params.map GenericParam.tokens
        ≠ d'.generics.params.map GenericParam.tokens
      ∧ lexemes (expandAttribute arguments item).added = lexemes (expandAttribute arguments item').added
      ∧ lexemes (expandDerive item).tokens = lexemes (expandDerive item').tokens := by
  intro lifetime arguments marked init condition item item'
  let outline : Outline := ⟨"Probe", .limited, ⟨[(true, lexemes lifetime, lexemes lifetime),
    (false, lexemes (word "T"), lexemes (word "T"))], false⟩, [],
    [("x", lexemes (word "T"), [lexemes condition])]⟩
  obtain ⟨d, hread, htest⟩ := @readDefinition_of_any item (fun d =>
    decide (d.declaration.kind.isProduct ∧ d.outline = outline
      ∧ Arguments.written d.attributes = [some (lexemes arguments)] ∧ d.visibility ≠ .inherited
      ∧ (d.generics.params.map GenericParam.tokens).items.getLast? ≠ some (word "T")))
    (by decide +kernel)
  obtain ⟨d', hread', htest'⟩ := @readDefinition_of_any item' (fun d =>
    decide (d.declaration.kind.isProduct ∧ d.outline = outline
      ∧ Arguments.written d.attributes = [some (lexemes arguments)] ∧ d.visibility = .inherited
      ∧ (d.generics.params.map GenericParam.tokens).items.getLast? = some (word "T")))
    (by decide +kernel)
  obtain ⟨hkind, houtline, hwritten, hvisibility, hlast⟩ := of_decide_eq_true htest
  obtain ⟨hkind', houtline', hwritten', hvisibility', hlast'⟩ := of_decide_eq_true htest'
  have hsame := houtline.trans houtline'.symm
  have harguments := hwritten.trans hwritten'.symm
  obtain ⟨hattribute, hderive⟩ := expansions_of_outline hread hread' hkind hkind' hsame
  refine ⟨d, d', hread, hread', hkind, hkind', hsame, harguments, ?_, ?_,
    hattribute arguments arguments rfl, hderive harguments⟩
  · rw [hvisibility']
    exact hvisibility
  · intro hparams
    exact hlast (by rw [hparams, hlast'])

end Memberwise
