import Memberwise.Proofs.Definitions
import Memberwise.Proofs.Finds
import Memberwise.Proofs.Outcome

/-!
# Members in the source and in the initializer

The fields of a struct stand in its braces one after the other, each with its attributes, its
visibility, its name and its type. The initializer has a parameter and an assignment for each of them
in the same order, and none for anything else.

## Main definitions

* `Attribute.Stands`, `NamedField.Stands`: where the parts of an attribute and of a field stand
* `Definition.Stands`: where the parts of a struct with named fields stand
* `Parser.FindsFields`: where the where clause and the fields of a struct are found

## Main statements

* `finds_struct`: where the parts of a struct are found, whatever its fields are
* `stands_namedField`, `stands_definition`: what is read stands in the source
* `initializer_members`: the parameters and the assignments are those of the fields in the source
-/

namespace Memberwise

open Generated

/-! ## Parts of the source -/

/-- Where what follows the path of an attribute stands: nothing, a group as it is, or a value. -/
def Attribute.Content.Stands (ts : List Token) : Attribute.Content → Prop
  | .bare => ts = []
  | .arguments opening content closing => ts = opening :: content ++ [closing]
  | .value _ us => ∃ equals vs rest, ts = equals ++ vs ∧ texts equals = ["="]
      ∧ Parser.Finds (phrases.tokens (.expression true)) vs rest us

/-- Where the parts of an attribute in front of something stand. -/
def Attribute.Stands (ts : List Token) (a : Attribute) : Prop :=
  ∃ hash first path content last,
    ts = hash ++ (⟨.opening .bracket, first⟩ :: (path ++ content) ++ [⟨.closing .bracket, last⟩])
      ∧ a.inner = false ∧ texts hash = ["#"] ∧ texts path = texts a.path ∧ a.content.Stands content

/-- Where the type of a field stands. A field whose name is an underscore may have an unnamed struct
or union as its type, which is kept as it is. -/
def NamedField.TypeStands (ts rest : List Token) (f : NamedField) : Prop :=
  Parser.Finds (phrases.tokens (.type true)) ts rest f.type
    ∨ f.name.text = "_" ∧ Parser.beginsAnonymous (ts ++ rest) = true ∧ f.type = ts

/-- Where the parts of a field with a name stand in `ts`, in front of `rest`. -/
def NamedField.Stands (ts rest : List Token) (f : NamedField) : Prop :=
  ∃ attributes visibility colon type,
    ts = attributes.flatten ++ (visibility ++ (f.name.tokens ++ (colon ++ type)))
      ∧ List.Forall₂ Attribute.Stands attributes f.attributes
      ∧ Parser.Finds Parser.visibility visibility (f.name.tokens ++ (colon ++ type) ++ rest) f.visibility
      ∧ texts colon = [":"] ∧ f.TypeStands type rest

/-- Where the parts of a struct with named fields stand. -/
def Definition.Stands (ts : List Token) (d : Definition) (fields : List NamedField) : Prop :=
  ∃ attributes visibility params condition first content last,
    let group := ⟨.opening .brace, first⟩ :: content ++ [⟨.closing .brace, last⟩]
    ts = attributes.flatten ++ (visibility ++ (d.body.keyword.tokens ++ (d.name.tokens
        ++ (params ++ (condition ++ group)))))
      ∧ d.body.keyword.text = "struct" ∧ List.Forall₂ Attribute.Stands attributes d.attributes
      ∧ Parser.Finds Parser.visibility visibility
        (d.body.keyword.tokens ++ (d.name.tokens ++ (params ++ (condition ++ group)))) d.visibility
      ∧ (∃ g : Generics, Parser.Finds (Parser.generics phrases) params (condition ++ group) g
        ∧ d.generics = { g with whereClause := d.generics.whereClause })
      ∧ Parser.Finds (Parser.whereClause? phrases) condition group d.generics.whereClause
      ∧ Parser.Spread NamedField.Stands "," [⟨.closing .brace, last⟩] fields content

namespace Parser

variable {ts rest : List Token}

-- A rule counts once for each step that it is nested in, so long parsers need many.
set_option synthInstance.maxSize 1000

/-! ## Attributes -/

theorem stands_attributeContent {content : Attribute.Content}
    (h : Finds (attributeContent phrases) ts rest content) : content.Stands ts := by
  have h := h.ahead
  split at h
  · obtain ⟨_, us, vs, rfl, ⟨rfl, first, inside, last, rfl⟩, -, hkept⟩ :=
      h.bind_of (fun _ => spends_anyGroup) fun _ => by split <;> infer_instance
    obtain ⟨rfl, rfl⟩ := hkept.pure
    simp [Attribute.Content.Stands]
  · split at h
    · obtain ⟨equals, h⟩ := h.here
      obtain ⟨_, us, vs, rfl, hequals, h⟩ := h.bind
      have htexts := hequals.spends fun _ => spends_operator "="
      have h := h.ahead
      split at h
      · exact h.not_reject.elim
      · obtain ⟨value, rfl, hvalue⟩ := h.bind_pure
        exact ⟨us, vs, _, rfl, by simpa [texts_operator] using htexts.2, hvalue⟩
    · obtain ⟨rfl, rfl⟩ := h.pure
      simp [Attribute.Content.Stands]

/-- The path of an attribute and what follows it, which stand in its brackets. -/
theorem stands_attributeInside {r : List Token × Attribute.Content}
    (h : Finds (do
      let path ← if isWord "unsafe" (← ahead) then take 1 else modPath
      return (path, ← attributeContent phrases)) ts rest r) :
    ∃ us vs, ts = us ++ vs ∧ texts us = texts r.1 ∧ r.2.Stands vs := by
  have hafter {us vs path : List Token} (hpath : texts us = texts path)
      (h : Finds (do return (path, ← attributeContent phrases)) vs rest r) :
      ∃ us' vs', us ++ vs = us' ++ vs' ∧ texts us' = texts r.1 ∧ r.2.Stands vs' := by
    obtain ⟨content, rfl, hcontent⟩ := h.bind_pure
    exact ⟨us, vs, rfl, hpath, stands_attributeContent hcontent⟩
  have h := h.ahead
  split at h
  · next hword =>
    obtain ⟨span, after, hafter'⟩ := isWord_iff.1 hword
    obtain ⟨_, us, vs, rfl, rfl, -, h⟩ := h.bind_of (fun _ => spends_take_word hafter') inferInstance
    exact hafter rfl h
  · obtain ⟨path, us, vs, rfl, hpath, -, h⟩ := h.bind_of (fun _ => spends_modPath) inferInstance
    exact hafter hpath.symm h

theorem stands_attribute {a : Attribute} (h : Finds (outerAttribute phrases) ts rest a) :
    a.Stands ts := by
  obtain ⟨start, h⟩ := h.here
  obtain ⟨_, hash, us, rfl, hhash, -, h⟩ := h.bind_of (fun _ => spends_operator "#") inferInstance
  obtain ⟨_, ⟨path, content⟩, closing, us, vs, rfl, hbracketed, h⟩ := h.bind_triple
  obtain ⟨rfl, rfl⟩ := h.pure
  obtain ⟨first, last, us, _, rfl, hr, hinside⟩ := hbracketed.bracketed
  cases hr
  obtain ⟨us, vs, rfl, hpath, hcontent⟩ := stands_attributeInside hinside
  refine ⟨hash, first, us, vs, last, by simp, rfl, ?_, hpath, hcontent⟩
  rw [hhash.2, texts_operator]
  rfl

theorem stands_outerAttributes {attributes : List Attribute}
    (h : Finds (outerAttributes phrases) ts rest attributes) :
    ∃ parts, ts = parts.flatten ∧ List.Forall₂ Attribute.Stands parts attributes := by
  obtain ⟨parts, hts, hparts⟩ := h.repeatUntil
  exact ⟨parts, hts, hparts.imp fun _ _ ⟨_, h⟩ => stands_attribute h⟩

/-! ## Fields -/

theorem stands_identifier {us : List Token} (h : Finds identifier ts rest us) :
    us = ts ∧ ∃ word span, ts = [⟨.ident word, span⟩] := by
  obtain ⟨limit, hread⟩ := h.read
  obtain ⟨word, span, after, -, htokens, hr⟩ := identifier_eq_ok hread
  cases hr
  have hts : ts = [⟨.ident word, span⟩] := (List.append_left_inj rest).1 htokens
  exact ⟨hts.symm, word, span, hts⟩

theorem stands_anyWord {us : List Token} (h : Finds anyWord ts rest us) :
    us = ts ∧ ∃ word span, ts = [⟨.ident word, span⟩] := by
  obtain ⟨limit, hread⟩ := h.read
  obtain ⟨word, span, after, htokens, hr⟩ := anyWord_eq_ok hread
  cases hr
  have hts : ts = [⟨.ident word, span⟩] := (List.append_left_inj rest).1 htokens
  exact ⟨hts.symm, word, span, hts⟩

theorem stands_name {n : Name} (h : Finds name ts rest n) : ts = n.tokens := by
  obtain ⟨_, rfl, hname⟩ := h.bind_pure
  obtain ⟨rfl, word, span, rfl⟩ := stands_identifier hname
  rfl

theorem stands_anyName {n : Name} (h : Finds anyName ts rest n) : ts = n.tokens := by
  obtain ⟨_, rfl, hname⟩ := h.bind_pure
  obtain ⟨rfl, word, span, rfl⟩ := stands_anyWord hname
  rfl

/-- What follows the attributes and the visibility of a field: its name and its type. -/
theorem stands_nameAndType {attributes : List Attribute} {visibility : Visibility} {name : Name}
    {unnamed : Bool} (hname : unnamed = true → name.text = "_") {f : NamedField}
    (h : Finds (do
      let _ ← operator ":"
      let type ←
        if unnamed && beginsAnonymous (← ahead) then
          verbatim (seq [anyWord, phrases.tokens .namedFields])
        else phrases.tokens (.type true)
      return NamedField.mk attributes visibility name type) ts rest f) :
    f.attributes = attributes ∧ f.visibility = visibility ∧ f.name = name
      ∧ ∃ colon type, ts = colon ++ type ∧ texts colon = [":"] ∧ f.TypeStands type rest := by
  obtain ⟨_, colon, us, rfl, hcolon, -, h⟩ := h.bind_of (fun _ => spends_operator ":") inferInstance
  have htexts : texts colon = [":"] := by
    rw [hcolon.2, texts_operator]
    rfl
  have h := h.ahead
  split at h
  · next hanonymous =>
    obtain ⟨hunnamed, hbegins⟩ := Bool.and_eq_true_iff.1 hanonymous
    obtain ⟨type, rfl, htype⟩ := h.bind_pure
    obtain rfl := htype.spends fun c => Spends.verbatim (Passes.spends c)
    exact ⟨rfl, rfl, rfl, colon, _, rfl, htexts, .inr ⟨hname hunnamed, hbegins, rfl⟩⟩
  · obtain ⟨type, rfl, htype⟩ := h.bind_pure
    exact ⟨rfl, rfl, rfl, colon, us, rfl, htexts, .inl htype⟩

theorem stands_namedField {f : NamedField} (h : Finds (namedField phrases) ts rest f) :
    f.Stands ts rest := by
  obtain ⟨attributes, as, us, rfl, hattributes, h₁⟩ := h.bind
  obtain ⟨parts, rfl, hparts⟩ := stands_outerAttributes hattributes
  obtain ⟨visibility, vs, us, rfl, hvisibility, h₂⟩ := h₁.bind
  -- Both kinds of name are read in front of the same.
  have hrest {name : Name} {us : List Token} {unnamed : Bool}
      (hunnamed : unnamed = true → name.text = "_")
      (hvisibility : Finds Parser.visibility vs (name.tokens ++ us ++ rest) visibility)
      (h : Finds (do
        let _ ← operator ":"
        let type ←
          if unnamed && beginsAnonymous (← ahead) then
            verbatim (seq [anyWord, phrases.tokens .namedFields])
          else phrases.tokens (.type true)
        return NamedField.mk attributes visibility name type) us rest f) :
      f.Stands (parts.flatten ++ (vs ++ (name.tokens ++ us))) rest := by
    obtain ⟨rfl, rfl, rfl, colon, type, rfl, hcolon, htype⟩ := stands_nameAndType hunnamed h
    exact ⟨parts, vs, colon, type, rfl, hparts, hvisibility, hcolon, htype⟩
  have h₃ := h₂.ahead
  dsimp only at h₃
  split at h₃
  · next hword =>
    obtain ⟨name, ns, us, rfl, hname, h₄⟩ := h₃.bind
    obtain rfl := stands_anyName hname
    obtain ⟨span, after, hafter⟩ := isWord_iff.1 hword
    have htext : name.text = "_" := by
      simp only [Name.tokens, List.cons_append, List.nil_append, List.cons.injEq, Token.mk.injEq,
        Lexeme.ident.injEq] at hafter
      exact hafter.1.1
    exact hrest (fun _ => htext) hvisibility h₄
  · next hword =>
    obtain ⟨name, ns, us, rfl, hname, h₄⟩ := h₃.bind
    obtain rfl := stands_name hname
    exact hrest (fun h => absurd h hword) hvisibility h₄

theorem stands_namedFields {fields : Listed NamedField}
    (h : Finds (namedFields phrases) ts rest fields) :
    ∃ first content last, ts = ⟨.opening .brace, first⟩ :: content ++ [⟨.closing .brace, last⟩]
      ∧ Spread NamedField.Stands "," (⟨.closing .brace, last⟩ :: rest) fields.items content := by
  obtain ⟨first, last, content, rfl, hcontent⟩ := h.inside
  exact ⟨first, content, last, rfl, hcontent.separated.mono fun _ _ _ => stands_namedField⟩

/-! ## Definitions -/

/-- Where the where clause and the fields of a struct are found: named fields stand behind the clause,
and fields without names in front of it. -/
inductive FindsFields (ts rest : List Token) : Option WhereClause → Fields → Prop
  | named {us vs : List Token} {condition : Option WhereClause} {fields : Listed NamedField}
    (hts : ts = us ++ vs) (hcondition : Finds (whereClause? phrases) us (vs ++ rest) condition)
    (hfields : Finds (namedFields phrases) vs rest fields) :
    FindsFields ts rest condition (.named fields)
  | positional {us vs ws : List Token} {condition : Option WhereClause}
    {fields : Listed PositionalField} (hts : ts = us ++ (vs ++ ws))
    (hfields : Finds (positionalFields phrases) us (vs ++ ws ++ rest) fields)
    (hcondition : Finds (whereClause? phrases) vs (ws ++ rest) condition) :
    FindsFields ts rest condition (.positional fields)
  | unit {us vs : List Token} {condition : Option WhereClause} (hts : ts = us ++ vs)
    (hcondition : Finds (whereClause? phrases) us (vs ++ rest) condition) :
    FindsFields ts rest condition .unit

theorem finds_structBody {r : Option WhereClause × Fields}
    (h : Finds (structBody phrases) ts rest r) : FindsFields ts rest r.1 r.2 := by
  obtain ⟨condition, us, vs, rfl, hcondition, h₁⟩ := h.bind
  rcases h₁.ahead.ite with ⟨hparen, h₂⟩ | ⟨-, h₂⟩
  · -- In front of parentheses there is no clause.
    obtain rfl : us = [] := by
      rcases hcondition.ahead.ite with ⟨-, hclause⟩ | ⟨-, hnone⟩
      · obtain ⟨w, rfl, -⟩ := hclause.bind_pure
        cases hparen
      · exact hnone.pure.1
    obtain ⟨fields, ws, us, rfl, hfields, h₃⟩ := h₂.bind
    obtain ⟨after, xs, us, rfl, hafter, h₄⟩ := h₃.bind
    rcases h₄.ahead.ite with ⟨-, h₅⟩ | ⟨-, h₅⟩
    · obtain ⟨_, rfl, -⟩ := h₅.bind_pure
      exact .positional (List.nil_append _) hfields hafter
    · rcases h₅.ite with ⟨-, h₅⟩ | ⟨-, h₅⟩
      all_goals exact h₅.not_expected.elim
  rcases h₂.ite with ⟨-, h₃⟩ | ⟨-, h₃⟩
  · obtain ⟨fields, rfl, hfields⟩ := h₃.bind_pure
    exact .named rfl hcondition hfields
  rcases h₃.ite with ⟨-, h₄⟩ | ⟨-, h₄⟩
  · obtain ⟨_, rfl, -⟩ := h₄.bind_pure
    exact .unit rfl hcondition
  · rcases h₄.ite with ⟨-, h₅⟩ | ⟨-, h₅⟩
    all_goals exact h₅.not_expected.elim

theorem stands_itemKeyword {text : String} {n : Name} (h : Finds (itemKeyword text) ts rest n) :
    ∃ span, n = ⟨text, span⟩ ∧ ts = n.tokens := by
  obtain ⟨_, rfl, hkeyword⟩ := h.bind_pure
  obtain ⟨rfl, span, rfl⟩ := hkeyword.keyword
  exact ⟨span, rfl, rfl⟩

/-- Where the parts of a struct are found. -/
theorem finds_struct {s : StructItem} (h : Finds (attributedStruct phrases) ts rest s) :
    ∃ attributes visibility params body,
      ts = attributes ++ (visibility ++ (s.keyword.tokens ++ (s.name.tokens ++ (params ++ body))))
        ∧ s.keyword.text = "struct"
        ∧ Finds (outerAttributes phrases) attributes
          (visibility ++ (s.keyword.tokens ++ (s.name.tokens ++ (params ++ body))) ++ rest)
          s.attributes
        ∧ Finds Parser.visibility visibility
          (s.keyword.tokens ++ (s.name.tokens ++ (params ++ body)) ++ rest) s.visibility
        ∧ (∃ g : Generics, Finds (generics phrases) params (body ++ rest) g
          ∧ s.generics = { g with whereClause := s.generics.whereClause })
        ∧ FindsFields body rest s.generics.whereClause s.fields := by
  obtain ⟨attributes, as, us, rfl, hattributes, h₁⟩ := h.bind
  obtain ⟨visibility, vs, us, rfl, hvisibility, h₂⟩ := h₁.bind
  obtain ⟨keyword, ks, us, rfl, hkeyword, h₃⟩ := h₂.bind
  obtain ⟨span, rfl, rfl⟩ := stands_itemKeyword hkeyword
  obtain ⟨name, ns, us, rfl, hname, h₄⟩ := h₃.bind
  obtain rfl := stands_name hname
  obtain ⟨params, ps, us, rfl, hparams, h₅⟩ := h₄.bind
  obtain ⟨r, rfl, hbody⟩ := h₅.bind_pure
  exact ⟨as, vs, ps, us, rfl, rfl, hattributes, hvisibility, ⟨params, hparams, rfl⟩,
    finds_structBody hbody⟩

/-- A definition that is a struct is found as one. -/
theorem Finds.struct {s : StructItem} (h : Finds (derivedDefinition phrases) ts rest s.definition) :
    Finds (attributedStruct phrases) ts rest s := by
  obtain ⟨limit, hread⟩ := h.read
  exact ⟨h.whole, h.closed, limit, derivedDefinition_eq_struct.1 hread⟩

theorem stands_definition {d : Definition} {keyword : Name} {fields : Listed NamedField}
    (h : Finds (derivedDefinition phrases) ts [] d)
    (hnamed : d.body = .struct keyword (.named fields)) : d.Stands ts fields.items := by
  obtain ⟨s, rfl, rfl, hfields⟩ := Definition.eq_struct hnamed
  obtain ⟨as, vs, ps, us, rfl, hstruct, hattributes, hvisibility, hparams, hbody⟩ :=
    finds_struct h.struct
  obtain ⟨parts, rfl, hparts⟩ := stands_outerAttributes hattributes
  rw [hfields] at hbody
  cases hbody with
  | named hus hcondition hfields =>
    subst hus
    obtain ⟨first, content, last, rfl, hspread⟩ := stands_namedFields hfields
    simp only [List.append_nil] at hvisibility hparams hcondition
    exact ⟨parts, vs, ps, _, first, content, last, rfl, hstruct, hparts, hvisibility, hparams,
      hcondition, hspread⟩

end Parser

/-! ## Parameters and assignments -/

/-- Each field in the braces of a struct has its parameter and its assignment at the same place in the
initializer: they have its name, its type and its `cfg` attributes, as these stand in the source. There
are no others, and the rest of the initializer is from the same struct. -/
theorem initializer_members {item : List Token} {d : Definition} {made : Declaration}
    {keyword : Name} {fields : Listed NamedField} (hwhole : Whole item)
    (hmade : Declares item d made) (hnamed : d.body = .struct keyword (.named fields))
    (arguments : Arguments) :
    d.Stands item fields.items
      ∧ ∃ f : Initializer, Initializer.generate made arguments = .ok f
        ∧ f.parameters.length = fields.items.length ∧ f.assignments.length = fields.items.length
        ∧ (∀ (i : Nat) (field : NamedField), fields.items[i]? = some field →
          f.parameters[i]? = some ⟨field.name, field.type, field.attributes.filter (·.isNamed "cfg")⟩
            ∧ f.assignments[i]? = some ⟨field.name, field.attributes.filter (·.isNamed "cfg")⟩)
        ∧ made.members.map (fun m => m.field?.map Field.parameter) = f.parameters.map some
        ∧ f.selfType = d.name ∧ f.generics = d.generics ∧ f.access = d.visibility.access
        ∧ f.name = arguments.functionName := by
  obtain ⟨-, hdefinition, rfl⟩ := hmade.both
  have hfields : d.body.namedFields = fields.items := by
    rw [hnamed]
    rfl
  have hproduct : d.declaration.kind.isProduct := by
    simp [Definition.declaration, hnamed, Body.kind, Fields.kind, Kind.isProduct]
  refine ⟨Parser.stands_definition (.of_parseAll hwhole hdefinition) hnamed, _,
    generate_of_isProduct hproduct arguments, ?_, ?_, ?_, ?_, rfl, rfl, rfl, rfl⟩
  · simp [hfields]
  · simp [hfields]
  · intro i field hfield
    simp [hfields, hfield, NamedField.field, Field.parameter, Field.assignment, cfgAttributes]
  · simp only [Definition.declaration, hnamed, Body.members, Fields.members, List.map_map]
    rfl

/-- For `struct Frame<'a, T> { #[cfg(unix)] pub r#type: Vec<T>, #[doc] #[cfg(a)] #[cfg_attr(b)] #[cfg(a)]
name: &'a str, name: u8, }`: the names may be the same, and each attribute stays with its field. -/
theorem initializer_members_frame :
    let lifetime (name : String) : List Token := ⟨.punct '\x27' .joint, .outside⟩ :: word name
    let condition (path option : String) : List Token :=
      operator "#" ++ group .bracket (word path ++ group .parenthesis (word option))
    let item := word "struct" ++ word "Frame" ++ operator "<" ++ lifetime "a" ++ operator ","
      ++ word "T" ++ operator ">" ++ group .brace (condition "cfg" "unix" ++ word "pub"
      ++ word "r#type" ++ operator ":" ++ word "Vec" ++ operator "<" ++ word "T" ++ operator ">"
      ++ operator "," ++ operator "#" ++ group .bracket (word "doc") ++ condition "cfg" "a"
      ++ condition "cfg_attr" "b" ++ condition "cfg" "a" ++ word "name" ++ operator ":"
      ++ operator "&" ++ lifetime "a" ++ word "str" ++ operator "," ++ word "name" ++ operator ":"
      ++ word "u8" ++ operator ",")
    ∃ (d : Definition) (keyword : Name) (fields : Listed NamedField) (f : Initializer),
      Whole item ∧ readItem item = .ok d.item ∧ d.body = .struct keyword (.named fields)
      ∧ d.Stands item fields.items ∧ Initializer.generate d.item.declaration {} = .ok f
      ∧ f.parameters.map (fun p => (p.name.text, p.cfgs.length))
        = [("r#type", 1), ("name", 2), ("name", 0)] := by
  intro lifetime condition item
  have hwhole : Whole item := by decide +kernel
  obtain ⟨d, hread, htest⟩ := @readDefinition_of_any item (fun d =>
    decide (d.body.kind = .struct
      ∧ d.body.namedFields.map (fun f => (f.name.text, (cfgAttributes f.attributes).length))
        = [("r#type", 1), ("name", 2), ("name", 0)])) (by decide +kernel)
  obtain ⟨hkind, hshown⟩ := of_decide_eq_true htest
  obtain ⟨keyword, fields, hnamed⟩ := d.body.kind_eq_struct.1 hkind
  have hitem : readItem item = .ok d.item := readItem_eq_definition.2 hread
  obtain ⟨hstands, f, hf, -, -, -, hmembers, -⟩ :=
    initializer_members hwhole (.item hitem) hnamed {}
  refine ⟨d, keyword, fields, f, hwhole, hitem, hnamed, hstands, hf, ?_⟩
  obtain ⟨-, -, -, -, hparameters, -⟩ := generate_eq_ok hf
  rw [← hshown, hparameters, declaration_item, Definition.declaration, extractFields_members,
    List.map_map, List.map_map]
  rfl

end Memberwise
