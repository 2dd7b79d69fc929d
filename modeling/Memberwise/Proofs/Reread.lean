import Memberwise.Proofs.Definitions
import Memberwise.Proofs.Function
import Memberwise.Proofs.Names

/-!
# Structs that read back

A struct that is given back can be read again: its parameters with the lifetimes first, its where
clause, and its fields. Each attribute, type, bound and constant in it is assumed to be read again in
its place, and all that stands between them is read as what it was.

## Main definitions

* `Fields.Stable`: the phrases in the fields are read again
* `Generics.SameAs`, `Fields.SameAs`, `StructItem.SameAs`: what was read again is what it was

## Main statements

* `reads_binderParts`, `reads_generics`: parameters
* `reads_namedField`, `reads_positionalField`: fields
* `reads_structBody`, `reads_struct`: a struct
-/

namespace Memberwise

/-! ## Phrases in their places -/

/-- Reads the type of a field with a name, which may be an unnamed struct or union if the name is an
underscore. -/
def Parser.fieldType (ph : Phrases) (unnamed : Bool) : Parser (List Token) := do
  if unnamed && beginsAnonymous (← ahead) then verbatim (seq [anyWord, ph.tokens .namedFields])
  else ph.tokens (.type true)

/-- The attributes and the type of the field are read again. -/
structure NamedField.Stable (f : NamedField) : Prop where
  attributes : ∀ a ∈ f.attributes, a.ReadsBack
  type : ReadsBack (Parser.fieldType phrases (f.name.text == "_")) id EndsParameter f.type

/-- The attributes and the type of the field are read again. -/
structure PositionalField.Stable (f : PositionalField) : Prop where
  attributes : ∀ a ∈ f.attributes, a.ReadsBack
  type : TypeReadsBack EndsParameter f.type

/-- The attributes and the types of the fields are read again. -/
def Fields.Stable : Fields → Prop
  | .named fields => ∀ f ∈ fields.items, f.Stable
  | .positional fields => ∀ f ∈ fields.items, f.Stable
  | .unit => True

/-- What follows the where clause of a struct with these fields. -/
def Fields.after : Fields → List Token → Bool
  | .named _ => isBrace
  | _ => isOp ";"

/-- No type is taken for what the visibility in front of it is restricted to. -/
def Fields.Placed : Fields → Prop
  | .positional fields =>
    ∀ f ∈ fields.items, f.visibility = .pub →
      ∀ rest, Parser.beginsRestriction (f.type ++ rest) = false
  | _ => True

/-! ## What is read again -/

/-- All that is written of the parameters and of the where clause is the same. -/
structure Generics.SameAs (h g : Generics) : Prop where
  tokens : lexemes h.tokens = lexemes g.tokens
  implTokens : lexemes h.implTokens = lexemes g.implTokens
  argumentTokens : lexemes h.argumentTokens = lexemes g.argumentTokens
  whereTokens : lexemes h.whereTokens = lexemes g.whereTokens

/-- All that is written of the field is the same. -/
structure NamedField.SameAs (g f : NamedField) : Prop where
  name : g.name.text = f.name.text
  type : lexemes g.type = lexemes f.type
  attributes : g.attributes.map (fun a => lexemes a.tokens)
    = f.attributes.map fun a => lexemes a.tokens
  tokens : lexemes g.tokens = lexemes f.tokens

/-- The fields are of the same sort, and all that is written of them is the same. -/
def Fields.SameAs : Fields → Fields → Prop
  | .named l, .named m =>
    List.Forall₂ (fun f g => g.SameAs f) m.items l.items ∧ l.trailing = (m.trailing && !m.isEmpty)
  | .positional l, .positional m =>
    Parser.SameItems PositionalField.tokens l PositionalField.tokens m
  | .unit, .unit => True
  | _, _ => False

/-- All that is written of the struct is the same. -/
structure StructItem.SameAs (e s : StructItem) : Prop where
  name : e.name.text = s.name.text
  access : e.visibility.access = s.visibility.access
  generics : e.generics.SameAs s.generics
  fields : e.fields.SameAs s.fields
  tokens : lexemes e.tokens = lexemes s.tokens

namespace Parser

variable {rest : List Token}

/-! ## Parameters -/

/-- A parameter after `for` is read again, as what it was. -/
theorem reads_boundParam {p : GenericParam} (hproper : p.Proper) (hstable : p.Stable)
    (hrest : endsArgument rest = true) : Reads (boundParam phrases) p.tokens rest (·.SameAs p) := by
  obtain ⟨attributes, sort⟩ := p
  obtain ⟨hnamed, hname⟩ := hproper
  obtain ⟨hattributes, hsort⟩ := hstable
  cases sort with
  | lifetime name colon bounds =>
    obtain ⟨hname, hbounds⟩ := hnamed
    have hread := @reads_lifetimeParam rest name colon bounds hname hbounds hrest
    obtain ⟨mark, word, span, rfl⟩ := hname
    refine (reads_outerAttributes hattributes rfl).bind fun as has => Reads.ahead ?_
    refine Reads.ite_neg (by rintro ⟨⟩) (Reads.ite_pos rfl ?_)
    exact hread.bind_pure fun sort hsort => hsort has
  | type name colon bounds default =>
    obtain ⟨hbounds, hdefault⟩ := hsort
    simp only [GenericParam.tokens, List.append_assoc]
    obtain hword | ⟨⟨span, rfl⟩, -⟩ := hnamed
    · have hread := @reads_typeParam rest name colon bounds default hword hbounds hdefault hrest
      obtain ⟨word, span, hfree, rfl⟩ := hword
      refine (reads_outerAttributes hattributes rfl).bind fun as has => Reads.ahead ?_
      refine Reads.ite_pos (by simp [hfree]) ?_
      exact hread.bind_pure fun sort hsort => hsort has
    · exact absurd rfl hname
  | const name type default =>
    obtain ⟨htype, hdefault⟩ := hsort
    refine (reads_outerAttributes hattributes rfl).bind fun as has => Reads.ahead ?_
    have hreserved : isReserved "const" = true := by decide
    refine Reads.ite_neg (by simp [Generated.word, hreserved]) (Reads.ite_neg (by rintro ⟨⟩)
      (Reads.ite_pos rfl ?_))
    exact (reads_constParam hnamed htype hdefault hrest).bind_pure fun sort hsort => hsort has

/-- A binder is read again if its parameters are. -/
theorem reads_binderParts {b : Binder} (hnamed : b.Named) (hstable : b.Stable) :
    Reads (binderParts phrases) b.tokens rest fun a => lexemes a.tokens = lexemes b.tokens := by
  obtain ⟨opening, params, closing⟩ := b
  obtain ⟨⟨span, bracket, rfl, hbracket⟩, hparams, hclosing⟩ := hnamed
  rw [Binder.tokens, List.append_assoc]
  have hopening : Reads (seq [keyword "for", operator "<"]) ([⟨.ident "for", span⟩] ++ bracket)
      (params.tokens (Generated.operator ",") GenericParam.tokens ++ closing ++ rest)
      fun a => lexemes a = lexemes ([⟨.ident "for", span⟩] ++ bracket) :=
    Reads.seq_cons ((reads_keyword "for" span).mono fun a ha => by rw [ha])
      (Reads.seq_single (reads_operator (by decide) hbracket))
  refine hopening.bind fun a ha => ?_
  rw [separated_eq]
  have hends : isOp ">" (closing ++ rest) = true := isOp_append (by decide) hclosing rest
  have hlist : Reads (loop (listRound (isOp ">") (isOp ">") "," (boundParam phrases)) [])
      (params.tokens (Generated.operator ",") GenericParam.tokens) (closing ++ rest)
      fun l => SameItems GenericParam.tokens l GenericParam.tokens params := by
    refine reads_listed (endsArgument · = true) (by decide) hends hends (fun _ => rfl) (fun _ => rfl)
      (by simp [endsArgument, hends]) fun p hp => ?_
    refine ⟨(param_begins (hparams p hp).1 []).1, fun us hus => ?_⟩
    refine ⟨(param_begins (hparams p hp).1 us).2, ?_⟩
    exact (reads_boundParam (hparams p hp) (hstable p hp) hus).mono fun q hq => hq.tokens
  refine hlist.bind fun l hl => (reads_operator (by decide) hclosing).bind_pure fun b hb => ?_
  simp [Binder.tokens, ha, hb, hl.lexemes_tokens]

/-- Parameters are read again, lifetimes first. -/
theorem reads_generics {g : Generics} (hnamed : ∀ p ∈ g.params.items, p.Named)
    (hstable : ∀ p ∈ g.params.items, p.Stable)
    (hrest : isOp "<" rest = false) :
    Reads (generics phrases) g.tokens rest fun h =>
      List.Forall₂ (fun p q => q.SameAs p) g.ordered.items h.params.items
        ∧ h.params.trailing = (g.ordered.trailing && !g.ordered.isEmpty) := by
  rw [Generics.tokens, Generics.angled]
  by_cases hempty : g.ordered.isEmpty
  · rw [if_pos hempty]
    refine Reads.ahead (Reads.ite_neg (by simp [hrest]) (Reads.pure ?_))
    have hitems : g.ordered.items = [] := by simpa [Listed.isEmpty] using hempty
    rw [hitems, hempty]
    simp [Generics.none, Listed.empty]
  · rw [if_neg hempty, List.append_assoc]
    refine Reads.ahead (Reads.ite_pos rfl ?_)
    refine (reads_operator (by decide) rfl).bind fun _ _ => ?_
    rw [separated_eq]
    have hlist : Reads (loop (listRound (isOp ">") (isOp ">") "," (declaredParam phrases)) [])
        (g.ordered.tokens (Generated.operator ",") GenericParam.tokens)
        (Generated.operator ">" ++ rest) fun params =>
          List.Forall₂ (fun p q => q.SameAs p) g.ordered.items params.items
            ∧ params.trailing = (g.ordered.trailing && !g.ordered.isEmpty) := by
      refine reads_items (endsArgument · = true) (by decide) rfl rfl (fun _ => rfl) (fun _ => rfl) rfl
        fun p hp => ?_
      have hp := Listed.mem_sortedBy.1 hp
      refine ⟨(param_begins (hnamed p hp) []).1, fun us hus => ?_⟩
      exact ⟨(param_begins (hnamed p hp) us).2, reads_declaredParam (hnamed p hp) (hstable p hp) hus⟩
    exact hlist.bind fun params hparams => (reads_operator (by decide) rfl).bind_pure fun _ _ => hparams

/-! ## Fields -/

/-- A name follows a visibility and is no part of it. -/
theorem endsVisibility_word {word : String} (hword : word ≠ "pub") (v : Visibility) (span : Span)
    (us : List Token) : EndsVisibility v (⟨.ident word, span⟩ :: us) := by
  cases v with
  | inherited => simpa [EndsVisibility] using hword
  | pub => rfl
  | restricted scope => trivial

theorem reads_anyName (n : Name) : Reads anyName n.tokens rest (· = n) := by
  refine (reads_anyWord n.text n.span).bind_pure ?_
  rintro _ rfl
  rfl

/-- A visibility begins with its word, if with anything. -/
theorem isOp_visibility (v : Visibility) (text : String) {us : List Token} (h : isOp text us = false) :
    isOp text (v.tokens ++ us) = false := by
  cases v with
  | inherited => exact h
  | pub => simp [Visibility.tokens, Generated.word]
  | restricted scope => simp [Visibility.tokens, Generated.word]

/-- The name and the type of a field are read after its attributes and its visibility. -/
theorem reads_nameAndType {f : NamedField} {as : List Attribute} {v : Visibility}
    (has : as.map (fun a => lexemes a.tokens) = f.attributes.map fun a => lexemes a.tokens)
    (hv : lexemes v.tokens = lexemes f.visibility.tokens) {unnamed : Bool}
    (htype : ReadsBack (fieldType phrases unnamed) id EndsParameter f.type)
    (hrest : EndsParameter rest) :
    Reads (do
      let _ ← operator ":"
      let type ←
        if unnamed && beginsAnonymous (← ahead) then
          verbatim (seq [anyWord, phrases.tokens .namedFields])
        else phrases.tokens (.type true)
      return NamedField.mk as v f.name type) (Generated.operator ":" ++ f.type) rest
      (·.SameAs f) := by
  have hfield (type : List Token) (h : lexemes type = lexemes f.type) :
      (NamedField.mk as v f.name type).SameAs f :=
    ⟨rfl, h, has, by simp [NamedField.tokens, lexemes_listTokens has, hv, h]⟩
  refine (reads_operator (by decide) rfl).bind fun _ _ => Reads.ahead (Reads.ite_bind ?_)
  have hread : Reads (if unnamed && beginsAnonymous (f.type ++ rest) then
      verbatim (seq [anyWord, phrases.tokens .namedFields]) else phrases.tokens (.type true))
      f.type rest fun type => lexemes type = lexemes f.type := htype rest hrest
  exact hread.bind_pure hfield

/-- A field is read again, as what it was. -/
theorem reads_namedField {f : NamedField} (hformed : f.Formed) (hstable : f.Stable)
    (hrest : EndsParameter rest) : Reads (namedField phrases) f.tokens rest (·.SameAs f) := by
  have htokens : f.tokens = Attribute.listTokens f.attributes ++ (f.visibility.tokens
      ++ (f.name.tokens ++ (Generated.operator ":" ++ f.type))) := by simp [NamedField.tokens]
  have hpub : f.name.text ≠ "pub" := by
    intro h
    rcases hformed.name with hfree | hname
    · rw [h] at hfree
      exact absurd hfree (by decide)
    · rw [h] at hname
      exact absurd hname (by decide)
  rw [htokens]
  refine (reads_outerAttributes hstable.attributes ?_).bind fun as has => ?_
  · rw [List.append_assoc]
    exact isOp_visibility _ _ (isOp_ident _ _ _ _)
  refine (reads_visibility hformed.visibility (endsVisibility_word hpub _ _ _)).bind fun v hv => ?_
  have htype := hstable.type
  refine Reads.ahead ?_
  dsimp only
  by_cases hname : f.name.text = "_"
  · refine Reads.ite_pos (by simp [Name.tokens, hname]) ?_
    refine (reads_anyName f.name).bind fun n hn => ?_
    subst hn
    exact reads_nameAndType has hv.1 htype hrest
  · refine Reads.ite_neg (by simp [Name.tokens, hname]) ?_
    refine (reads_name (hformed.name.resolve_right hname)).bind fun n hn => ?_
    subst hn
    exact reads_nameAndType has hv.1 htype hrest

/-- So is a field without a name. -/
theorem reads_positionalField {f : PositionalField} (hformed : f.visibility.Formed)
    (hstable : f.Stable) (hplaced : f.visibility = .pub → beginsRestriction (f.type ++ rest) = false)
    (hrest : EndsParameter rest) :
    Reads (positionalField phrases) f.tokens rest fun g => lexemes g.tokens = lexemes f.tokens := by
  obtain ⟨hmark, hpub⟩ := hstable.type.begins hrest
  have hends : EndsVisibility f.visibility (f.type ++ rest) := by
    cases hvisibility : f.visibility with
    | inherited => exact hpub
    | pub => exact hplaced hvisibility
    | restricted scope => trivial
  rw [PositionalField.tokens, List.append_assoc]
  refine (reads_outerAttributes hstable.attributes ?_).bind fun as has => ?_
  · rw [List.append_assoc]
    exact isOp_visibility _ _ hmark
  refine (reads_visibility hformed hends).bind fun v hv => ?_
  refine (hstable.type rest hrest).bind_pure fun type htype => ?_
  have htype : lexemes type = lexemes f.type := htype
  simp [PositionalField.tokens, lexemes_listTokens has, hv.1, htype]

/-- What stands behind attributes and a visibility does not end with them. -/
theorem not_atEnd_of_front (as : List Attribute) (v : Visibility) {us : List Token}
    (h : atEnd us = false) : atEnd (Attribute.listTokens as ++ (v.tokens ++ us)) = false := by
  cases as with
  | cons a as => rfl
  | nil =>
    cases v with
    | inherited => exact h
    | pub => rfl
    | restricted scope => rfl

theorem reads_namedFields {fields : Listed NamedField} (hformed : (Fields.named fields).Formed)
    (hstable : (Fields.named fields).Stable) :
    Reads (namedFields phrases) (namedTokens fields) rest
      fun l => (Fields.named l).SameAs (.named fields) := by
  refine Reads.inside ?_
  rw [separated_eq]
  refine reads_items EndsParameter (by decide) rfl rfl (fun _ => rfl) (fun _ => .inl rfl) (.inr rfl)
    fun f hf => ?_
  have hbegins (us : List Token) : atEnd (f.tokens ++ us) = false := by
    have hname : atEnd (f.name.tokens ++ (Generated.operator ":" ++ f.type ++ us)) = false := rfl
    have hfront := not_atEnd_of_front f.attributes f.visibility hname
    simpa [NamedField.tokens] using hfront
  refine ⟨?_, fun us hus => ⟨hbegins us, reads_namedField (hformed f hf) (hstable f hf) hus⟩⟩
  intro hnil
  have hnone := hbegins []
  rw [hnil] at hnone
  cases hnone

theorem reads_positionalFields {fields : Listed PositionalField}
    (hformed : (Fields.positional fields).Formed) (hstable : (Fields.positional fields).Stable)
    (hplaced : (Fields.positional fields).Placed) :
    Reads (positionalFields phrases) (positionalTokens fields) rest
      fun l => (Fields.positional l).SameAs (.positional fields) := by
  refine Reads.inside ?_
  rw [separated_eq]
  refine reads_listed EndsParameter (by decide) rfl rfl (fun _ => rfl) (fun _ => .inl rfl) (.inr rfl)
    fun f hf => ?_
  have htype := (hstable f hf).type
  refine ⟨?_, fun us hus => ⟨?_, reads_positionalField (hformed f hf) (hstable f hf)
    (fun hpub => hplaced f hf hpub us) hus⟩⟩
  · have hcomma : EndsParameter (Generated.operator ",") := .inl rfl
    simp [PositionalField.tokens, htype.ne_nil hcomma rfl]
  · have hends := htype.endsPhrase_eq hus
    simp only [endsPhrase, Bool.or_eq_false_iff] at hends
    have hfront := not_atEnd_of_front f.attributes f.visibility hends.1.1.1.1.1.1.1
    simpa [PositionalField.tokens] using hfront

/-! ## Structs -/

/-- The body of a struct is read again with its where clause, if the clause is by itself. -/
theorem reads_structBody {fields : Fields} {g : Generics} (hformed : fields.Formed)
    (hstable : fields.Stable) (hplaced : fields.Placed)
    (hclause : ∀ us, fields.after us = true → Reads (whereClause? phrases) g.whereTokens us
      fun w => lexemes ((w.map WhereClause.tokens).getD []) = lexemes g.whereTokens) :
    Reads (structBody phrases) (fields.bodyTokens g.whereTokens) rest
      fun r => lexemes ((r.1.map WhereClause.tokens).getD []) = lexemes g.whereTokens
        ∧ r.2.SameAs fields := by
  cases fields with
  | named fields =>
    refine (hclause _ rfl).bind fun w hw => Reads.ahead (Reads.ite_neg ?_ (Reads.ite_pos rfl ?_))
    · simp [namedTokens, Generated.group, isParen, Terminal.starts]
    · exact (reads_namedFields hformed hstable).bind_pure fun l hl => ⟨hw, hl⟩
  | positional fields =>
    rw [Fields.bodyTokens, List.append_assoc]
    have hnone : Reads (whereClause? phrases) [] (positionalTokens fields
        ++ (g.whereTokens ++ Generated.operator ";") ++ rest) (· = none) :=
      Reads.ahead (Reads.ite_neg (by rintro ⟨⟩) (Reads.pure rfl))
    refine Reads.bind_nil hnone fun w hw => Reads.ahead (Reads.ite_pos ?_ ?_)
    · rw [hw]
      rfl
    · refine (reads_positionalFields hformed hstable hplaced).bind fun l hl => ?_
      refine (hclause _ rfl).bind fun w hw => Reads.ahead (Reads.ite_pos rfl ?_)
      exact (reads_operator (by decide) rfl).bind_pure fun _ _ => ⟨hw, hl⟩
  | unit =>
    refine (hclause _ rfl).bind fun w hw => Reads.ahead (Reads.ite_neg ?_ (Reads.ite_neg ?_
      (Reads.ite_pos rfl ?_)))
    · simp [Generated.operator, operatorLexemes, isParen, Terminal.starts]
    · rintro ⟨⟩
    · exact (reads_operator (by decide) rfl).bind_pure fun _ _ => ⟨hw, trivial⟩

/-- Parameters that were read again, with their where clause, are what they were: they are in order
already. -/
theorem sameAs_generics {g h : Generics} {w : Option WhereClause}
    (hparams : List.Forall₂ (fun p q => q.SameAs p) g.ordered.items h.params.items)
    (htrailing : h.params.trailing = (g.ordered.trailing && !g.ordered.isEmpty))
    (hcondition : lexemes ((w.map WhereClause.tokens).getD []) = lexemes g.whereTokens) :
    Generics.SameAs { h with whereClause := w } g := by
  have hlifetimes : g.ordered.items.map GenericParam.isLifetime
      = h.params.items.map GenericParam.isLifetime := by
    rw [← List.forall₂_eq_eq_eq, List.forall₂_map_left_iff, List.forall₂_map_right_iff]
    exact hparams.imp fun _ _ hsame => hsame.isLifetime.symm
  have hsorted : h.params.items.Pairwise fun p q => q.isLifetime = true → p.isLifetime = true := by
    have hpairwise : (g.ordered.items.map GenericParam.isLifetime).Pairwise
        fun a b => b = true → a = true :=
      List.pairwise_map.2 (Listed.pairwise_sortedBy GenericParam.isLifetime g.params)
    rw [hlifetimes] at hpairwise
    exact List.pairwise_map.1 hpairwise
  have hordered : h.ordered = h.params := Listed.sortedBy_of_pairwise hsorted
  have hsame {written : GenericParam → List Token} (hwritten : ∀ p q : GenericParam, q.SameAs p →
      lexemes (written q) = lexemes (written p)) : SameItems written h.ordered written g.ordered := by
    rw [hordered]
    exact .of_forall₂ (hparams.imp hwritten) htrailing
  constructor
  · exact lexemes_angled (hsame fun _ _ hq => hq.tokens)
  · exact lexemes_angled (hsame fun _ _ hq => hq.withoutDefault)
  · exact lexemes_angled (hsame fun _ _ hq => hq.name)
  · exact hcondition

/-- Fields that are what they were are written with what they were written with. -/
theorem lexemes_bodyTokens {fields others : Fields} (h : others.SameAs fields) {ts us : List Token}
    (hcondition : lexemes us = lexemes ts) :
    lexemes (others.bodyTokens us) = lexemes (fields.bodyTokens ts) := by
  cases others with
  | named l =>
    cases fields with
    | named m =>
      have hsame : SameItems NamedField.tokens l NamedField.tokens m :=
        .of_forall₂ (h.1.imp fun _ _ hf => hf.tokens) h.2
      simp [Fields.bodyTokens, namedTokens, Generated.group, hcondition, hsame.lexemes_tokens]
    | positional m => exact h.elim
    | unit => exact h.elim
  | positional l =>
    cases fields with
    | positional m =>
      have hsame : SameItems PositionalField.tokens l PositionalField.tokens m := h
      simp [Fields.bodyTokens, positionalTokens, Generated.group, hcondition, hsame.lexemes_tokens]
    | named m => exact h.elim
    | unit => exact h.elim
  | unit =>
    cases fields with
    | unit => simp [Fields.bodyTokens, hcondition]
    | named m => exact h.elim
    | positional m => exact h.elim

/-- A body does not begin like parameters. -/
theorem isOp_body (fields : Fields) (g : Generics) :
    isOp "<" (fields.bodyTokens g.whereTokens ++ rest) = false := by
  have hclause {us : List Token} (hus : isOp "<" us = false) :
      isOp "<" (g.whereTokens ++ us) = false := by
    obtain ⟨bracketed, params, _ | w⟩ := g
    · exact hus
    · by_cases hempty : w.predicates.isEmpty
      · simpa [Generics.whereTokens, WhereClause.tokens, hempty] using hus
      · simp only [Generics.whereTokens, Option.map_some, Option.getD_some, WhereClause.tokens, hempty,
          Bool.false_eq_true, if_false]
        rfl
  cases fields with
  | named fields =>
    rw [Fields.bodyTokens, List.append_assoc]
    exact hclause rfl
  | positional fields => rfl
  | unit =>
    rw [Fields.bodyTokens, List.append_assoc]
    exact hclause rfl

/-- A struct is read again, as what it was. -/
theorem reads_struct {s : StructItem} (hformed : s.definition.Formed)
    (hattributes : ∀ a ∈ s.attributes, a.ReadsBack)
    (hparams : ∀ p ∈ s.generics.params.items, p.Stable) (hfields : s.fields.Stable)
    (hplaced : s.fields.Placed)
    (hclause : ∀ us, s.fields.after us = true → Reads (whereClause? phrases) s.generics.whereTokens us
      fun w => lexemes ((w.map WhereClause.tokens).getD []) = lexemes s.generics.whereTokens) :
    Reads (attributedStruct phrases) s.tokens rest (·.SameAs s) := by
  obtain ⟨hkeyword, hfieldsFormed⟩ := hformed.fields s.keyword s.fields rfl
  have hvisible : s.visibility.Formed := hformed.visibility
  have hnamed : ∀ p ∈ s.generics.params.items, p.Named := hformed.generics.params
  have hword : s.keyword.tokens = [⟨.ident "struct", s.keyword.span⟩] := by
    rw [Name.tokens, hkeyword]
  have htokens : s.tokens = Attribute.listTokens s.attributes ++ (s.visibility.tokens
      ++ (s.keyword.tokens ++ (s.name.tokens ++ (s.generics.tokens
      ++ s.fields.bodyTokens s.generics.whereTokens)))) := by
    simp [StructItem.tokens]
  rw [htokens, hword]
  refine (reads_outerAttributes hattributes ?_).bind fun as has => ?_
  · rw [List.append_assoc]
    exact isOp_visibility _ _ (isOp_ident _ _ _ _)
  refine (reads_visibility hvisible (endsVisibility_word (by decide) _ _ _)).bind fun v hv => ?_
  refine (reads_itemKeyword "struct" s.keyword.span).bind fun keyword hsame => ?_
  subst hsame
  refine (reads_name hformed.name).bind fun name hsame => ?_
  subst hsame
  refine (reads_generics hnamed hparams (isOp_body s.fields s.generics)).bind fun params hread => ?_
  refine (reads_structBody hfieldsFormed hfields hplaced hclause).bind_pure ?_
  rintro ⟨condition, fields⟩ ⟨hcondition, hsame⟩
  have hgenerics := sameAs_generics hread.1 hread.2 hcondition
  refine ⟨rfl, hv.2, hgenerics, hsame, ?_⟩
  have hwritten : lexemes (fields.bodyTokens
      (Generics.whereTokens { params with whereClause := condition }))
      = lexemes (s.fields.bodyTokens s.generics.whereTokens) :=
    lexemes_bodyTokens hsame hcondition
  simp only [StructItem.tokens, StructItem.definition, Name.tokens, hkeyword, lexemes_append,
    lexemes_listTokens has, hv.1, hgenerics.tokens, hwritten]

end Parser

end Memberwise
