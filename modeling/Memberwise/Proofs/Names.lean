import Memberwise.Arguments
import Memberwise.Proofs.Forms

/-!
# Names that were read

A name is never a word that is reserved, wherever it was read, and so it can be read again. The only
exceptions are an underscore for a field and one for a type parameter.

## Main definitions

* `Generics.Named`: the parameters and predicates have names
* `Definition.Formed`: what stands in front of names has its form as well

## Main statements

* `gives_name`, `gives_generics`, `gives_whereClause?`: the names of a header
* `gives_namedField`, `gives_definition`: the names of fields and of definitions
* `functionName_unreserved`: the name of the function
-/

namespace Memberwise

/-- The parameters have names, and so have the lifetimes of which something is demanded. -/
structure Generics.Named (g : Generics) : Prop where
  params : ∀ p ∈ g.params.items, p.Named
  predicates : ∀ p ∈ Parser.predicates g.whereClause, p.Named

theorem IsName.ne_underscore {ts : List Token} (h : IsName ts) : lexemes ts ≠ [.ident "_"] := by
  obtain ⟨word, span, hfree, rfl⟩ := h
  have hreserved : isReserved "_" = true := by decide
  simp only [lexemes_cons, lexemes_nil, ne_eq, List.cons.injEq, Lexeme.ident.injEq, and_true]
  rintro rfl
  rw [hreserved] at hfree
  cases hfree

theorem IsLifetime.ne_underscore {ts : List Token} (h : IsLifetime ts) :
    lexemes ts ≠ [.ident "_"] := by
  obtain ⟨mark, word, span, rfl⟩ := h
  simp

namespace Parser

variable {ph : Phrases} {c : Cursor}

/-! ## Words -/

theorem gives_identifier : Gives c identifier IsName := by
  intro a c' h
  obtain ⟨word, span, rest, hfree, -, hr⟩ := identifier_eq_ok h
  cases hr
  exact ⟨word, span, hfree, rfl⟩

theorem gives_lifetime : Gives c lifetime IsLifetime := by
  intro a c' h
  obtain ⟨mark, word, span, rest, -, hr⟩ := lifetime_eq_ok h
  cases hr
  exact ⟨mark, word, span, rfl⟩

theorem gives_keyword (text : String) :
    Gives c (keyword text) fun ts => ∃ span, ts = [⟨.ident text, span⟩] := by
  intro ts c' h
  obtain ⟨span, us, -, hr⟩ := keyword_eq_ok h
  cases hr
  exact ⟨span, rfl⟩

/-- A name that is read is not reserved. -/
theorem gives_name : Gives c name fun n => isReserved n.text = false := by
  refine gives_identifier.bind fun ts d hts => Gives.pure ?_
  obtain ⟨word, span, hfree, rfl⟩ := hts
  exact hfree

theorem gives_underscore (hword : isWord "_" c.tokens = true) :
    Gives c anyWord fun ts => ∃ span, ts = [⟨.ident "_", span⟩] := by
  intro ts c' h
  obtain ⟨span, rest, htokens⟩ := isWord_iff.1 hword
  obtain ⟨word, span', rest', htokens', hr⟩ := anyWord_eq_ok h
  rw [htokens] at htokens'
  cases htokens'
  cases hr
  exact ⟨span, rfl⟩

theorem gives_bounds {stop : List Token → Bool} {item : Parser (List Token)}
    {Q : List Token → Prop} (hitem : ∀ c, Gives c item Q) :
    Gives c (bounds stop item) fun l => ∀ b ∈ l.items, Q b := by
  rw [bounds, joined_eq]
  exact gives_list _ _ _ hitem

/-! ## Parameters -/

theorem gives_lifetimeParam (attributes : List Attribute) :
    Gives c lifetimeParam fun sort => GenericParam.Proper ⟨attributes, sort⟩ := by
  refine gives_lifetime.bind fun name d hname => Gives.ahead (Gives.ite (fun _ => ?_) fun _ => ?_)
  · exact Gives.then_ fun _ _ => (gives_bounds fun _ => gives_lifetime).bind fun bounds _ hbounds =>
      Gives.pure ⟨⟨hname, hbounds⟩, hname.ne_underscore⟩
  · exact Gives.pure ⟨⟨hname, by simp [Listed.empty]⟩, hname.ne_underscore⟩

theorem gives_typeParam (attributes : List Attribute) :
    Gives c (typeParam ph) fun sort => GenericParam.Proper ⟨attributes, sort⟩ := by
  refine gives_identifier.bind fun name d hname => Gives.then_ fun colon d => ?_
  have hproper (colon : Bool) (bounds : Listed (List Token)) (default : Option (List Token)) :
      GenericParam.Proper ⟨attributes, .type name colon bounds default⟩ :=
    ⟨.inl hname, hname.ne_underscore⟩
  have hlast (colon : Bool) (bounds : Listed (List Token)) (d : Cursor) : Gives d (do
      let equals ← operator? "="
      if equals.isEmpty then return .type name colon bounds none
      else return .type name colon bounds (some (← ph.tokens (.type true))))
      fun sort => GenericParam.Proper ⟨attributes, sort⟩ := by
    refine Gives.then_ fun equals d => Gives.ite (fun _ => Gives.pure (hproper _ _ _)) fun _ => ?_
    exact Gives.then_ fun _ _ => Gives.pure (hproper _ _ _)
  refine Gives.ite (fun _ => ?_) fun _ => ?_
  · exact Gives.then_ fun bounds d => hlast _ bounds d
  · exact Gives.then_ fun bounds d => hlast _ bounds d

theorem gives_constParam (attributes : List Attribute) :
    Gives c (constParam ph) fun sort => GenericParam.Proper ⟨attributes, sort⟩ := by
  refine Gives.then_ fun _ d => gives_identifier.bind fun name d hname => ?_
  have hproper (type : List Token) (default : Option (List Token)) :
      GenericParam.Proper ⟨attributes, .const name type default⟩ := ⟨hname, hname.ne_underscore⟩
  refine Gives.then_ fun _ d => Gives.then_ fun type d => Gives.ahead (Gives.ite (fun _ => ?_)
    fun _ => Gives.pure (hproper _ _))
  exact Gives.then_ fun _ d => Gives.then_ fun _ _ => Gives.pure (hproper _ _)

/-- A parameter that is read has a name, or is an underscore. -/
theorem gives_declaredParam : Gives c (declaredParam ph) GenericParam.Named := by
  refine Gives.then_ fun attributes d => Gives.ahead ?_
  refine Gives.ite (fun _ => ?_) fun _ => Gives.ite (fun _ => ?_) fun _ =>
    Gives.ite (fun _ => ?_) fun _ => Gives.ite (fun hword => ?_) fun _ => ?_
  · exact (gives_lifetimeParam attributes).bind fun sort _ hsort => Gives.pure hsort.1
  · exact (gives_typeParam attributes).bind fun sort _ hsort => Gives.pure hsort.1
  · exact (gives_constParam attributes).bind fun sort _ hsort => Gives.pure hsort.1
  · exact (gives_underscore hword).bind fun ts _ hts => Gives.pure (.inr ⟨hts, rfl, rfl⟩)
  · exact Gives.bind (Gives.expected _) fun sort _ hsort => Gives.pure hsort

/-- A parameter after `for` has a name. -/
theorem gives_boundParam : Gives c (boundParam ph) GenericParam.Proper := by
  refine Gives.then_ fun attributes d => Gives.ahead ?_
  refine Gives.ite (fun _ => ?_) fun _ => Gives.ite (fun _ => ?_) fun _ =>
    Gives.ite (fun _ => ?_) fun _ => ?_
  · exact (gives_typeParam attributes).bind fun sort _ hsort => Gives.pure hsort
  · exact (gives_lifetimeParam attributes).bind fun sort _ hsort => Gives.pure hsort
  · exact (gives_constParam attributes).bind fun sort _ hsort => Gives.pure hsort
  · exact Gives.bind (Gives.expected _) fun sort _ hsort => Gives.pure hsort

theorem gives_generics : Gives c (generics ph) fun g => ∀ p ∈ g.params.items, p.Named := by
  refine Gives.ahead (Gives.ite (fun _ => Gives.then_ fun _ d => ?_) fun _ => ?_)
  · rw [separated_eq]
    exact (gives_list _ _ _ fun _ => gives_declaredParam).bind fun params _ hparams =>
      Gives.then_ fun _ _ => Gives.pure hparams
  · exact Gives.pure (by simp [Generics.none, Listed.empty])

/-! ## Where clauses -/

theorem gives_binderParts : Gives c (binderParts ph) Binder.Named := by
  refine Gives.bind (Q := fun opening => ∃ span bracket, opening = ⟨.ident "for", span⟩ :: bracket
    ∧ lexemes bracket = lexemes (Generated.operator "<")) ?_ fun opening d hopening => ?_
  · refine (gives_keyword "for").bind fun word d hword => ?_
    have hbracket : Gives d (seq [operator "<"])
        fun ts => lexemes ts = lexemes (Generated.operator "<") := by
      refine (gives_operator "<").bind fun bracket e h => ?_
      refine Gives.bind (Q := (· = [])) (Gives.pure rfl) ?_
      rintro _ _ rfl
      exact Gives.pure (by rw [List.append_nil, h])
    obtain ⟨span, rfl⟩ := hword
    exact hbracket.bind fun bracket _ h => Gives.pure ⟨span, bracket, rfl, h⟩
  · rw [separated_eq]
    refine (gives_list _ _ _ fun _ => gives_boundParam).bind fun params _ hparams => ?_
    exact (gives_operator ">").bind fun closing _ hclosing =>
      Gives.pure ⟨hopening, hparams, hclosing⟩

theorem gives_predicate : Gives c (predicate ph) Predicate.Named := by
  refine Gives.ahead (Gives.ite (fun _ => ?_) fun _ => ?_)
  · refine gives_lifetime.bind fun name d hname => Gives.then_ fun _ d => ?_
    exact (gives_bounds fun _ => gives_lifetime).bind fun bounds _ hbounds =>
      Gives.pure ⟨hname, hbounds⟩
  · have hafter (binder : Option Binder) (hbinder : ∀ b ∈ binder, b.Named) (d : Cursor) :
        Gives d (do
          let subject ← ph.tokens (.type true)
          let _ ← operator ":"
          return .type binder subject (← bounds endsPredicate (ph.tokens (.bound false true))))
          Predicate.Named :=
      Gives.then_ fun _ _ => Gives.then_ fun _ _ => Gives.then_ fun _ _ => Gives.pure hbinder
    refine Gives.ite (fun _ => ?_) fun _ => ?_
    · refine Gives.bind (Q := fun binder => ∀ b ∈ binder, b.Named) (Gives.map ?_)
        fun binder d h => hafter binder h d
      exact gives_binderParts.mono fun b hb => by simpa using hb
    · exact Gives.bind (Q := fun binder => ∀ b ∈ binder, b.Named) (Gives.pure (by simp))
        fun binder d h => hafter binder h d

/-- What is demanded of a lifetime in a where clause that is read has names. -/
theorem gives_whereClause? :
    Gives c (whereClause? ph) fun w => ∀ p ∈ predicates w, p.Named := by
  refine Gives.ahead (Gives.ite (fun _ => ?_) fun _ => Gives.pure (by simp [predicates]))
  have hclause (d : Cursor) : Gives d (whereClause ph) fun w => ∀ p ∈ w.predicates.items, p.Named := by
    refine Gives.then_ fun _ d => Gives.ahead (Gives.ite (fun _ => Gives.reject _) fun _ => ?_)
    rw [joined_eq]
    exact (gives_list _ _ _ fun _ => gives_predicate).bind fun l _ hl => Gives.pure hl
  exact (hclause _).bind fun w _ hw => Gives.pure hw

end Parser

/-! ## Declarations -/

/-- The member has a name, which may be an underscore, or none. -/
def Member.Named : Member → Prop
  | .stored name _ _ => isReserved name.text = false ∨ name.text = "_"
  | .unnamed => True

/-- The declaration and what is in it have names. -/
structure Declaration.Named (d : Declaration) : Prop where
  name : isReserved d.name.text = false
  generics : d.generics.Named
  members : ∀ m ∈ d.members, m.Named

/-- The field has a name, which may be an underscore, and what stands in front of it has its form. -/
structure NamedField.Formed (f : NamedField) : Prop where
  name : isReserved f.name.text = false ∨ f.name.text = "_"
  attributes : ∀ a ∈ f.attributes, a.Formed
  visibility : f.visibility.Formed

/-- What is in front of the names or the types of the fields has its form. -/
def Fields.Formed : Fields → Prop
  | .named fields => ∀ f ∈ fields.items, f.Formed
  | .positional fields => ∀ f ∈ fields.items, f.visibility.Formed
  | .unit => True

/-- The definition has names, and its visibilities and attributes have their forms. -/
structure Definition.Formed (d : Definition) : Prop where
  name : isReserved d.name.text = false
  visibility : d.visibility.Formed
  generics : d.generics.Named
  fields : ∀ keyword fields, d.body = .struct keyword fields → keyword.text = "struct" ∧ fields.Formed

theorem Fields.Formed.members {fields : Fields} (h : fields.Formed) :
    ∀ m ∈ fields.members, m.Named := by
  intro m hm
  cases fields with
  | unit => simp [Fields.members] at hm
  | named fields =>
    obtain ⟨f, hf, rfl⟩ := List.mem_map.1 hm
    exact (h f hf).name
  | positional fields =>
    obtain ⟨f, -, rfl⟩ := List.mem_map.1 hm
    trivial

theorem Definition.Formed.declaration {d : Definition} (h : d.Formed) : d.declaration.Named := by
  refine ⟨h.name, h.generics, fun m hm => ?_⟩
  cases hbody : d.body with
  | struct keyword fields =>
    refine (h.fields keyword fields hbody).2.members m ?_
    simpa [Definition.declaration, hbody, Body.members] using hm
  | enum | union => simp [Definition.declaration, hbody, Body.members] at hm

namespace Parser

variable {ph : Phrases} {c : Cursor}

theorem gives_namedField : Gives c (namedField ph) NamedField.Formed := by
  refine gives_outerAttributes.bind fun attributes d hattributes =>
    gives_visibility.bind fun visibility d hvisibility => Gives.ahead ?_
  refine Gives.ite (fun hword => ?_) fun _ => ?_
  · have hunderscore : Gives d anyName fun n => n.text = "_" := by
      refine (gives_underscore hword).bind fun ts _ hts => Gives.pure ?_
      obtain ⟨span, rfl⟩ := hts
      rfl
    refine hunderscore.bind fun n d hn => Gives.then_ fun _ d => Gives.ahead ?_
    refine Gives.ite (fun _ => ?_) fun _ => ?_
    · exact Gives.then_ fun _ _ => Gives.pure ⟨.inr hn, hattributes, hvisibility⟩
    · exact Gives.then_ fun _ _ => Gives.pure ⟨.inr hn, hattributes, hvisibility⟩
  · refine gives_name.bind fun n d hn => Gives.then_ fun _ d => Gives.ahead ?_
    refine Gives.ite (fun _ => ?_) fun _ => ?_
    · exact Gives.then_ fun _ _ => Gives.pure ⟨.inl hn, hattributes, hvisibility⟩
    · exact Gives.then_ fun _ _ => Gives.pure ⟨.inl hn, hattributes, hvisibility⟩

theorem gives_positionalField : Gives c (positionalField ph) fun f => f.visibility.Formed :=
  Gives.then_ fun _ _ => gives_visibility.bind fun _ _ hvisibility => Gives.then_ fun _ _ =>
    Gives.pure hvisibility

theorem gives_namedFields : Gives c (namedFields ph) fun l => (Fields.named l).Formed := by
  refine Gives.inside fun d => ?_
  rw [separated_eq]
  exact gives_list _ _ _ fun _ => gives_namedField

theorem gives_positionalFields :
    Gives c (positionalFields ph) fun l => (Fields.positional l).Formed := by
  refine Gives.inside fun d => ?_
  rw [separated_eq]
  exact gives_list _ _ _ fun _ => gives_positionalField

theorem gives_structBody :
    Gives c (structBody ph) fun r => (∀ p ∈ predicates r.1, p.Named) ∧ r.2.Formed := by
  refine gives_whereClause?.bind fun w d hw => Gives.ahead (Gives.ite (fun _ => ?_) fun _ =>
    Gives.ite (fun _ => ?_) fun _ => Gives.ite (fun _ => ?_) fun _ => Gives.ite (fun _ => ?_)
    fun _ => ?_)
  · refine gives_positionalFields.bind fun l d hl => gives_whereClause?.bind fun w d hw =>
      Gives.ahead (Gives.ite (fun _ => Gives.then_ fun _ _ => Gives.pure ⟨hw, hl⟩) fun _ =>
      Gives.ite (fun _ => Gives.expected _) fun _ => Gives.expected _)
  · exact gives_namedFields.bind fun l _ hl => Gives.pure ⟨hw, hl⟩
  · exact Gives.then_ fun _ _ => Gives.pure ⟨hw, trivial⟩
  · exact Gives.expected _
  · exact Gives.expected _

theorem gives_enumBody : Gives c (enumBody ph) fun r => ∀ p ∈ predicates r.1, p.Named :=
  gives_whereClause?.bind fun _ _ hw => Gives.then_ fun _ _ => Gives.pure hw

theorem gives_unionBody : Gives c (unionBody ph) fun r => ∀ p ∈ predicates r.1, p.Named :=
  gives_whereClause?.bind fun _ _ hw => Gives.then_ fun _ _ => Gives.pure hw

theorem gives_itemKeyword (text : String) : Gives c (itemKeyword text) fun n => n.text = text :=
  fun _ _ h => (itemKeyword_eq_ok h).2

/-- A definition that is read has its names and forms. -/
theorem gives_definition (attributes : List Attribute) :
    Gives c (definition ph attributes) Definition.Formed := by
  refine gives_visibility.bind fun visibility d hvisibility => Gives.ahead (Gives.ite (fun _ => ?_)
    fun _ => Gives.ite (fun _ => ?_) fun _ => Gives.ite (fun _ => ?_) fun _ => Gives.expected _)
  · refine (gives_itemKeyword "struct").bind fun keyword d hkeyword => gives_name.bind fun n d hn =>
      gives_generics.bind fun g d hg => gives_structBody.bind fun r d hr => Gives.pure ?_
    refine ⟨hn, hvisibility, ⟨hg, hr.1⟩, ?_⟩
    rintro _ _ ⟨⟩
    exact ⟨hkeyword, hr.2⟩
  · refine Gives.then_ fun keyword d => gives_name.bind fun n d hn => gives_generics.bind fun g d hg =>
      gives_enumBody.bind fun r d hr => Gives.pure ⟨hn, hvisibility, ⟨hg, hr⟩, ?_⟩
    rintro _ _ ⟨⟩
  · refine Gives.then_ fun keyword d => gives_name.bind fun n d hn => gives_generics.bind fun g d hg =>
      gives_unionBody.bind fun r d hr => Gives.pure ⟨hn, hvisibility, ⟨hg, hr⟩, ?_⟩
    rintro _ _ ⟨⟩

/-! ## The name of the function -/

theorem gives_lift {α : Type} {r : Except Diagnostic α} {Q : α → Prop} (h : ∀ a, r = .ok a → Q a) :
    Gives c (liftM r : Parser α) Q := by
  intro a c' hr
  cases r with
  | error e => cases hr
  | ok b =>
    cases hr
    exact h a rfl

theorem gives_of_parseAll {α : Type} {p : Parser α} {ts : List Token} {limit : Span} {a : α}
    {Q : α → Prop} (hp : ∀ c, Gives c p Q) (h : parseAll p ts limit = .ok a) : Q a := by
  obtain ⟨c, hread, -⟩ := parseAll_eq_ok.1 h
  exact hp _ a c hread

/-- A name in quotes is not reserved either. -/
theorem ofLiteral_unreserved {text : String} {span : Span} {n : Name}
    (h : Name.ofLiteral text span = .ok n) : isReserved n.text = false := by
  rw [Name.ofLiteral] at h
  split at h
  · cases h
  · split at h
    · cases h
    · next ts hlex =>
      cases hread : parseAll Parser.name (ts.map (Token.placedIn span)) span with
      | error e =>
        rw [hread] at h
        cases h
      | ok m =>
        have hname := gives_of_parseAll (fun _ => gives_name) hread
        simp only [hread, bind, Except.bind] at h
        split at h
        · cases h
          exact hname
        · cases h

theorem gives_argumentValue : Gives c argumentValue fun n => isReserved n.text = false := by
  refine Gives.ahead ?_
  split
  · refine Gives.ite (fun _ => Gives.then_ fun _ d => ?_) fun _ => gives_name
    exact gives_lift fun n hn => ofLiteral_unreserved hn
  · exact gives_name

theorem gives_arguments :
    Gives c arguments fun a => ∀ n ∈ a.name, isReserved n.text = false := by
  refine Gives.loop (fun found => ∀ n ∈ found, isReserved n.text = false)
    (fun found d hfound => ?_) (by simp)
  refine Gives.then_ fun ended d => Gives.ite (fun _ => Gives.pure hfound) fun _ => ?_
  refine Gives.then_ fun argument d => Gives.ite (fun _ => ?_) fun _ => Gives.rejectAt _ _
  refine Gives.ite (fun _ => ?_) fun _ => ?_
  · exact Gives.bind (Q := fun _ => False) (Gives.rejectAt _ _) fun _ _ h => h.elim
  · refine Gives.then_ fun _ d => gives_argumentValue.bind fun value d hvalue => ?_
    have hsome : ∀ n ∈ some value, isReserved n.text = false := by simpa using hvalue
    refine Gives.then_ fun ended d => Gives.ite (fun _ => Gives.pure hsome) fun _ => ?_
    exact Gives.then_ fun _ _ => Gives.pure hsome

/-- The name of the function is not reserved, whether it is given or not. -/
theorem functionName_unreserved {ts : List Token} {limit : Span} {a : Arguments}
    (h : parseAll Parser.arguments ts limit = .ok a) : isReserved a.functionName.text = false := by
  have hname := gives_of_parseAll (fun _ => gives_arguments) h
  rw [Arguments.functionName]
  cases hn : a.name with
  | none => decide
  | some n => exact hname n hn

end Parser

end Memberwise
