import Memberwise.Expansion
import Memberwise.Proofs.Gives

/-!
# Definitions as items

An item begins with words that tell its kind. A struct, an enum or a union is therefore read as an
item and by itself alike, and nothing else is read as one. The readers of the two are apart from each
other, and so is what they declare: each sort of item has an arm of its own, and so has each sort of
body.

## Main definitions

* `Definition.item`: the item of the same parts
* `Item.IsDefinition`, `Item.IsOther`: the items that are definitions, and those that are none
* `Kind.word`: the word that tells a kind
* `Declares`: what either reader makes of a definition

## Main statements

* `declaration_item`: an item of the same parts declares the same
* `definition_begins`: what a definition begins with
* `itemAfter_eq_ok`: an item is a definition that was read as one, or no definition at all
* `readItem_eq_definition`: the definitions among the items
* `readers_agree`: a reader of items and one of definitions make the same declaration
-/

namespace Memberwise

/-! ## The items of definitions -/

/-- The definition of the same parts. -/
def StructItem.definition (s : StructItem) : Definition :=
  ⟨s.attributes, s.visibility, s.name, s.generics, .struct s.keyword s.fields⟩

/-- The definition of the same parts. -/
def EnumItem.definition (e : EnumItem) : Definition :=
  ⟨e.attributes, e.visibility, e.name, e.generics, .enum e.keyword e.variants⟩

/-- The definition of the same parts. -/
def UnionItem.definition (u : UnionItem) : Definition :=
  ⟨u.attributes, u.visibility, u.name, u.generics, .union u.keyword u.fields⟩

/-- The item of the same parts. -/
def Definition.item (d : Definition) : Item :=
  match d.body with
  | .struct keyword fields =>
    .struct ⟨d.attributes, d.visibility, keyword, d.name, d.generics, fields⟩
  | .enum keyword variants =>
    .enum ⟨d.attributes, d.visibility, keyword, d.name, d.generics, variants⟩
  | .union keyword fields =>
    .union ⟨d.attributes, d.visibility, keyword, d.name, d.generics, fields⟩

/-- The item is a struct, an enum or a union. -/
def Item.IsDefinition (i : Item) : Prop :=
  (∃ s, i = .struct s) ∨ (∃ e, i = .enum e) ∨ ∃ u, i = .union u

/-- The item has not the parts of a definition. -/
def Item.IsOther (i : Item) : Prop := ∀ d : Definition, i ≠ d.item

@[simp] theorem StructItem.item_definition (s : StructItem) : s.definition.item = .struct s := rfl

@[simp] theorem EnumItem.item_definition (e : EnumItem) : e.definition.item = .enum e := rfl

@[simp] theorem UnionItem.item_definition (u : UnionItem) : u.definition.item = .union u := rfl

theorem StructItem.definition_injective : Function.Injective StructItem.definition := by
  rintro ⟨attributes, visibility, keyword, name, generics, fields⟩ s h
  cases h
  rfl

/-- A definition whose body is that of a struct has the parts of a struct. -/
theorem Definition.eq_struct {d : Definition} {keyword : Name} {fields : Fields}
    (h : d.body = .struct keyword fields) :
    ∃ s : StructItem, d = s.definition ∧ s.keyword = keyword ∧ s.fields = fields := by
  obtain ⟨attributes, visibility, name, generics, body⟩ := d
  obtain rfl : body = .struct keyword fields := h
  exact ⟨⟨attributes, visibility, keyword, name, generics, fields⟩, rfl, rfl, rfl⟩

theorem Definition.item_injective : Function.Injective Definition.item := by
  rintro ⟨attributes, visibility, name, generics, body⟩ ⟨attributes', visibility', name', generics', body'⟩ h
  cases body <;> cases body' <;> cases h <;> rfl

theorem Definition.isDefinition_item (d : Definition) : d.item.IsDefinition := by
  obtain ⟨attributes, visibility, name, generics, body⟩ := d
  cases body with
  | struct keyword fields => exact .inl ⟨_, rfl⟩
  | enum keyword variants => exact .inr (.inl ⟨_, rfl⟩)
  | union keyword fields => exact .inr (.inr ⟨_, rfl⟩)

/-- The structs, enums and unions are the items with the parts of a definition. -/
theorem Item.isDefinition_iff {i : Item} : i.IsDefinition ↔ ∃ d : Definition, i = d.item := by
  constructor
  · rintro (⟨s, rfl⟩ | ⟨e, rfl⟩ | ⟨u, rfl⟩)
    · exact ⟨s.definition, rfl⟩
    · exact ⟨e.definition, rfl⟩
    · exact ⟨u.definition, rfl⟩
  · rintro ⟨d, rfl⟩
    exact d.isDefinition_item

/-- An item of the same parts declares the same, whichever reader made it. -/
@[simp] theorem declaration_item (d : Definition) : d.item.declaration = d.declaration := by
  obtain ⟨attributes, visibility, name, generics, body⟩ := d
  cases body with
  | struct keyword fields => rfl
  | enum keyword variants => rfl
  | union keyword fields => rfl

/-- The word that introduces an item of this kind. -/
def Kind.word : Kind → String
  | struct | unitStruct | tupleStruct => "struct"
  | enum => "enum"
  | union => "union"
  | other keyword => keyword

theorem Fields.word_kind (fields : Fields) : fields.kind.word = "struct" := by cases fields <;> rfl

namespace Parser

variable {ph : Phrases} {before : List Token} {attributes : List Attribute} {c c' : Cursor}

theorem afterVisibility_eq_ok {r : (Visibility × List Token) × Cursor} :
    afterVisibility c = .ok r ↔ ∃ v d, visibility c = .ok (v, d) ∧ r = ((v, d.tokens), c) := by
  simp only [afterVisibility, bind_apply, get_apply]
  cases visibility c with
  | error e =>
    constructor
    · rintro ⟨⟩
    · rintro ⟨_, _, ⟨⟩, _⟩
  | ok s =>
    obtain ⟨v, d⟩ := s
    constructor
    · rintro ⟨⟩
      exact ⟨v, d, rfl, rfl⟩
    · rintro ⟨_, _, ⟨⟩, rfl⟩
      rfl

/-! ## A definition by its keyword -/

section ByKeyword

variable {v : Visibility} {d : Cursor} (hv : visibility c = .ok (v, d))
include hv

theorem definition_struct (hword : isWord "struct" d.tokens = true) :
    definition ph attributes c = (StructItem.definition <$> structItem ph attributes) c := by
  simp only [definition, structItem, map_bind, map_pure, bind_apply, hv, ahead_apply, hword, if_true]
  rfl

theorem definition_enum (hword : isWord "enum" d.tokens = true) :
    definition ph attributes c = (EnumItem.definition <$> enumItem ph attributes) c := by
  obtain ⟨span, rest, htokens⟩ := isWord_iff.1 hword
  have hstruct : isWord "struct" d.tokens = false := by simp [htokens, isWord, Terminal.starts]
  simp only [definition, enumItem, map_bind, map_pure, bind_apply, hv, ahead_apply, hword, hstruct,
    if_true, Bool.false_eq_true, if_false]
  rfl

theorem definition_union (hword : isWord "union" d.tokens = true) :
    definition ph attributes c = (UnionItem.definition <$> unionItem ph attributes) c := by
  obtain ⟨span, rest, htokens⟩ := isWord_iff.1 hword
  have hstruct : isWord "struct" d.tokens = false := by simp [htokens, isWord, Terminal.starts]
  have henum : isWord "enum" d.tokens = false := by simp [htokens, isWord, Terminal.starts]
  simp only [definition, unionItem, map_bind, map_pure, bind_apply, hv, ahead_apply, hword, hstruct,
    henum, if_true, Bool.false_eq_true, if_false]
  rfl

end ByKeyword

/-- A struct that is read as an item is read as a definition. -/
theorem definition_of_structItem {s : StructItem} (h : structItem ph attributes c = .ok (s, c')) :
    definition ph attributes c = .ok (s.definition, c') := by
  obtain ⟨v, d, hv, hmore⟩ := bind_eq_ok.1 h
  obtain ⟨_, _, hkeyword, -⟩ := bind_eq_ok.1 hmore
  rw [definition_struct hv (itemKeyword_eq_ok hkeyword).1, map_apply, h]

theorem definition_of_enumItem {e : EnumItem} (h : enumItem ph attributes c = .ok (e, c')) :
    definition ph attributes c = .ok (e.definition, c') := by
  obtain ⟨v, d, hv, hmore⟩ := bind_eq_ok.1 h
  obtain ⟨_, _, hkeyword, -⟩ := bind_eq_ok.1 hmore
  rw [definition_enum hv (itemKeyword_eq_ok hkeyword).1, map_apply, h]

theorem definition_of_unionItem {u : UnionItem} (h : unionItem ph attributes c = .ok (u, c')) :
    definition ph attributes c = .ok (u.definition, c') := by
  obtain ⟨v, d, hv, hmore⟩ := bind_eq_ok.1 h
  obtain ⟨_, _, hkeyword, -⟩ := bind_eq_ok.1 hmore
  rw [definition_union hv (itemKeyword_eq_ok hkeyword).1, map_apply, h]

/-- A definition is a struct, an enum or a union, read as that. -/
theorem definition_eq_ok {d : Definition} (h : definition ph attributes c = .ok (d, c')) :
    (∃ s, d = StructItem.definition s ∧ structItem ph attributes c = .ok (s, c'))
      ∨ (∃ e, d = EnumItem.definition e ∧ enumItem ph attributes c = .ok (e, c'))
      ∨ ∃ u, d = UnionItem.definition u ∧ unionItem ph attributes c = .ok (u, c') := by
  obtain ⟨v, e, hv, hmore⟩ := bind_eq_ok.1 h
  rw [bind_apply, ahead_apply] at hmore
  simp only [ite_apply] at hmore
  by_cases hstruct : isWord "struct" e.tokens = true
  · exact .inl (map_eq_ok.1 (definition_struct hv hstruct ▸ h))
  · by_cases henum : isWord "enum" e.tokens = true
    · exact .inr (.inl (map_eq_ok.1 (definition_enum hv henum ▸ h)))
    · by_cases hunion : isWord "union" e.tokens = true
      · exact .inr (.inr (map_eq_ok.1 (definition_union hv hunion ▸ h)))
      · rw [if_neg hstruct, if_neg henum, if_neg hunion] at hmore
        exact absurd hmore (expected_ne_ok _ _ _)

/-! ## Definitions are read as items -/

/-- What a definition begins with, after its visibility: a keyword and a name. -/
theorem definition_begins {d : Definition} (h : definition ph attributes c = .ok (d, c')) :
    ∃ v after span rest, visibility c = .ok (v, after)
      ∧ after.tokens = ⟨.ident d.body.kind.word, span⟩ :: rest ∧ isIdent rest = true
      ∧ d.body.keyword = ⟨d.body.kind.word, span⟩ := by
  -- All three begin in the same way, with a word of their own.
  have hbegins {text : String} {after e : Cursor} {keyword n : Name}
      (hkeyword : itemKeyword text after = .ok (keyword, e))
      (hname : ∃ f, name e = .ok (n, f)) :
      ∃ span rest, after.tokens = ⟨.ident text, span⟩ :: rest ∧ isIdent rest = true
        ∧ keyword = ⟨text, span⟩ := by
    obtain ⟨_, _, hkeyword, hr⟩ := bind_eq_ok.1 hkeyword
    obtain ⟨span, rest, htokens, hd⟩ := keyword_eq_ok hkeyword
    cases hd
    cases hr
    obtain ⟨f, hname⟩ := hname
    obtain ⟨_, _, hname, -⟩ := bind_eq_ok.1 hname
    obtain ⟨word, place, more, hfree, hrest, -⟩ := identifier_eq_ok hname
    exact ⟨span, rest, htokens, isIdent_iff.2 ⟨word, place, more, hfree, hrest⟩, rfl⟩
  obtain ⟨s, rfl, hread⟩ | ⟨s, rfl, hread⟩ | ⟨s, rfl, hread⟩ := definition_eq_ok h
  all_goals
    obtain ⟨v, after, hv, hread⟩ := bind_eq_ok.1 hread
    obtain ⟨keyword, d₁, hkeyword, hread⟩ := bind_eq_ok.1 hread
    obtain ⟨n, d₂, hname, hread⟩ := bind_eq_ok.1 hread
    obtain ⟨g, d₃, -, hread⟩ := bind_eq_ok.1 hread
    obtain ⟨r, d₄, -, hr⟩ := bind_eq_ok.1 hread
    cases hr
    obtain ⟨span, rest, htokens, hident, hkeyword⟩ := hbegins hkeyword ⟨_, hname⟩
  · refine ⟨v, after, span, rest, hv, ?_, hident, ?_⟩
    all_goals simp only [StructItem.definition, Body.kind, Body.keyword, Fields.word_kind]
    · exact htokens
    · exact hkeyword
  · exact ⟨v, after, span, rest, hv, htokens, hident, hkeyword⟩
  · exact ⟨v, after, span, rest, hv, htokens, hident, hkeyword⟩

/-- A definition is read as an item, whatever its attributes. -/
theorem itemAfter_of_definition {d : Definition} (before : List Token)
    (h : definition ph attributes c = .ok (d, c')) :
    itemAfter ph before attributes c = .ok (d.item, c') := by
  obtain ⟨v, after, span, rest, hv, htokens, hident, -⟩ := definition_begins h
  have hvisible : afterVisibility c = .ok ((v, after.tokens), c) :=
    afterVisibility_eq_ok.2 ⟨v, after, hv, rfl⟩
  simp only [itemAfter, bind_apply, hvisible, ite_apply, htokens]
  obtain ⟨s, rfl, hs⟩ | ⟨e, rfl, he⟩ | ⟨u, rfl, hu⟩ := definition_eq_ok h
  · have hword : (StructItem.definition s).body.kind.word = "struct" := s.fields.word_kind
    simp [hword, isWord, Terminal.starts, beginsFunction, pastWord, map_apply, hs]
  · have hword : (EnumItem.definition e).body.kind.word = "enum" := rfl
    simp [hword, isWord, Terminal.starts, beginsFunction, pastWord, map_apply, he]
  · have hword : (UnionItem.definition u).body.kind.word = "union" := rfl
    simp [hword, isWord, Terminal.starts, beginsFunction, pastWord, map_apply, hu, afterTree,
      splitTree, hident]

/-! ## Other items are no definitions -/

/-- The readers of items that are no definitions. -/
def otherItems (ph : Phrases) (before : List Token) (attributes : List Attribute) :
    List (Parser Item) :=
  let outer := Attribute.listTokens attributes
  [functionItem ph before outer, externCrate outer, foreignBlock ph outer, useItem ph before outer,
    staticItem ph before outer, constItem ph before outer, traitDefinition ph outer,
    implementationItem ph before attributes, moduleItem ph outer, aliasItem ph before outer,
    traitOrSum ph outer, macroDefinition before, macroItem outer]

theorem gives_otherItems (ph : Phrases) (before : List Token) (attributes : List Attribute) :
    ∀ p ∈ otherItems ph before attributes, Gives c p Item.IsOther := by
  simp only [otherItems, List.forall_mem_cons, functionItem, externCrate, foreignBlock, useItem,
    staticItem, constItem, traitDefinition, implementationItem, moduleItem, aliasItem, traitOrSum,
    macroDefinition, macroItem]
  refine ⟨?_, ?_, ?_, ?_, ?_, ?_, ?_, ?_, ?_, ?_, ?_, ?_, ?_, List.forall_mem_nil _⟩
  -- What each reader does first has no part in the sort of item that it gives.
  all_goals repeat' first
    | with_reducible exact Gives.expected _
    | with_reducible refine Gives.ite (fun _ => ?_) fun _ => ?_
    | with_reducible refine Gives.then_ fun _ _ => ?_
    | split
    | exact Gives.pure fun d h => by simpa [← h, Item.IsDefinition] using d.isDefinition_item

theorem of_ite {α : Type} {b P : Prop} [Decidable b] {p q : Parser α} {r : α × Cursor}
    (hp : p c = .ok r → P) (hq : q c = .ok r → P) : (if b then p else q) c = .ok r → P := by
  split
  · exact hp
  · exact hq

/-- An item that is read is a definition, read as one, or it is no definition. -/
theorem itemAfter_eq_ok {i : Item} (h : itemAfter ph before attributes c = .ok (i, c')) :
    (∃ d : Definition, i = d.item ∧ definition ph attributes c = .ok (d, c')) ∨ i.IsOther := by
  obtain ⟨⟨visible, ts⟩, e, hvisible, h⟩ := bind_eq_ok.1 h
  obtain ⟨v, after, hv, hr⟩ := afterVisibility_eq_ok.1 hvisible
  cases hr
  have hdefines : Gives c (visibility >>= fun _ => macroDefinition before) Item.IsOther :=
    Gives.then_ fun _ _ => gives_otherItems ph before attributes _ (by simp [otherItems])
  have hstruct (h : (Item.struct <$> structItem ph attributes) c = .ok (i, c')) :
      ∃ d : Definition, i = d.item ∧ definition ph attributes c = .ok (d, c') := by
    obtain ⟨s, rfl, hs⟩ := map_eq_ok.1 h
    exact ⟨s.definition, rfl, definition_of_structItem hs⟩
  have henum (h : (Item.enum <$> enumItem ph attributes) c = .ok (i, c')) :
      ∃ d : Definition, i = d.item ∧ definition ph attributes c = .ok (d, c') := by
    obtain ⟨s, rfl, hs⟩ := map_eq_ok.1 h
    exact ⟨s.definition, rfl, definition_of_enumItem hs⟩
  have hunion (h : (Item.union <$> unionItem ph attributes) c = .ok (i, c')) :
      ∃ d : Definition, i = d.item ∧ definition ph attributes c = .ok (d, c') := by
    obtain ⟨s, rfl, hs⟩ := map_eq_ok.1 h
    exact ⟨s.definition, rfl, definition_of_unionItem hs⟩
  revert h
  dsimp only
  repeat' first
    | with_reducible refine of_ite ?_ ?_
    | with_reducible exact fun h => .inl (hstruct h)
    | with_reducible exact fun h => .inl (henum h)
    | with_reducible exact fun h => .inl (hunion h)
    | with_reducible exact fun h => .inr (hdefines.of_ok h)
    | with_reducible exact fun h => .inr ((Gives.expectedAt _ _).of_ok h)
    | exact fun h => .inr ((gives_otherItems ph before attributes _ (by simp [otherItems])).of_ok h)

/-! ## The definitions among the items -/

/-- A definition is read as an item and with its attributes alike. -/
theorem item_eq_definition {d : Definition} :
    item ph c = .ok (d.item, c') ↔ derivedDefinition ph c = .ok (d, c') := by
  rw [item, bind_apply, ahead_apply]
  simp only [derivedDefinition, bind_eq_ok]
  refine exists_congr fun attributes => exists_congr fun e => and_congr_right fun _ => ?_
  constructor
  · intro h
    obtain ⟨d', hd', h⟩ | hother := itemAfter_eq_ok h
    · rwa [Definition.item_injective hd']
    · exact absurd rfl (hother d)
  · exact itemAfter_of_definition _

/-- Reads a struct with its attributes. -/
def attributedStruct (ph : Phrases) : Parser StructItem := do structItem ph (← outerAttributes ph)

/-- A definition that is a struct is read as one. -/
theorem derivedDefinition_eq_struct {s : StructItem} :
    derivedDefinition ph c = .ok (s.definition, c') ↔ attributedStruct ph c = .ok (s, c') := by
  simp only [derivedDefinition, attributedStruct, bind_eq_ok]
  refine exists_congr fun attributes => exists_congr fun e => and_congr_right fun _ => ?_
  refine ⟨fun h => ?_, definition_of_structItem⟩
  obtain ⟨s', hs, h⟩ | ⟨e, he, -⟩ | ⟨u, hu, -⟩ := definition_eq_ok h
  · rwa [StructItem.definition_injective hs]
  · cases congrArg Definition.body he
  · cases congrArg Definition.body hu

theorem parseAll_item_eq_struct {ts : List Token} {limit : Span} {s : StructItem} :
    parseAll (item ph) ts limit = .ok (.struct s)
      ↔ parseAll (attributedStruct ph) ts limit = .ok s := by
  simp only [parseAll_eq_ok, ← derivedDefinition_eq_struct, ← item_eq_definition,
    StructItem.item_definition]

theorem parseAll_item_eq_definition {ts : List Token} {limit : Span} {d : Definition} :
    parseAll (item ph) ts limit = .ok d.item ↔ parseAll (derivedDefinition ph) ts limit = .ok d := by
  simp only [parseAll_eq_ok, item_eq_definition]

end Parser

/-- A stream is read as an item that is a definition if it is read as a definition. -/
theorem readItem_eq_definition {ts : List Token} {d : Definition} :
    readItem ts = .ok d.item ↔ readDefinition ts = .ok d :=
  Parser.parseAll_item_eq_definition

/-- One of the two readers reads the stream as the definition, and this is what it declares. -/
inductive Declares (ts : List Token) (d : Definition) : Declaration → Prop
  | item (read : readItem ts = .ok d.item) : Declares ts d d.item.declaration
  | definition (read : readDefinition ts = .ok d) : Declares ts d d.declaration

/-- Whichever reader it was, the other would have done the same. -/
theorem Declares.both {ts : List Token} {d : Definition} {made : Declaration}
    (h : Declares ts d made) :
    readItem ts = .ok d.item ∧ readDefinition ts = .ok d ∧ made = d.declaration := by
  cases h with
  | item read => exact ⟨read, readItem_eq_definition.1 read, declaration_item d⟩
  | definition read => exact ⟨readItem_eq_definition.2 read, read, rfl⟩

/-- A test of what is read shows that something is. -/
theorem ok_of_any {α : Type} {r : Except Diagnostic α} {test : α → Bool}
    (h : r.toOption.any test = true) : ∃ a, r = .ok a ∧ test a = true := by
  cases r with
  | error e => simp [Except.toOption] at h
  | ok a => exact ⟨a, rfl, by simpa [Except.toOption] using h⟩

theorem readDefinition_of_any {ts : List Token} {test : Definition → Bool}
    (h : (readDefinition ts).toOption.any test = true) :
    ∃ d, readDefinition ts = .ok d ∧ test d = true :=
  ok_of_any h

/-- The struct, if the item is one. -/
def Item.struct? : Item → Option StructItem
  | .struct s => some s
  | _ => none

theorem readItem_of_any_struct {ts : List Token} {test : StructItem → Bool}
    (h : (readItem ts).toOption.any (fun i => i.struct?.any test) = true) :
    ∃ s, readItem ts = .ok (.struct s) ∧ test s = true := by
  obtain ⟨i, hread, htest⟩ := ok_of_any h
  cases i with
  | struct s => exact ⟨s, hread, by simpa [Item.struct?] using htest⟩
  | _ => simp [Item.struct?] at htest

/-! ## The two readers -/

theorem readDefinition_keyword {ts : List Token} {d : Definition} (h : readDefinition ts = .ok d) :
    d.body.keyword.text = d.body.kind.word := by
  obtain ⟨c, hread, -⟩ := Parser.parseAll_eq_ok.1 h
  obtain ⟨attributes, e, -, hd⟩ := Parser.bind_eq_ok.1 hread
  obtain ⟨-, -, span, -, -, -, -, hkeyword⟩ := Parser.definition_begins hd
  rw [hkeyword]

/-- The two readers agree. A stream is read as a definition exactly if it is read as an item that is
a struct, an enum or a union. The item and the definition then have the same parts, and the two
declarations are the same: the name, the kind, the visibility, the parameters with the where clause,
the members and the place of the keyword, which is the word for the kind. -/
theorem readers_agree (ts : List Token) :
    ((∃ d, readDefinition ts = .ok d) ↔ ∃ i, readItem ts = .ok i ∧ i.IsDefinition)
      ∧ ∀ d i, readDefinition ts = .ok d → readItem ts = .ok i →
          i = d.item ∧ i.declaration = d.declaration
            ∧ d.body.keyword = ⟨i.declaration.kind.word, i.declaration.keywordSpan⟩ := by
  constructor
  · constructor
    · rintro ⟨d, hd⟩
      exact ⟨d.item, readItem_eq_definition.2 hd, d.isDefinition_item⟩
    · rintro ⟨i, hi, hdefinition⟩
      obtain ⟨d, rfl⟩ := Item.isDefinition_iff.1 hdefinition
      exact ⟨d, readItem_eq_definition.1 hi⟩
  · intro d i hd hi
    obtain rfl : i = d.item := Except.ok.inj (hi.symm.trans (readItem_eq_definition.2 hd))
    refine ⟨rfl, declaration_item d, ?_⟩
    rw [declaration_item]
    exact congrArg (fun text => Name.mk text d.body.keyword.span) (readDefinition_keyword hd)

open Generated in
/-- A union of that name: its keyword is one only in its place. -/
theorem readers_agree_union :
    let ts := word "pub" ++ word "union" ++ word "union"
      ++ group .brace (word "union" ++ operator ":" ++ word "u8")
    ∃ d i, readDefinition ts = .ok d ∧ readItem ts = .ok i ∧ i.IsDefinition
      ∧ i.declaration = d.declaration ∧ i.declaration.kind = .union := by
  intro ts
  obtain ⟨d, hd, hkind⟩ := @readDefinition_of_any ts (fun d => d.declaration.kind == .union)
    (by decide +kernel)
  obtain ⟨i, hi, hdefinition⟩ := (readers_agree ts).1.1 ⟨d, hd⟩
  obtain ⟨-, hdeclaration, -⟩ := (readers_agree ts).2 d i hd hi
  refine ⟨d, i, hd, hi, hdefinition, hdeclaration, ?_⟩
  rw [hdeclaration]
  simpa using hkind

end Memberwise
