import Memberwise.Proofs.Interface
import Memberwise.Proofs.Places

/-!
# Stability under re-emission

What the attribute gives back of a struct is another text: its parameters are in another order,
commas may have moved, and parts without content are left out. It is the same struct all the same.
Read again it is written with the same tokens, so a second use of the attribute on what the first gave
back adds what it would have added to the source.

## Main definitions

* `StructItem.Stable`: the phrases in a struct are read again in their places

## Main statements

* `readItem_tokens`: a struct is read again as what it was
* `expandAttribute_reemitted`: the attribute expands what it gave back as it expands the source
-/

namespace Memberwise

open Generated

/-- Each attribute, type, bound and constant in the struct is read again in its place. -/
structure StructItem.Stable (s : StructItem) : Prop where
  attributes : ∀ a ∈ s.attributes, a.ReadsBack
  params : ∀ p ∈ s.generics.params.items, p.Stable
  condition : ∀ p ∈ Parser.predicates s.generics.whereClause, p.Stable s.fields.after
  fields : s.fields.Stable

/-! ## Reading again -/

theorem formed_of_readItem {item : List Token} {s : StructItem}
    (h : readItem item = .ok (.struct s)) : s.definition.Formed :=
  formed_of_readDefinition ((@readItem_eq_definition item s.definition).1 h)

theorem endsClause_after (fields : Fields) : Parser.EndsClause fields.after := by
  cases fields with
  | named fields => exact Parser.endsClause_isBrace
  | positional fields => exact Parser.endsClause_semicolon
  | unit => exact Parser.endsClause_semicolon

/-- A struct that was read is read again from what is written of it, as what it was. -/
theorem readItem_tokens {item : List Token} {s : StructItem} (hwhole : Whole item)
    (hread : readItem item = .ok (.struct s)) (hstable : s.Stable) :
    ∃ e, readItem s.tokens = .ok (.struct e) ∧ e.SameAs s := by
  have hformed := formed_of_readItem hread
  obtain ⟨hclause, hfields⟩ := Parser.placed_struct (finds_of_readItem hwhole hread)
  have hreads : Parser.Reads (Parser.attributedStruct phrases) s.tokens [] (·.SameAs s) := by
    apply Parser.reads_struct hformed hstable.attributes hstable.params hstable.fields hfields
    intro us hus
    exact (Parser.reads_condition (endsClause_after _) hformed.generics.predicates hstable.condition
      hclause hus).mono fun _ h => h.1
  obtain ⟨e, he, hsame⟩ := hreads.parseAll .outside
  exact ⟨e, Parser.parseAll_item_eq_struct.2 he, hsame⟩

/-! ## Expanding again -/

/-- A field that was read again shows what it showed. -/
theorem outline_eq_of_sameAs {f g : NamedField} (hf : f.Formed) (hg : g.Formed) (h : g.SameAs f) :
    g.outline = f.outline := by
  have hcfgs := lexemes_cfgAttributes hg.attributes hf.attributes h.attributes
  simp [NamedField.outline, h.name, h.type, hcfgs]

theorem outlines_eq_of_sameAs {fs gs : List NamedField} (hfs : ∀ f ∈ fs, f.Formed)
    (hgs : ∀ g ∈ gs, g.Formed) (h : List.Forall₂ (fun f g => g.SameAs f) fs gs) :
    gs.map NamedField.outline = fs.map NamedField.outline := by
  induction h with
  | nil => rfl
  | cons hsame _ ih =>
    rw [List.forall_mem_cons] at hfs hgs
    rw [List.map_cons, List.map_cons, outline_eq_of_sameAs hfs.1 hgs.1 hsame, ih hfs.2 hgs.2]

/-- Fields that were read again are of the kind that they were of, and show what they showed. -/
theorem shows_of_sameAs {fields others : Fields} (hfields : fields.Formed) (hothers : others.Formed)
    (h : others.SameAs fields) (keyword keyword' : Name) :
    others.kind.isProduct = fields.kind.isProduct
      ∧ (Body.struct keyword' others).namedFields.map NamedField.outline
        = (Body.struct keyword fields).namedFields.map NamedField.outline := by
  cases fields with
  | named l =>
    cases others with
    | named m => exact ⟨rfl, outlines_eq_of_sameAs hfields hothers h.1⟩
    | positional m => exact h.elim
    | unit => exact h.elim
  | positional l =>
    cases others with
    | positional m => exact ⟨rfl, rfl⟩
    | named m => exact h.elim
    | unit => exact h.elim
  | unit =>
    cases others with
    | unit => exact ⟨rfl, rfl⟩
    | named m => exact h.elim
    | positional m => exact h.elim

/-- A struct that was read again shows what it showed. -/
theorem showsAs_of_sameAs {s e : StructItem} (hs : s.definition.Formed) (he : e.definition.Formed)
    (h : e.SameAs s) : e.definition.ShowsAs s.definition := by
  obtain ⟨hproduct, hfields⟩ := shows_of_sameAs (hs.fields s.keyword s.fields rfl).2
    (he.fields e.keyword e.fields rfl).2 h.fields s.keyword e.keyword
  exact ⟨hproduct, h.name, h.access, h.generics.implTokens, h.generics.argumentTokens,
    h.generics.whereTokens, hfields⟩

/-- What the attribute gives back of a struct is a struct, and for any arguments the attribute
expands it as it expands the source. -/
theorem expandAttribute_reemitted {item : List Token} {s : StructItem} (hwhole : Whole item)
    (hread : readItem item = .ok (.struct s)) (hstable : s.Stable) (arguments : List Token) :
    let again := (expandAttribute arguments item).kept
    (∃ e, readItem again = .ok (.struct e))
      ∧ ∀ arguments', lexemes (expandAttribute arguments' again).kept
          = lexemes (expandAttribute arguments' item).kept
        ∧ lexemes (expandAttribute arguments' again).tokens
          = lexemes (expandAttribute arguments' item).tokens := by
  intro again
  obtain ⟨e, he, hsame⟩ := readItem_tokens hwhole hread hstable
  have hkept (arguments : List Token) : (expandAttribute arguments item).kept = s.tokens := by
    simp only [expandAttribute, hread]
    rfl
  have hagain : again = s.tokens := hkept arguments
  rw [hagain]
  refine ⟨⟨e, he⟩, fun arguments' => ?_⟩
  have hsecond : lexemes (expandAttribute arguments' s.tokens).kept
      = lexemes (expandAttribute arguments' item).kept := by
    rw [hkept]
    simp only [expandAttribute, he]
    exact hsame.tokens
  have hadded : lexemes (expandAttribute arguments' s.tokens).added
      = lexemes (expandAttribute arguments' item).added := by
    refine lexemes_added_expandAttribute ((@readItem_eq_definition _ e.definition).1 he)
      ((@readItem_eq_definition _ s.definition).1 hread) ?_ rfl
    exact showsAs_of_sameAs (formed_of_readItem hread) (formed_of_readItem he) hsame
  refine ⟨hsecond, ?_⟩
  rw [Expansion.tokens, Expansion.tokens, lexemes_append, lexemes_append, hsecond, hadded]

/-- For `#[derive(Debug)] pub struct Pair<T:, 'a,> where { #[cfg(test)] x: T, pub y: u8, }`: a colon
and a clause without content, and a lifetime that is written first. -/
theorem expandAttribute_reemitted_pair :
    let lifetime : List Token := ⟨.punct '\x27' .joint, .outside⟩ :: word "a"
    let marked (name content : String) := operator "#"
      ++ group .bracket (word name ++ group .parenthesis (word content))
    let item := marked "derive" "Debug" ++ word "pub" ++ word "struct" ++ word "Pair" ++ operator "<"
      ++ word "T" ++ operator ":" ++ operator "," ++ lifetime ++ operator "," ++ operator ">"
      ++ word "where" ++ group .brace (marked "cfg" "test" ++ word "x" ++ operator ":" ++ word "T"
        ++ operator "," ++ word "pub" ++ word "y" ++ operator ":" ++ word "u8" ++ operator ",")
    ∃ s, Whole item ∧ readItem item = .ok (.struct s) ∧ s.Stable
      ∧ lexemes (expandAttribute [] item).kept ≠ lexemes item
      ∧ ∀ arguments,
        let again := (expandAttribute arguments item).kept
        (∃ e, readItem again = .ok (.struct e))
          ∧ ∀ arguments', lexemes (expandAttribute arguments' again).kept
              = lexemes (expandAttribute arguments' item).kept
            ∧ lexemes (expandAttribute arguments' again).tokens
              = lexemes (expandAttribute arguments' item).tokens := by
  intro lifetime marked item
  let stored (name content : String) : Attribute := ⟨false, word name, .arguments
    ⟨.opening .parenthesis, .outside⟩ (word content) ⟨.closing .parenthesis, .outside⟩,
    Span.outside.join .outside⟩
  let params : Listed GenericParam :=
    ⟨[⟨[], .type (word "T") true .empty none⟩, ⟨[], .lifetime lifetime false .empty⟩], true⟩
  let fields : Fields := .named ⟨[⟨[stored "cfg" "test"], .inherited, ⟨"x", .outside⟩, word "T"⟩,
    ⟨[], .pub, ⟨"y", .outside⟩, word "u8"⟩], true⟩
  let s : StructItem := {
    attributes := [stored "derive" "Debug"]
    visibility := .pub
    keyword := ⟨"struct", .outside⟩
    name := ⟨"Pair", .outside⟩
    generics := ⟨true, params, some ⟨.empty⟩⟩
    fields := fields }
  have hwhole : Whole item := by decide +kernel
  have hread : readItem item = .ok (.struct s) := by
    obtain ⟨e, hread, htest⟩ := @readItem_of_any_struct item (· = s) (by decide +kernel)
    rw [hread, of_decide_eq_true htest]
  have hstable : s.Stable := by
    constructor
    case attributes =>
      intro a ha
      obtain rfl := List.mem_singleton.1 ha
      exact @Attribute.readsBack_of_word "derive" (by decide) (word "Debug") rfl _ _ _ _
    case params =>
      intro p hp
      have hp : p ∈ params.items := hp
      obtain rfl | rfl : p = ⟨[], .type (word "T") true .empty none⟩
          ∨ p = ⟨[], .lifetime lifetime false .empty⟩ := by simpa [params] using hp
      · exact ⟨by simp, by simp [Listed.empty]⟩
      · exact ⟨by simp, trivial⟩
    case condition =>
      intro p hp
      simp [s, Parser.predicates, Listed.empty] at hp
    case fields =>
      have htype {name : String} (hname : (name == "_") = false) {type : String}
          (hfree : isReserved type = false) : ReadsBack
            (Parser.fieldType phrases (name == "_")) id EndsParameter (word type) := by
        rw [hname]
        intro rest hrest
        exact Parser.Reads.ahead (Parser.Reads.ite_neg (by simp)
          (Parser.typeReadsBack_word hfree .outside rest hrest))
      intro f hf
      obtain rfl | rfl : f = ⟨[stored "cfg" "test"], .inherited, ⟨"x", .outside⟩, word "T"⟩
          ∨ f = ⟨[], .pub, ⟨"y", .outside⟩, word "u8"⟩ := by simpa using hf
      · refine ⟨?_, htype rfl (by decide)⟩
        intro a ha
        obtain rfl := List.mem_singleton.1 ha
        exact @Attribute.readsBack_of_word "cfg" (by decide) (word "test") rfl _ _ _ _
      · exact ⟨by simp, htype rfl (by decide)⟩
  have hchanged : lexemes (expandAttribute [] item).kept ≠ lexemes item := by decide +kernel
  exact ⟨s, hwhole, hread, hstable, hchanged, expandAttribute_reemitted hwhole hread hstable⟩

end Memberwise
