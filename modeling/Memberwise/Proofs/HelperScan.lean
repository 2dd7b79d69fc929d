import Memberwise.Proofs.Interface
import Memberwise.Proofs.Members

/-!
# The helper attribute among others

The arguments of a derive stand in one of the attributes of the item, which may be anywhere among
them. All others are passed over. The first helper attribute is looked into before a second is
complained of, and what is in the second is of no interest.

## Main definitions

* `Attribute.Reaches`: from where to where an attribute stands

## Main statements

* `ofRest_some`, `ofRest_none`: what is read of the helper attributes, with one before and without
* `reaches_outerAttribute`: an attribute that is read is placed from its sign to its closing bracket
* `helper_scan`: what a list of attributes says
-/

namespace Memberwise

/-- Something that is placed at `span` stands in `ts`: a sign and a group in square brackets. It is
placed from the sign to the closing bracket. -/
def Attribute.Reaches (ts : List Token) (span : Span) : Prop :=
  ∃ spacing mark first inside last,
    ts = ⟨.punct '#' spacing, mark⟩ ::
        (⟨.opening .bracket, first⟩ :: inside ++ [⟨.closing .bracket, last⟩])
      ∧ Whole inside ∧ span = mark.join last

/-- A path of one word is that word, at some place. -/
theorem Attribute.isNamed_iff {name : String} {a : Attribute} :
    a.isNamed name = true ↔ ∃ span, a.path = [⟨.ident name, span⟩] := by
  rw [isNamed, beq_iff_eq, lexemes, List.map_eq_singleton_iff]
  constructor
  · rintro ⟨⟨l, span⟩, hpath, rfl⟩
    exact ⟨span, hpath⟩
  · rintro ⟨span, hpath⟩
    exact ⟨_, hpath, rfl⟩

/-! ## Attributes in the source -/

namespace Parser

variable {ts rest : List Token}

/-- A sign of one character is one token. -/
theorem Finds.mark {text : String} {char : Char} {us : List Token} (htext : text.toList = [char])
    (h : Finds (operator text) ts rest us) :
    ∃ spacing span, ts = [⟨.punct char spacing, span⟩] := by
  obtain ⟨limit, hread⟩ := h.read
  obtain ⟨spacing, span, after, htokens, -, hafter⟩ := (operator_single_eq_ok htext).1 hread
  obtain rfl : rest = after := (Cursor.mk.inj hafter).1
  exact ⟨spacing, span, (List.append_left_inj rest).1 htokens⟩

/-- An attribute is a sign, and then its path and its contents in square brackets. -/
theorem finds_outerAttribute {a : Attribute} (h : Finds (outerAttribute phrases) ts rest a) :
    ∃ spacing mark us opening closing, ts = ⟨.punct '#' spacing, mark⟩ :: us
      ∧ a = ⟨false, a.path, a.content, mark.join closing.span⟩
      ∧ Finds (bracketed .bracket do
          let path ← if isWord "unsafe" (← ahead) then take 1 else modPath
          return (path, ← attributeContent phrases)) us rest
          (opening, (a.path, a.content), closing) := by
  obtain ⟨limit, hread⟩ := h.read
  have hafter : Finds (do
      let _ ← operator "#"
      attributeBody phrases false (Cursor.span ⟨ts ++ rest, none, limit⟩)) ts rest a :=
    ⟨h.whole, h.closed, limit, hread⟩
  obtain ⟨_, hash, us, rfl, hhash, hbody⟩ := hafter.bind
  obtain ⟨spacing, mark, rfl⟩ := hhash.mark (show "#".toList = ['#'] from rfl)
  obtain ⟨opening, ⟨path, content⟩, closing, us, vs, rfl, hbracketed, hlast⟩ := hbody.bind_triple
  obtain ⟨rfl, rfl⟩ := hlast.pure
  exact ⟨spacing, mark, us, opening, closing, by simp, rfl, by simpa using hbracketed⟩

/-- An attribute that is read is placed from its sign to its closing bracket. -/
theorem reaches_outerAttribute {a : Attribute} (h : Finds (outerAttribute phrases) ts rest a) :
    Attribute.Reaches ts a.span := by
  obtain ⟨spacing, mark, us, opening, closing, rfl, ha, hbracketed⟩ := finds_outerAttribute h
  obtain ⟨first, last, us, _, rfl, hr, hinside⟩ := hbracketed.bracketed
  cases hr
  refine ⟨spacing, mark, first, us, last, rfl, hinside.whole, ?_⟩
  rw [ha]

end Parser

/-- The attributes of a definition that is read stand in front of it, one after the other. -/
theorem attributes_stand {item : List Token} {d : Definition} (hwhole : Whole item)
    (h : readDefinition item = .ok d) :
    ∃ parts rest, item = parts.flatten ++ rest
      ∧ List.Forall₂ (fun ts (a : Attribute) => a.Stands ts ∧ Attribute.Reaches ts a.span)
        parts d.attributes := by
  obtain ⟨attributes, as, rest, rfl, hattributes, hdefinition⟩ :=
    (Parser.Finds.of_parseAll hwhole h).bind
  obtain ⟨limit, hread⟩ := hdefinition.read
  rw [Parser.attributes_of_definition hread]
  obtain ⟨parts, rfl, hparts⟩ := hattributes.repeatUntil
  exact ⟨parts, rest, rfl, hparts.imp fun _ _ ⟨_, ha⟩ =>
    ⟨Parser.stands_attribute ha, Parser.reaches_outerAttribute ha⟩⟩

/-! ## The scan -/

namespace Arguments

/-- After a helper attribute there must be no other. -/
theorem ofRest_some (found : Arguments) (as : List Attribute) :
    ofRest (some found) as = match as.filter (·.isNamed helper) with
      | [] => .ok found
      | b :: _ => .error (.present (.repeatedHelper helper) b.span) := by
  induction as with
  | nil => rfl
  | cons a as ih =>
    by_cases h : a.isNamed helper
    · simp only [ofRest, h, if_true, List.filter_cons_of_pos h]
      rfl
    · simp only [ofRest, h, List.filter_cons_of_neg h]
      exact ih

/-- The first helper attribute is looked into, and then the others. -/
theorem ofRest_none (as : List Attribute) :
    ofRest none as = match as.filter (·.isNamed helper) with
      | [] => .ok {}
      | a :: rest => (do ofRest (some (← ofAttribute a)) rest) := by
  rw [ofRest_filter]
  cases hfilter : as.filter (·.isNamed helper) with
  | nil => rfl
  | cons a rest =>
    have ha : a.isNamed helper = true :=
      (List.mem_filter.1 (hfilter ▸ List.mem_cons_self : a ∈ as.filter _)).2
    simp only [ofRest, ha, if_true]

/-- What is said by the only helper attribute. -/
theorem ofAttributes_single {as : List Attribute} {a : Attribute}
    (h : as.filter (·.isNamed helper) = [a]) : ofAttributes as = ofAttribute a := by
  rw [ofAttributes, ofRest_none, h]
  simp only
  cases ofAttribute a <;> rfl

/-- What is said by several helper attributes: the first may be wrong, and the second is. -/
theorem ofAttributes_several {as rest : List Attribute} {a b : Attribute}
    (h : as.filter (·.isNamed helper) = a :: b :: rest) :
    ofAttributes as = (do
      let _ ← ofAttribute a
      .error (.present (.repeatedHelper helper) b.span)) := by
  have hb : b.isNamed helper = true :=
    (List.mem_filter.1 (h ▸ by simp : b ∈ as.filter (·.isNamed helper))).2
  rw [ofAttributes, ofRest_none, h]
  have hfilter : (b :: rest).filter (·.isNamed helper) = b :: rest.filter (·.isNamed helper) :=
    List.filter_cons_of_pos hb
  simp only [ofRest_some, hfilter]

end Arguments

open Arguments in
/-- What a list of attributes says depends on the helper attributes in it, which are those whose path
is the one word. Without any there are no arguments. A single one says what is in its brackets, of
whatever kind, nothing if it has none, and it must not have a value. Of several the first may be
wrong, for whatever reason there is if it is alone; otherwise the second is one too many, all of it,
from its sign to its closing bracket, whatever is in it and in the others. -/
theorem helper_scan (as : List Attribute) :
    (∀ a : Attribute, a.isNamed helper = true ↔ ∃ span, a.path = [⟨.ident "init", span⟩])
      ∧ (∀ bs : List Attribute,
        bs.filter (·.isNamed helper) = as.filter (·.isNamed helper) →
          ofAttributes bs = ofAttributes as)
      ∧ (as.filter (·.isNamed helper) = [] → ofAttributes as = .ok {})
      ∧ (∀ a, as.filter (·.isNamed helper) = [a] →
        (a.content = .bare → ofAttributes as = .ok {})
          ∧ (∀ opening content closing, a.content = .arguments opening content closing →
            ofAttributes as = parseAll Parser.arguments content closing.span)
          ∧ ∀ equals value, a.content = .value equals value →
            ∃ e, ofAttributes as = .error e ∧ e.message = "expected parentheses: #[init(...)]"
              ∧ e.span = equals)
      ∧ (∀ a b rest, as.filter (·.isNamed helper) = a :: b :: rest →
        (∀ e, ofAttributes [a] = .error e → ofAttributes as = .error e)
          ∧ ∀ found, ofAttributes [a] = .ok found →
            ∃ e, ofAttributes as = .error e ∧ e.message = "Duplicate #[init] attribute"
              ∧ e.span = b.span)
      ∧ ∀ item d, Whole item → readDefinition item = .ok d →
        ∃ parts rest, item = parts.flatten ++ rest
          ∧ List.Forall₂ (fun ts (a : Attribute) => a.Stands ts ∧ Attribute.Reaches ts a.span)
            parts d.attributes := by
  refine ⟨fun a => Attribute.isNamed_iff, fun bs h => ?_, fun h => ?_, fun a h => ⟨?_, ?_, ?_⟩,
    fun a b rest h => ?_, fun item d => attributes_stand⟩
  · rw [ofAttributes, ofAttributes, ofRest_filter, h, ← ofRest_filter]
  · rw [ofAttributes, ofRest_none, h]
  · intro hcontent
    rw [ofAttributes_single h, ofAttribute, hcontent]
    rfl
  · intro opening content closing hcontent
    rw [ofAttributes_single h, ofAttribute, hcontent]
  · intro equals value hcontent
    refine ⟨.present (.helperValue helper) equals, ?_, rfl, rfl⟩
    rw [ofAttributes_single h, ofAttribute, hcontent]
    rfl
  · have ha : a.isNamed helper = true :=
      (List.mem_filter.1 (h ▸ by simp : a ∈ as.filter (·.isNamed helper))).2
    rw [ofAttributes_single (by simp [ha] : [a].filter (·.isNamed helper) = [a]),
      ofAttributes_several h]
    constructor
    · intro e he
      rw [he]
      rfl
    · intro found hfound
      refine ⟨.present (.repeatedHelper helper) b.span, ?_, rfl, rfl⟩
      rw [hfound]
      rfl

/-- For `#[derive(Debug)] #[init] #[a::init(3)] #[init(3)]`: the bare attribute counts as the first, so
the last is one too many, and what is in it is not looked at. -/
theorem helper_scan_bare_first :
    let content (us : List Token) : Attribute.Content :=
      .arguments ⟨.opening .parenthesis, .outside⟩ us ⟨.closing .parenthesis, .outside⟩
    let place (column : Nat) : Span := ⟨⟨1, column⟩, ⟨1, column + 7⟩⟩
    let bare : Attribute := ⟨false, Generated.word "init", .bare, place 17⟩
    let number : List Token := [⟨.literal "3", .outside⟩]
    let last : Attribute := ⟨false, Generated.word "init", content number, place 41⟩
    let as : List Attribute := [⟨false, Generated.word "derive", content (Generated.word "Debug"),
      place 0⟩, bare, ⟨false, Generated.word "a" ++ Generated.operator "::" ++ Generated.word "init",
      content number, place 25⟩, last]
    as.filter (·.isNamed Arguments.helper) = [bare, last]
      ∧ (∃ e, Arguments.ofAttributes [last] = .error e)
      ∧ ∃ e, Arguments.ofAttributes as = .error e ∧ e.message = "Duplicate #[init] attribute"
        ∧ e.span = place 41 := by
  intro content place bare number last as
  have hfilter : as.filter (·.isNamed Arguments.helper) = [bare, last] := by decide
  have hbare : Arguments.ofAttributes [bare] = .ok {} := rfl
  have hlast : ∃ e, Arguments.ofAttributes [last] = .error e := ⟨_, rfl⟩
  exact ⟨hfilter, hlast, ((helper_scan as).2.2.2.2.1 bare last [] hfilter).2 {} hbare⟩

end Memberwise
