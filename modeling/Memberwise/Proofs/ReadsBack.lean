import Memberwise.Declaration
import Memberwise.Proofs.Lookahead
import Memberwise.Proofs.Reads

/-!
# Headers that read back

The parameters and the where clause of a declaration are written in front of an implementation of
it. There they are read again as what they were, if the attributes, types and bounds in them are, each
in front of what may follow it in its place.

## Main definitions

* `ReadsBack`: tokens that are read again as what they were
* `GenericParam.Named`, `Predicate.Named`: names that can be read
* `GenericParam.ReadsBack`: the phrases in a parameter are read again, its default aside
* `GenericParam.Stable`, `Predicate.Stable`: so are all of a parameter and those of a predicate
* `Predicate.ReadsBefore`: a predicate is read again as a whole
* `GenericParam.SameAs`: a parameter that was read again is what it was

## Main statements

* `reads_outerAttributes`: attributes in front of something
* `reads_declaredParam`, `reads_implGenerics`: parameters, with and without their defaults
* `reads_whereTokens`: the where clause
-/

namespace Memberwise

/-! ## Phrases in their places -/

/-- In front of whatever `follows` allows, the tokens are read and written again as they are. -/
def ReadsBack {α : Type} (p : Parser α) (write : α → List Token) (follows : List Token → Prop)
    (ts : List Token) : Prop :=
  ∀ rest, follows rest → Parser.Reads p ts rest fun a => lexemes (write a) = lexemes ts

/-- The type is read again, in front of what `follows` allows. -/
def TypeReadsBack (follows : List Token → Prop) (ts : List Token) : Prop :=
  ReadsBack (phrases.tokens (.type true)) id follows ts

/-- The bound is read again, in front of a plus sign and of what `follows` allows. -/
def BoundReadsBack (follows : List Token → Prop) (ts : List Token) : Prop :=
  ReadsBack (phrases.tokens (.bound false true)) id (fun rest => isOp "+" rest = true ∨ follows rest) ts

/-- The attribute is read again. -/
def Attribute.ReadsBack (a : Attribute) : Prop :=
  Memberwise.ReadsBack (Parser.outerAttribute phrases) Attribute.tokens (fun _ => True) a.tokens

namespace Parser

/-- A type or a bound that is read does not begin where a phrase ends. -/
theorem endsPhrase_of_reads {phrase : Phrase} {ts rest : List Token} {Q : List Token → Prop}
    (hphrase : (∃ plus, phrase = .type plus) ∨ ∃ capture const, phrase = .bound capture const)
    (h : Reads (phrases.tokens phrase) ts rest Q) : endsPhrase (ts ++ rest) = false := by
  by_contra hends
  rw [Bool.not_eq_false] at hends
  obtain ⟨a, hread, -⟩ := h none .outside
  obtain ⟨f, d, hread, -⟩ := bind_eq_ok.1 hread
  rw [phrases_eq] at hread
  obtain ⟨plus, rfl⟩ | ⟨capture, const, rfl⟩ := hphrase <;> simp only [Phrases.body] at hread
  · exact type_ne_ok (c := ⟨ts ++ rest, none, .outside⟩) hends _ hread
  · exact bound_ne_ok (c := ⟨ts ++ rest, none, .outside⟩) hends _ hread

end Parser

theorem TypeReadsBack.endsPhrase_eq {follows : List Token → Prop} {ts rest : List Token}
    (h : TypeReadsBack follows ts) (hrest : follows rest) :
    Parser.endsPhrase (ts ++ rest) = false :=
  Parser.endsPhrase_of_reads (.inl ⟨_, rfl⟩) (h rest hrest)

/-- A type that is read again begins neither like an attribute nor like a visibility. -/
theorem TypeReadsBack.begins {follows : List Token → Prop} {ts rest : List Token}
    (h : TypeReadsBack follows ts) (hrest : follows rest) :
    isOp "#" (ts ++ rest) = false ∧ isWord "pub" (ts ++ rest) = false := by
  have hread (hbegins : isOp "#" (ts ++ rest) = true ∨ isWord "pub" (ts ++ rest) = true) : False := by
    obtain ⟨a, hread, -⟩ := h rest hrest none .outside
    obtain ⟨f, d, hread, -⟩ := Parser.bind_eq_ok.1 hread
    rw [phrases_eq] at hread
    exact Parser.type_marked_ne_ok (c := ⟨ts ++ rest, none, .outside⟩) hbegins _ hread
  constructor
  · by_contra hmark
    exact hread (.inl (by simpa using hmark))
  · by_contra hpub
    exact hread (.inr (by simpa using hpub))

theorem BoundReadsBack.endsPhrase_eq {follows : List Token → Prop} {ts rest : List Token}
    (h : BoundReadsBack follows ts) (hrest : isOp "+" rest = true ∨ follows rest) :
    Parser.endsPhrase (ts ++ rest) = false :=
  Parser.endsPhrase_of_reads (.inr ⟨_, _, rfl⟩) (h rest hrest)

theorem TypeReadsBack.ne_nil {follows : List Token → Prop} {ts rest : List Token}
    (h : TypeReadsBack follows ts) (hrest : follows rest) (hends : Parser.endsPhrase rest = true) :
    ts ≠ [] := by
  rintro rfl
  have hbegins := h.endsPhrase_eq hrest
  rw [List.nil_append, hends] at hbegins
  cases hbegins

theorem BoundReadsBack.ne_nil {follows : List Token → Prop} {ts rest : List Token}
    (h : BoundReadsBack follows ts) (hrest : follows rest) (hends : Parser.endsPhrase rest = true) :
    ts ≠ [] := by
  rintro rfl
  have hbegins := h.endsPhrase_eq (.inr hrest)
  rw [List.nil_append, hends] at hbegins
  cases hbegins

/-! ## Attributes -/

theorem lexemes_listTokens {as bs : List Attribute}
    (h : as.map (fun a => lexemes a.tokens) = bs.map fun b => lexemes b.tokens) :
    lexemes (Attribute.listTokens as) = lexemes (Attribute.listTokens bs) := by
  have hflatten (as : List Attribute) :
      lexemes (Attribute.listTokens as) = (as.map fun a => lexemes a.tokens).flatten := by
    induction as with
    | nil => rfl
    | cons a as ih => simpa [Attribute.listTokens] using ih
  rw [hflatten, hflatten, h]

namespace Parser

section Attributes

variable {ph : Phrases} {ts rest : List Token}

/-- A word that does not go on as a path is a path. -/
theorem reads_modPath_word {word : String} (hword : ∀ us span, isPathWord (⟨.ident word, span⟩ :: us))
    (hrest : isOp "::" rest = false) (span : Span) :
    Reads modPath [⟨.ident word, span⟩] rest (· = [⟨.ident word, span⟩]) := by
  refine Reads.bind_nil (reads_operator?_none rfl) ?_
  rintro _ rfl
  refine Reads.bind_pure (Q := (· = [⟨.ident word, span⟩])) (Reads.loop_done ?_) (by simp)
  refine Reads.ahead (Reads.ite_pos (hword _ _) ?_)
  refine (Reads.take [⟨.ident word, span⟩] rest).bind_last ?_
  rintro _ rfl
  refine Reads.ahead (Reads.ite_neg (by simp [hrest]) ?_)
  exact Reads.pure ⟨_, rfl, rfl⟩

/-- A group of whole trees is read as it is. -/
theorem reads_anyGroup (h : Whole ts) (d : Delimiter) (first last : Span) :
    Reads anyGroup (⟨.opening d, first⟩ :: ts ++ [⟨.closing d, last⟩]) rest
      (· = ⟨.opening d, first⟩ :: ts ++ [⟨.closing d, last⟩]) := by
  refine Reads.ahead (Reads.ite_pos (by cases d <;> rfl) ?_)
  rw [List.append_assoc, List.singleton_append, splitTree_group h d first last rest]
  exact Reads.take _ _

/-- The contents of an attribute in brackets are kept as they are. -/
theorem reads_attributeContent (h : Whole ts) (d : Delimiter) (first last : Span) :
    Reads (attributeContent ph) (⟨.opening d, first⟩ :: ts ++ [⟨.closing d, last⟩]) rest
      (· = .arguments ⟨.opening d, first⟩ ts ⟨.closing d, last⟩) := by
  refine Reads.ahead (Reads.ite_pos (by cases d <;> rfl) ?_)
  refine (reads_anyGroup h d first last).bind_last ?_
  rintro _ rfl
  exact Reads.pure (by simp)

/-- An attribute without contents ends after its path. -/
theorem reads_attributeContent_bare (stop : Span) :
    Reads (attributeContent ph) [] (⟨.closing .bracket, stop⟩ :: rest) (· = .bare) :=
  Reads.ahead (Reads.ite_neg (by simp [isParen, isBracket, isBrace, Terminal.starts])
    (Reads.ite_neg (by simp) (Reads.pure rfl)))

/-- An operator of one character is read however it is spaced. -/
theorem reads_mark {text : String} {char : Char} (htext : text.toList = [char]) (spacing : Spacing)
    (span : Span) : Reads (operator text) [⟨.punct char spacing, span⟩] rest fun _ => True := by
  intro left limit
  have hlength : text.length = 1 := by
    rw [← String.length_toList, htext]
    rfl
  have hop : isOp text ([⟨.punct char spacing, span⟩] ++ rest) = true := by
    simp [isOp, Terminal.starts, htext, operatorStarts]
  refine ⟨respaced text [⟨.punct char spacing, span⟩], ?_, trivial⟩
  rw [operator_apply, if_pos hop, hlength]
  rfl

/-- An attribute that is a word with contents is read as it is. -/
theorem reads_wordAttribute_of {word : String} {content : Attribute.Content} {spacing : Spacing}
    (hfree : isReserved word = false) (mark start span stop : Span)
    (hends : isOp "::" (ts ++ ⟨.closing .bracket, stop⟩ :: rest) = false)
    (hcontent : Reads (attributeContent ph) ts (⟨.closing .bracket, stop⟩ :: rest) (· = content)) :
    Reads (outerAttribute ph) (⟨.punct '#' spacing, mark⟩ :: (⟨.opening .bracket, start⟩ ::
      (⟨.ident word, span⟩ :: ts) ++ [⟨.closing .bracket, stop⟩])) rest fun a =>
      a.inner = false ∧ a.path = [⟨.ident word, span⟩] ∧ a.content = content := by
  have hpath (us : List Token) (span : Span) : isPathWord (⟨.ident word, span⟩ :: us) = true := by
    simp [isPathWord, hfree]
  refine Reads.here fun place => ?_
  refine Reads.bind_cons (reads_mark rfl spacing mark) fun _ _ => ?_
  refine Reads.bind_pure (Reads.bracketed (Q := (· = ([⟨.ident word, span⟩], content))) ?_) ?_
  · refine Reads.ahead (Reads.ite_neg ?_ ?_)
    · exact Bool.eq_false_iff.1 (isWord_unreserved hfree (by decide) _ _)
    refine Reads.bind_cons (reads_modPath_word hpath hends span) ?_
    rintro _ rfl
    exact hcontent.bind_pure (by rintro _ rfl; rfl)
  · rintro ⟨_, _, _⟩ ⟨_, rfl, _⟩
    exact ⟨rfl, rfl, rfl⟩

/-- An attribute that is a word with arguments in brackets is read as it is. -/
theorem reads_wordAttribute {word : String} {spacing : Spacing} (hfree : isReserved word = false)
    (h : Whole ts) (d : Delimiter) (mark start span first last stop : Span) :
    Reads (outerAttribute ph) (⟨.punct '#' spacing, mark⟩ :: (⟨.opening .bracket, start⟩ ::
      (⟨.ident word, span⟩ :: (⟨.opening d, first⟩ :: ts ++ [⟨.closing d, last⟩]))
      ++ [⟨.closing .bracket, stop⟩])) rest fun a =>
      a.inner = false ∧ a.path = [⟨.ident word, span⟩] ∧ a.content
        = .arguments ⟨.opening d, first⟩ ts ⟨.closing d, last⟩ :=
  reads_wordAttribute_of hfree mark start span stop (isOp_opening _ _ _ _)
    (reads_attributeContent h d first last)

end Attributes

end Parser

/-- An attribute that is a word with arguments in parentheses is read again. -/
theorem Attribute.readsBack_of_word {word : String} (hfree : isReserved word = false)
    {ts : List Token} (h : Whole ts) (span first last place : Span) :
    Attribute.ReadsBack ⟨false, [⟨.ident word, span⟩],
      .arguments ⟨.opening .parenthesis, first⟩ ts ⟨.closing .parenthesis, last⟩, place⟩ := by
  intro rest _
  refine (@Parser.reads_wordAttribute phrases ts rest word .alone hfree h .parenthesis .outside .outside span
    first last .outside).mono fun a ha => ?_
  obtain ⟨hinner, hpath, hcontent⟩ := ha
  rw [tokens, tokens, hinner, hpath, hcontent]

namespace Parser

/-- Attributes are read in front of whatever begins in another way. -/
theorem reads_outerAttributes {as : List Attribute} (h : ∀ a ∈ as, a.ReadsBack)
    {rest : List Token} (hrest : isOp "#" rest = false) :
    Reads (outerAttributes phrases) (Attribute.listTokens as) rest
      fun bs => bs.map (fun b => lexemes b.tokens) = as.map fun a => lexemes a.tokens := by
  have hread : Reads (repeatUntil (!isOp "#" ·) (outerAttribute phrases))
      (as.map Attribute.tokens).flatten rest fun bs =>
        List.Forall₂ (fun ts b => lexemes b.tokens = lexemes ts) (as.map Attribute.tokens) bs := by
    refine reads_repeatUntil (by simp [hrest]) fun ts hts => ?_
    obtain ⟨a, ha, rfl⟩ := List.mem_map.1 hts
    exact ⟨List.cons_ne_nil _ _, fun us => ⟨rfl, h a ha us trivial⟩⟩
  rw [Attribute.listTokens, List.flatMap_def]
  refine hread.mono fun bs hbs => ?_
  have hequal : List.Forall₂ Eq (as.map fun a => lexemes a.tokens)
      (bs.map fun b => lexemes b.tokens) := by
    simpa only [List.forall₂_map_left_iff, List.forall₂_map_right_iff, eq_comm] using hbs
  rw [List.forall₂_eq_eq_eq] at hequal
  exact hequal.symm

end Parser

/-! ## Parameters -/

/-- A word that is not reserved. -/
def IsName (ts : List Token) : Prop :=
  ∃ word span, isReserved word = false ∧ ts = [⟨.ident word, span⟩]

/-- A word after its mark. -/
def IsLifetime (ts : List Token) : Prop :=
  ∃ mark word span, ts = [⟨.punct '\x27' .joint, mark⟩, ⟨.ident word, span⟩]

/-- The parameter has a name, which may be an underscore if nothing else belongs to it. -/
def GenericParam.Named (p : GenericParam) : Prop :=
  match p.sort with
  | .lifetime name _ bounds => IsLifetime name ∧ ∀ b ∈ bounds.items, IsLifetime b
  | .type name _ bounds default =>
    IsName name ∨ (∃ span, name = [⟨.ident "_", span⟩]) ∧ bounds = .empty ∧ default = none
  | .const name _ _ => IsName name

/-- The parameter is an underscore, without attributes. -/
def GenericParam.isBare (p : GenericParam) : Bool :=
  p.attributes.isEmpty && lexemes p.name == [.ident "_"]

/-- The attributes, the bounds and the type of the parameter are read again. -/
def GenericParam.ReadsBack (p : GenericParam) : Prop :=
  (∀ a ∈ p.attributes, a.ReadsBack) ∧
    match p.sort with
    | .lifetime .. => True
    | .type _ _ bounds _ => ∀ b ∈ bounds.items, BoundReadsBack (Parser.endsArgument · = true) b
    | .const _ type _ => TypeReadsBack (Parser.endsArgument · = true) type

/-- What follows the bounds or the type of a parameter: its default, or what ends the parameter. -/
def FollowsPart (default : Option (List Token)) (ts : List Token) : Prop :=
  ∃ us, ts = GenericParam.defaultTokens default ++ us ∧ Parser.endsArgument us = true

/-- The attributes, the bounds, the type and the default of the parameter are read again, each in
its place in the parameter. -/
def GenericParam.Stable (p : GenericParam) : Prop :=
  (∀ a ∈ p.attributes, a.ReadsBack) ∧
    match p.sort with
    | .lifetime .. => True
    | .type _ _ bounds default =>
      (∀ b ∈ bounds.items, BoundReadsBack (FollowsPart default) b)
        ∧ ∀ value ∈ default, TypeReadsBack (Parser.endsArgument · = true) value
    | .const _ type default =>
      TypeReadsBack (FollowsPart default) type
        ∧ ∀ value ∈ default,
          Memberwise.ReadsBack (Parser.constArgument phrases) id (Parser.endsArgument · = true) value

/-- The parameter is the other one, in all that is written of it. -/
structure GenericParam.SameAs (q p : GenericParam) : Prop where
  isLifetime : q.isLifetime = p.isLifetime
  name : lexemes q.name = lexemes p.name
  tokens : lexemes q.tokens = lexemes p.tokens
  withoutDefault : lexemes q.withoutDefault.tokens = lexemes p.withoutDefault.tokens

/-- So it is, whatever attributes both of them have. -/
def GenericParam.Sort.SameAs (s t : GenericParam.Sort) : Prop :=
  ∀ {as bs : List Attribute}, as.map (fun a => lexemes a.tokens) = bs.map (fun b => lexemes b.tokens) →
    GenericParam.SameAs ⟨as, s⟩ ⟨bs, t⟩

theorem followsPart_none : FollowsPart none = (Parser.endsArgument · = true) := by
  funext ts
  simp [FollowsPart, GenericParam.defaultTokens]

/-- Without its default, the parameter is read again if its other parts are. -/
theorem GenericParam.ReadsBack.withoutDefault {p : GenericParam} (h : p.ReadsBack) :
    p.withoutDefault.Stable := by
  obtain ⟨attributes, sort⟩ := p
  obtain ⟨hattributes, hsort⟩ := h
  refine ⟨hattributes, ?_⟩
  cases sort with
  | lifetime name colon bounds => trivial
  | type name colon bounds default =>
    refine ⟨fun b hb => ?_, by simp⟩
    rw [followsPart_none]
    exact hsort b hb
  | const name type default =>
    refine ⟨?_, by simp⟩
    rw [followsPart_none]
    exact hsort

theorem GenericParam.Named.withoutDefault {p : GenericParam} (h : p.Named) :
    p.withoutDefault.Named := by
  obtain ⟨attributes, sort⟩ := p
  cases sort with
  | lifetime name colon bounds => exact h
  | type name colon bounds default => exact h.imp_right fun h => ⟨h.1, h.2.1, rfl⟩
  | const name type default => exact h

namespace Parser

variable {rest : List Token}

theorem endsPhrase_of_endsArgument (h : endsArgument rest = true) : endsPhrase rest = true := by
  obtain h | h : isOp "," rest = true ∨ isOp ">" rest = true := by simpa [endsArgument] using h
  · simp [endsPhrase, h]
  · simp [endsPhrase, h]

/-- A comma or a closing bracket is no other operator. -/
theorem isOp_of_endsArgument (h : endsArgument rest = true) {text : String}
    (htext : text ∈ [":", "=", "+"]) : isOp text rest = false := by
  simp only [List.mem_cons, List.not_mem_nil, or_false] at htext
  cases rest with
  | nil => obtain rfl | rfl | rfl := htext <;> rfl
  | cons t us =>
    obtain ⟨l, span⟩ := t
    cases l with
    | punct c spacing =>
      have hc : ',' = c ∨ '>' = c := by
        simpa [endsArgument, isOp, Terminal.starts, operatorStarts] using h
      obtain rfl | rfl := hc <;> obtain rfl | rfl | rfl := htext <;> rfl
    | ident | literal | opening | closing => obtain rfl | rfl | rfl := htext <;> rfl

theorem endsParam_of_endsArgument (h : endsArgument rest = true) : endsParam rest = true := by
  simp [endsParam, h]

theorem not_endsParam_of_endsPhrase (h : endsPhrase rest = false) :
    (endsParam rest || isOp "=" rest) = false := by
  simp only [endsPhrase, Bool.or_eq_false_iff] at h
  simp [endsParam, endsArgument, h]

/-- Bounds are read after their colon. -/
theorem reads_bounds {stop : List Token → Bool} {item : Parser (List Token)}
    {bounds : Listed (List Token)} (hstop : stop rest = true) (hplus : isOp "+" rest = false)
    (follows : List Token → Prop) (hsep : ∀ us, follows (Generated.operator "+" ++ us))
    (hrest : follows rest)
    (hitem : ∀ b ∈ bounds.items, b ≠ [] ∧ ∀ us, follows us → stop (b ++ us) = false
      ∧ Reads item b us fun a => lexemes a = lexemes b) :
    Reads (Parser.bounds stop item) (bounds.tokens (Generated.operator "+") id) rest
      fun l => SameItems id l id bounds := by
  rw [Parser.bounds, joined_eq]
  exact reads_listed follows (by decide) hstop (by simp [hplus]) (fun _ => rfl) hsep hrest hitem

theorem lexemes_boundTokens {l bounds : Listed (List Token)} (h : SameItems id l id bounds) :
    lexemes (GenericParam.boundTokens l) = lexemes (GenericParam.boundTokens bounds) := by
  rw [GenericParam.boundTokens, GenericParam.boundTokens, h.isEmpty_eq]
  split
  · rfl
  · rw [lexemes_append, lexemes_append, h.lexemes_tokens]

theorem lexemes_boundTokens_empty {bounds : Listed (List Token)} (h : bounds.isEmpty = true) :
    lexemes (GenericParam.boundTokens bounds) = lexemes (GenericParam.boundTokens .empty) := by
  rw [GenericParam.boundTokens, if_pos h]
  rfl

/-- Lifetimes with the same bounds. -/
theorem sameAs_lifetime {name : List Token} {colon colon' : Bool} {bounds bounds' : Listed (List Token)}
    (hbounds : lexemes (GenericParam.boundTokens bounds) = lexemes (GenericParam.boundTokens bounds')) :
    GenericParam.Sort.SameAs (.lifetime name colon bounds) (.lifetime name colon' bounds') := by
  intro as bs has
  constructor <;>
    simp [GenericParam.isLifetime, GenericParam.name, GenericParam.tokens, GenericParam.withoutDefault,
      lexemes_listTokens has, hbounds]

/-- Types with the same bounds and the same default. -/
theorem sameAs_type {name : List Token} {colon colon' : Bool} {bounds bounds' : Listed (List Token)}
    {default default' : Option (List Token)}
    (hbounds : lexemes (GenericParam.boundTokens bounds) = lexemes (GenericParam.boundTokens bounds'))
    (hdefault : lexemes (GenericParam.defaultTokens default)
      = lexemes (GenericParam.defaultTokens default')) :
    GenericParam.Sort.SameAs (.type name colon bounds default) (.type name colon' bounds' default') := by
  intro as bs has
  constructor <;>
    simp [GenericParam.isLifetime, GenericParam.name, GenericParam.tokens, GenericParam.withoutDefault,
      lexemes_listTokens has, hbounds, hdefault]

/-- Constants of the same type and with the same default. -/
theorem sameAs_const {name type type' : List Token} {default default' : Option (List Token)}
    (htype : lexemes type = lexemes type')
    (hdefault : lexemes (GenericParam.defaultTokens default)
      = lexemes (GenericParam.defaultTokens default')) :
    GenericParam.Sort.SameAs (.const name type default) (.const name type' default') := by
  intro as bs has
  constructor <;>
    simp [GenericParam.isLifetime, GenericParam.name, GenericParam.tokens, GenericParam.withoutDefault,
      lexemes_listTokens has, htype, hdefault]

theorem reads_lifetimeParam {name : List Token} {colon : Bool} {bounds : Listed (List Token)}
    (hname : IsLifetime name) (hbounds : ∀ b ∈ bounds.items, IsLifetime b)
    (hrest : endsArgument rest = true) :
    Reads lifetimeParam (name ++ GenericParam.boundTokens bounds) rest
      (·.SameAs (.lifetime name colon bounds)) := by
  obtain ⟨mark, word, span, rfl⟩ := hname
  refine (reads_lifetime word mark span).bind ?_
  rintro _ rfl
  refine Reads.ahead ?_
  by_cases hempty : bounds.isEmpty
  · simp only [GenericParam.boundTokens, hempty, if_true, List.nil_append]
    rw [isOp_of_endsArgument hrest (by simp)]
    exact Reads.pure (sameAs_lifetime (lexemes_boundTokens_empty hempty).symm)
  · simp only [GenericParam.boundTokens, hempty, Bool.false_eq_true, if_false]
    refine Reads.ite_pos rfl ?_
    refine (reads_operator (by decide) rfl).bind fun _ _ => ?_
    refine (reads_bounds (endsParam_of_endsArgument hrest) (isOp_of_endsArgument hrest (by simp))
      (fun _ => True) (fun _ => trivial) trivial fun b hb => ?_).bind_pure fun l hl => ?_
    · obtain ⟨mark, word, span, rfl⟩ := hbounds b hb
      exact ⟨by simp, fun us _ => ⟨rfl, (reads_lifetime word mark span).mono fun a ha => by rw [ha]⟩⟩
    · exact sameAs_lifetime (lexemes_boundTokens hl)

/-- Where the default of a parameter or its end stands, nothing else does. -/
theorem isOp_of_followsPart {default : Option (List Token)} (h : FollowsPart default rest)
    {text : String} (htext : text ∈ [":", "+"]) : isOp text rest = false := by
  obtain ⟨us, rfl, hus⟩ := h
  simp only [List.mem_cons, List.not_mem_nil, or_false] at htext
  cases default with
  | none => exact isOp_of_endsArgument hus (by obtain rfl | rfl := htext <;> decide)
  | some value => obtain rfl | rfl := htext <;> rfl

theorem endsPhrase_of_followsPart {default : Option (List Token)} (h : FollowsPart default rest) :
    endsPhrase rest = true := by
  obtain ⟨us, rfl, hus⟩ := h
  cases default with
  | none => exact endsPhrase_of_endsArgument hus
  | some value => rfl

theorem stops_of_followsPart {default : Option (List Token)} (h : FollowsPart default rest) :
    (endsParam rest || isOp "=" rest) = true := by
  obtain ⟨us, rfl, hus⟩ := h
  cases default with
  | none => simp [GenericParam.defaultTokens, endsParam, hus]
  | some value => simp [GenericParam.defaultTokens, Generated.operator, operatorLexemes, isOp,
      Terminal.starts, operatorStarts]

/-- The default of a type is read, if there is one. -/
theorem reads_default {default : Option (List Token)}
    (hdefault : ∀ value ∈ default, TypeReadsBack (endsArgument · = true) value)
    (hrest : endsArgument rest = true) {sort : Option (List Token) → GenericParam.Sort}
    {Q : GenericParam.Sort → Prop}
    (hQ : ∀ value, lexemes (GenericParam.defaultTokens value)
      = lexemes (GenericParam.defaultTokens default) → Q (sort value)) :
    Reads (do
      let equals ← operator? "="
      if equals.isEmpty then return sort none else return sort (some (← phrases.tokens (.type true))))
      (GenericParam.defaultTokens default) rest Q := by
  cases default with
  | none =>
    refine Reads.bind_nil (reads_operator?_none (isOp_of_endsArgument hrest (by simp))) ?_
    rintro _ rfl
    exact Reads.ite_pos rfl (Reads.pure (hQ none rfl))
  | some value =>
    refine (reads_operator?_some (by decide) rfl).bind fun equals hequals => ?_
    have hequals : equals.isEmpty = false := by
      cases equals with
      | nil => cases hequals
      | cons t us => rfl
    refine Reads.ite_neg (by simp [hequals]) ?_
    refine (hdefault value rfl rest hrest).bind_pure fun a ha => hQ (some a) ?_
    have ha : lexemes a = lexemes value := ha
    simp [GenericParam.defaultTokens, ha]

theorem reads_typeParam {name : List Token} {colon : Bool} {bounds : Listed (List Token)}
    {default : Option (List Token)} (hname : IsName name)
    (hbounds : ∀ b ∈ bounds.items, BoundReadsBack (FollowsPart default) b)
    (hdefault : ∀ value ∈ default, TypeReadsBack (endsArgument · = true) value)
    (hrest : endsArgument rest = true) :
    Reads (typeParam phrases)
      (name ++ (GenericParam.boundTokens bounds ++ GenericParam.defaultTokens default)) rest
      (·.SameAs (.type name colon bounds default)) := by
  have hpart : FollowsPart default (GenericParam.defaultTokens default ++ rest) := ⟨rest, rfl, hrest⟩
  have hplus : isOp "+" (GenericParam.defaultTokens default ++ rest) = false :=
    isOp_of_followsPart hpart (by simp)
  have hcolon : isOp ":" (GenericParam.defaultTokens default ++ rest) = false :=
    isOp_of_followsPart hpart (by simp)
  have hstop := stops_of_followsPart hpart
  obtain ⟨word, span, hword, rfl⟩ := hname
  refine (reads_identifier hword span).bind ?_
  rintro _ rfl
  by_cases hempty : bounds.isEmpty
  · simp only [GenericParam.boundTokens, hempty, if_true, List.nil_append]
    refine Reads.bind_nil (reads_operator?_none hcolon) ?_
    rintro _ rfl
    exact Reads.ite_pos rfl (reads_default hdefault hrest fun value hvalue =>
      sameAs_type (lexemes_boundTokens_empty hempty).symm hvalue)
  · simp only [GenericParam.boundTokens, hempty, Bool.false_eq_true, if_false, List.append_assoc]
    refine (reads_operator?_some (by decide) rfl).bind fun colon hcolon => ?_
    have hcolon : colon.isEmpty = false := by
      cases colon with
      | nil => cases hcolon
      | cons t us => rfl
    refine Reads.ite_neg (by simp [hcolon]) ?_
    refine (reads_bounds hstop hplus (fun us => isOp "+" us = true ∨ FollowsPart default us)
      (fun _ => .inl rfl) (.inr hpart) fun b hb => ?_).bind fun l hl =>
        reads_default hdefault hrest fun value hvalue => sameAs_type (lexemes_boundTokens hl) hvalue
    refine ⟨(hbounds b hb).ne_nil hpart (endsPhrase_of_followsPart hpart), fun us hus =>
      ⟨?_, hbounds b hb us hus⟩⟩
    exact not_endsParam_of_endsPhrase ((hbounds b hb).endsPhrase_eq hus)

theorem reads_constParam {name type : List Token} {default : Option (List Token)} (hname : IsName name)
    (htype : TypeReadsBack (FollowsPart default) type)
    (hdefault : ∀ value ∈ default,
      Memberwise.ReadsBack (constArgument phrases) id (endsArgument · = true) value)
    (hrest : endsArgument rest = true) :
    Reads (constParam phrases)
      (Generated.word "const" ++ name ++ Generated.operator ":" ++ type
        ++ GenericParam.defaultTokens default) rest
      (·.SameAs (.const name type default)) := by
  obtain ⟨word, span, hword, rfl⟩ := hname
  simp only [Generated.word, List.append_assoc]
  refine (reads_keyword "const" .outside).bind fun _ _ => (reads_identifier hword span).bind ?_
  rintro _ rfl
  refine (reads_operator (by decide) rfl).bind fun _ _ => (htype _ ⟨rest, rfl, hrest⟩).bind
    fun a ha => Reads.ahead ?_
  have ha : lexemes a = lexemes type := ha
  cases default with
  | none =>
    have hequals : isOp "=" rest = false := isOp_of_endsArgument hrest (by simp)
    refine Reads.ite_neg (by simp [GenericParam.defaultTokens, hequals]) ?_
    exact Reads.pure (sameAs_const ha rfl)
  | some value =>
    refine Reads.ite_pos rfl ?_
    refine (reads_operator (by decide) rfl).bind fun _ _ => ?_
    refine (hdefault value rfl rest hrest).bind_pure fun b hb => sameAs_const ha ?_
    have hb : lexemes b = lexemes value := hb
    simp [GenericParam.defaultTokens, hb]

/-- A parameter is read again, as what it was. -/
theorem reads_declaredParam {p : GenericParam} (hnamed : p.Named) (hstable : p.Stable)
    (hrest : endsArgument rest = true) :
    Reads (declaredParam phrases) p.tokens rest (·.SameAs p) := by
  obtain ⟨attributes, sort⟩ := p
  obtain ⟨hattributes, hsort⟩ := hstable
  cases sort with
  | lifetime name colon bounds =>
    obtain ⟨hname, hbounds⟩ := hnamed
    have hread := @reads_lifetimeParam rest name colon bounds hname hbounds hrest
    obtain ⟨mark, word, span, rfl⟩ := hname
    refine (reads_outerAttributes hattributes rfl).bind fun as has => Reads.ahead ?_
    refine Reads.ite_pos rfl ?_
    exact hread.bind_pure fun sort hsort => hsort has
  | type name colon bounds default =>
    obtain ⟨hbounds, hdefault⟩ := hsort
    simp only [GenericParam.tokens, List.append_assoc]
    obtain hname | ⟨⟨span, rfl⟩, rfl, rfl⟩ := hnamed
    · have hread := @reads_typeParam rest name colon bounds default hname hbounds hdefault hrest
      obtain ⟨word, span, hword, rfl⟩ := hname
      refine (reads_outerAttributes hattributes rfl).bind fun as has => Reads.ahead ?_
      refine Reads.ite_neg (by rintro ⟨⟩) (Reads.ite_pos (by simp [hword]) ?_)
      exact hread.bind_pure fun sort hsort => hsort has
    · refine (reads_outerAttributes hattributes rfl).bind fun as has => Reads.ahead ?_
      have hreserved : isReserved "_" = true := by decide
      refine Reads.ite_neg (by rintro ⟨⟩) (Reads.ite_neg (by simp [hreserved])
        (Reads.ite_neg (by simp) (Reads.ite_pos rfl ?_)))
      refine (reads_anyWord "_" span).bind_last ?_
      rintro _ rfl
      exact Reads.pure (sameAs_type rfl rfl has)
  | const name type default =>
    obtain ⟨htype, hdefault⟩ := hsort
    refine (reads_outerAttributes hattributes rfl).bind fun as has => Reads.ahead ?_
    have hreserved : isReserved "const" = true := by decide
    refine Reads.ite_neg (by rintro ⟨⟩) (Reads.ite_neg (by simp [Generated.word, hreserved])
      (Reads.ite_pos rfl ?_))
    exact (reads_constParam hnamed htype hdefault hrest).bind_pure fun sort hsort => hsort has

/-- A parameter begins with an attribute, a mark or a word. -/
theorem param_begins {p : GenericParam} (hnamed : p.Named) (rest : List Token) :
    p.tokens ≠ [] ∧ isOp ">" (p.tokens ++ rest) = false := by
  obtain ⟨attributes, sort⟩ := p
  cases attributes with
  | cons a as => exact ⟨List.cons_ne_nil _ _, rfl⟩
  | nil =>
    cases sort with
    | lifetime name colon bounds =>
      obtain ⟨⟨mark, word, span, rfl⟩, -⟩ := hnamed
      exact ⟨List.cons_ne_nil _ _, rfl⟩
    | type name colon bounds default =>
      obtain ⟨word, span, -, rfl⟩ | ⟨⟨span, rfl⟩, -⟩ := hnamed
      · exact ⟨List.cons_ne_nil _ _, rfl⟩
      · exact ⟨List.cons_ne_nil _ _, rfl⟩
    | const name type default => exact ⟨List.cons_ne_nil _ _, rfl⟩

/-- After its name, a parameter goes on with a colon, or the next follows, or the list ends. -/
theorem follows_name (bounds : Listed (List Token)) (hrest : endsArgument rest = true) :
    (isOp ">" (GenericParam.boundTokens bounds ++ rest)
      || isOp "," (GenericParam.boundTokens bounds ++ rest)
      || (isOp ":" (GenericParam.boundTokens bounds ++ rest)
        && !isOp "::" (GenericParam.boundTokens bounds ++ rest))
      || isOp "=" (GenericParam.boundTokens bounds ++ rest)) = true := by
  by_cases hempty : bounds.isEmpty
  · have hend : isOp "," rest = true ∨ isOp ">" rest = true := by simpa [endsArgument] using hrest
    simp only [GenericParam.boundTokens, hempty, if_true, List.nil_append]
    obtain h | h := hend <;> simp [h]
  · simp only [GenericParam.boundTokens, hempty, Bool.false_eq_true, if_false]
    rfl

/-- A name after an opening bracket begins parameters if a colon, a comma or a closing bracket
follows. -/
theorem beginsParams_name {second third : List Token}
    (hsecond : (isLifetime second || isIdent second) = true) (hthird : afterTree second = third)
    (hend : (isOp ">" third || isOp "," third || (isOp ":" third && !isOp "::" third)
      || isOp "=" third) = true) :
    beginsParams (Generated.operator "<" ++ second) = true := by
  have hafter : afterTree (Generated.operator "<" ++ second) = second := rfl
  have hopen : isOp "<" (Generated.operator "<" ++ second) = true := rfl
  simp only [beginsParams, hafter, hopen, hthird, hsecond, hend, Bool.true_and, Bool.or_true,
    Bool.true_or]

/-- The parameters of an implementation are told from a self type, unless the first of them is a
bare underscore. -/
theorem beginsParams_declaredParam {p : GenericParam} (hnamed : p.Named) (hbare : p.isBare = false)
    (hrest : endsArgument rest = true) :
    beginsParams (Generated.operator "<" ++ (p.withoutDefault.tokens ++ rest)) = true := by
  obtain ⟨attributes, sort⟩ := p
  cases attributes with
  | cons a as => rfl
  | nil =>
    cases sort with
    | lifetime name colon bounds =>
      obtain ⟨⟨mark, word, span, rfl⟩, -⟩ := hnamed
      refine beginsParams_name rfl rfl ?_
      exact follows_name bounds hrest
    | type name colon bounds default =>
      obtain ⟨word, span, hword, rfl⟩ | ⟨⟨span, rfl⟩, -⟩ := hnamed
      · refine @beginsParams_name _ (GenericParam.boundTokens bounds ++ rest) ?_ ?_ ?_
        · simp [GenericParam.tokens, GenericParam.withoutDefault, Attribute.listTokens, hword]
        · simp [GenericParam.tokens, GenericParam.withoutDefault, GenericParam.defaultTokens,
            Attribute.listTokens, afterTree, splitTree]
        · exact follows_name bounds hrest
      · cases hbare
    | const name type default => rfl

end Parser

/-! ## Generics -/

/-- A list in angle brackets shows the tokens of its items. -/
theorem lexemes_angled {f g : GenericParam → List Token} {l m : Listed GenericParam}
    (h : Parser.SameItems f l g m) :
    lexemes (Generics.angled f l) = lexemes (Generics.angled g m) := by
  simp only [Generics.angled, h.isEmpty_eq]
  split
  · rfl
  · simp only [lexemes_append, h.lexemes_tokens]

namespace Parser

/-- The parameters in front of an implementation are read again, lifetimes first and without
defaults. -/
theorem reads_implGenerics {g : Generics} (hne : g.params.isEmpty = false)
    (hnamed : ∀ p ∈ g.params.items, p.Named) (hback : ∀ p ∈ g.params.items, p.ReadsBack)
    (rest : List Token) :
    Reads (generics phrases) g.implTokens rest fun h =>
      SameItems GenericParam.tokens h.params (fun p => p.withoutDefault.tokens) g.ordered := by
  have hordered : ¬ g.ordered.isEmpty = true := by simp [Generics.ordered, hne]
  rw [Generics.implTokens, Generics.angled, if_neg hordered, List.append_assoc]
  refine Reads.ahead (Reads.ite_pos rfl ?_)
  refine (reads_operator (by decide) rfl).bind fun _ _ => ?_
  rw [separated_eq]
  have hlist : Reads (loop (listRound (isOp ">") (isOp ">") "," (declaredParam phrases)) [])
      (g.ordered.tokens (Generated.operator ",") fun p => p.withoutDefault.tokens)
      (Generated.operator ">" ++ rest) fun params =>
        SameItems GenericParam.tokens params (fun p => p.withoutDefault.tokens) g.ordered := by
    refine reads_listed (endsArgument · = true) (by decide) rfl rfl (fun _ => rfl) (fun _ => rfl) rfl
      fun p hp => ?_
    have hp := Listed.mem_sortedBy.1 hp
    have hnamed := (hnamed p hp).withoutDefault
    refine ⟨(param_begins hnamed []).1, fun us hus => ⟨(param_begins hnamed us).2, ?_⟩⟩
    exact (reads_declaredParam hnamed (hback p hp).withoutDefault hus).mono fun q hq => hq.tokens
  refine hlist.bind fun params hparams => ?_
  exact (reads_operator (by decide) rfl).bind_pure fun _ _ => hparams

end Parser

/-! ## Where clauses -/

/-- The parameter has a name, which is no underscore. -/
def GenericParam.Proper (p : GenericParam) : Prop := p.Named ∧ lexemes p.name ≠ [.ident "_"]

/-- The binder has its word and its brackets, and the parameters in them have names. -/
structure Binder.Named (b : Binder) : Prop where
  opening : ∃ span bracket, b.opening = ⟨.ident "for", span⟩ :: bracket
    ∧ lexemes bracket = lexemes (Generated.operator "<")
  params : ∀ p ∈ b.params.items, p.Proper
  closing : lexemes b.closing = lexemes (Generated.operator ">")

/-- What is demanded of a lifetime has names, and so have the parameters after `for`. -/
def Predicate.Named : Predicate → Prop
  | .lifetime name bounds => IsLifetime name ∧ ∀ b ∈ bounds.items, IsLifetime b
  | .type binder _ _ => ∀ b ∈ binder, b.Named

/-- The parameters after `for` are read again. -/
def Binder.ReadsBack (b : Binder) : Prop :=
  Memberwise.ReadsBack (Parser.binderParts phrases) Binder.tokens (fun _ => True) b.tokens

/-- What stands after a predicate: a comma, or what follows the clause. -/
def FollowsPredicate (after : List Token → Bool) (ts : List Token) : Prop :=
  isOp "," ts = true ∨ after ts = true

/-- The type and the bounds of the predicate are read again in front of what may follow, and the type
is not taken for a binder. -/
def Predicate.ReadsBefore (after : List Token → Bool) : Predicate → Prop
  | .lifetime .. => True
  | .type binder subject bounds =>
    (∀ b ∈ binder, b.ReadsBack) ∧ (binder = none → isWord "for" subject = false)
      ∧ TypeReadsBack (fun us => isOp ":" us = true ∧ isOp "::" us = false) subject
      ∧ ∀ b ∈ bounds.items, BoundReadsBack (FollowsPredicate after) b

/-- Each parameter after `for` is read again. -/
def Binder.Stable (b : Binder) : Prop := ∀ p ∈ b.params.items, p.Stable

/-- The type and the bounds of the predicate are read again in front of what may follow, and so are
the parameters after `for`. -/
def Predicate.Stable (after : List Token → Bool) : Predicate → Prop
  | .lifetime .. => True
  | .type binder subject bounds =>
    (∀ b ∈ binder, b.Stable)
      ∧ TypeReadsBack (fun us => isOp ":" us = true ∧ isOp "::" us = false) subject
      ∧ ∀ b ∈ bounds.items, BoundReadsBack (FollowsPredicate after) b

namespace Parser

variable {rest : List Token}

/-- A where clause is followed by braces or by a semicolon. -/
def EndsClause (after : List Token → Bool) : Prop :=
  ∀ ts, after ts = true → isBrace ts = true ∨ isOp ";" ts = true

theorem endsClause_isBrace : EndsClause isBrace := fun _ h => .inl h

theorem endsClause_semicolon : EndsClause (isOp ";") := fun _ h => .inr h

section After

variable {after : List Token → Bool} (hafter : EndsClause after)

include hafter

theorem endsPredicate_of_follows (h : FollowsPredicate after rest) : endsPredicate rest = true := by
  obtain h | h := h
  · simp [endsPredicate, h]
  · obtain h | h := hafter rest h <;> simp [endsPredicate, h]

theorem endsPhrase_of_follows (h : FollowsPredicate after rest) : endsPhrase rest = true := by
  obtain h | h := h
  · simp [endsPhrase, h]
  · obtain h | h := hafter rest h <;> simp [endsPhrase, h]

theorem not_plus_of_follows (h : FollowsPredicate after rest) : isOp "+" rest = false :=
  (noPhrase_of_endsPhrase (endsPhrase_of_follows hafter h)).operators "+" (by simp)

/-- What follows the clause is no comma. -/
theorem not_comma_of_after (h : after rest = true) : isOp "," rest = false := by
  obtain h | h := hafter rest h
  · obtain ⟨first, us, rfl⟩ := groupStarts_iff.1 h
    rfl
  · obtain ⟨spacing, span, us, rfl⟩ := isOp_eq_cons rfl h
    rfl

end After

theorem not_endsPredicate_of_endsPhrase (h : endsPhrase rest = false) :
    endsPredicate rest = false := by
  simp only [endsPhrase, Bool.or_eq_false_iff] at h
  simp [endsPredicate, h]

/-- A type that is read in front of a colon is no lifetime. -/
theorem not_lifetime_of_typeReadsBack {follows : List Token → Prop} {ts : List Token}
    (h : TypeReadsBack follows ts) (hrest : follows rest) :
    (isLifetime (ts ++ rest) && isOp ":" (afterTree (ts ++ rest))) = false := by
  by_contra hboth
  obtain ⟨hlifetime, hcolon⟩ : isLifetime (ts ++ rest) = true
      ∧ isOp ":" (afterTree (ts ++ rest)) = true := by simpa using hboth
  have hplus : isOp "+" (afterTree (ts ++ rest)) = false := by
    obtain ⟨spacing, span, us, hthird⟩ := isOp_eq_cons rfl hcolon
    rw [hthird]
    rfl
  obtain ⟨a, hread, -⟩ := h rest hrest none .outside
  obtain ⟨f, d, hread, -⟩ := bind_eq_ok.1 hread
  rw [phrases_eq] at hread
  simp only [Phrases.body] at hread
  exact type_lifetime_ne_ok (c := ⟨ts ++ rest, none, .outside⟩) hlifetime hplus _ hread

/-- A binder begins with its word. -/
theorem begins_of_binderReadsBack {b : Binder} (h : b.ReadsBack) :
    ∃ span ts, b.tokens = ⟨.ident "for", span⟩ :: ts := by
  obtain ⟨_, hread, -⟩ := h [] trivial none .outside
  obtain ⟨_, d, hopening, -⟩ := bind_eq_ok.1 hread
  obtain ⟨_, d, hkeyword, -⟩ := bind_eq_ok.1 hopening
  obtain ⟨span, rest, htokens, -⟩ := keyword_eq_ok hkeyword
  simp only [List.append_nil] at htokens
  exact ⟨span, rest, htokens⟩

/-- What is demanded of a lifetime is read again. -/
theorem reads_lifetimePredicate {after : List Token → Bool} (hafter : EndsClause after)
    {name : List Token} {bounds : Listed (List Token)} (hnamed : (Predicate.lifetime name bounds).Named)
    (hrest : FollowsPredicate after rest) :
    Reads (predicate phrases) (Predicate.lifetime name bounds).tokens rest
      fun q => lexemes q.tokens = lexemes (Predicate.lifetime name bounds).tokens := by
  obtain ⟨⟨mark, word, span, rfl⟩, hbounds⟩ := hnamed
  have hstop : endsLifetimeBounds rest = true := by
    simp [endsLifetimeBounds, endsPredicate_of_follows hafter hrest]
  rw [Predicate.tokens, List.append_assoc]
  refine Reads.ahead (Reads.ite_pos rfl ((reads_lifetime word mark span).bind ?_))
  rintro _ rfl
  refine (reads_operator (by decide) rfl).bind fun _ _ => (reads_bounds hstop
    (not_plus_of_follows hafter hrest) (fun _ => True) (fun _ => trivial) trivial
    fun b hb => ?_).bind_pure fun l hl => ?_
  · obtain ⟨mark, word, span, rfl⟩ := hbounds b hb
    exact ⟨by simp, fun us _ => ⟨rfl, (reads_lifetime word mark span).mono fun a ha => by rw [ha]⟩⟩
  · simp [Predicate.tokens, hl.lexemes_tokens]

/-- The type and the bounds of a predicate are read again, after the binder `b`. -/
theorem reads_afterBinder {after : List Token → Bool} (hafter : EndsClause after)
    {subject : List Token} {bounds : Listed (List Token)}
    (hsubject : TypeReadsBack (fun us => isOp ":" us = true ∧ isOp "::" us = false) subject)
    (hbounds : ∀ b ∈ bounds.items, BoundReadsBack (FollowsPredicate after) b)
    (hrest : FollowsPredicate after rest) (b : Option Binder) :
    Reads (do
        let subject ← phrases.tokens (.type true)
        let _ ← operator ":"
        return Predicate.type b subject
          (← Parser.bounds endsPredicate (phrases.tokens (.bound false true))))
      (subject ++ (Generated.operator ":" ++ bounds.tokens (Generated.operator "+") id)) rest
      fun q => lexemes q.tokens = lexemes (((b.map Binder.tokens).getD []) ++ subject
        ++ Generated.operator ":" ++ bounds.tokens (Generated.operator "+") id) := by
  refine Reads.bind (hsubject _ ⟨rfl, rfl⟩) fun a ha => (reads_operator (by decide) rfl).bind
    fun _ _ => (reads_bounds (endsPredicate_of_follows hafter hrest) (not_plus_of_follows hafter hrest)
      (fun us => isOp "+" us = true ∨ FollowsPredicate after us) (fun _ => .inl rfl) (.inr hrest)
      fun b hb => ?_).bind_pure fun l hl => ?_
  · refine ⟨(hbounds b hb).ne_nil hrest (endsPhrase_of_follows hafter hrest), fun us hus =>
      ⟨?_, hbounds b hb us hus⟩⟩
    exact not_endsPredicate_of_endsPhrase ((hbounds b hb).endsPhrase_eq hus)
  · have ha : lexemes a = lexemes subject := ha
    simp [Predicate.tokens, hl.lexemes_tokens, ha]

/-- A predicate is read again. -/
theorem reads_predicate {after : List Token → Bool} (hafter : EndsClause after) {p : Predicate}
    (hnamed : p.Named) (hback : p.ReadsBefore after) (hrest : FollowsPredicate after rest) :
    Reads (predicate phrases) p.tokens rest fun q => lexemes q.tokens = lexemes p.tokens := by
  cases p with
  | lifetime name bounds => exact reads_lifetimePredicate hafter hnamed hrest
  | type binder subject bounds =>
    obtain ⟨hbinder, hfor, hsubject, hbounds⟩ := hback
    have hmore := reads_afterBinder hafter hsubject hbounds hrest
    rw [Predicate.tokens, List.append_assoc, List.append_assoc]
    cases binder with
    | none =>
      have hlifetime := @not_lifetime_of_typeReadsBack
        (Generated.operator ":" ++ bounds.tokens (Generated.operator "+") id ++ rest) _ _ hsubject
        ⟨rfl, rfl⟩
      have hword : isWord "for" (subject ++ (Generated.operator ":"
          ++ bounds.tokens (Generated.operator "+") id ++ rest)) = false := by
        have hsubject := hfor rfl
        cases subject with
        | nil => rfl
        | cons t us =>
          obtain ⟨l, span⟩ := t
          cases l <;> exact hsubject
      refine Reads.ahead (Reads.ite_neg (by simpa using hlifetime) (Reads.ite_neg ?_ ?_))
      · simpa using hword
      · rw [pure_bind]
        simpa using hmore none
    | some b =>
      have hb := hbinder b rfl
      obtain ⟨span, ts, hts⟩ := begins_of_binderReadsBack hb
      simp only [Option.map_some, Option.getD_some]
      refine Reads.ahead (Reads.ite_neg ?_ (Reads.ite_pos ?_ ?_))
      · rw [hts]
        rintro ⟨⟩
      · rw [hts]
        rfl
      · have hread : Reads (some <$> binderParts phrases) b.tokens (subject ++ (Generated.operator ":"
            ++ bounds.tokens (Generated.operator "+") id) ++ rest)
            fun o => lexemes ((o.map Binder.tokens).getD []) = lexemes b.tokens :=
          (hb _ trivial).map fun _ h => h
        refine hread.bind fun o ho => (hmore o).mono fun q hq => ?_
        rw [hq]
        simp [ho]

theorem predicate_begins {after : List Token → Bool} {p : Predicate} (hnamed : p.Named)
    (hback : p.ReadsBefore after) (rest : List Token) :
    p.tokens ≠ [] ∧ endsPredicate (p.tokens ++ rest) = false := by
  cases p with
  | lifetime name bounds =>
    obtain ⟨⟨mark, word, span, rfl⟩, -⟩ := hnamed
    exact ⟨List.cons_ne_nil _ _, rfl⟩
  | type binder subject bounds =>
    obtain ⟨hbinder, -, hsubject, -⟩ := hback
    cases binder with
    | none =>
      have hends := @TypeReadsBack.endsPhrase_eq _ _ (Generated.operator ":"
        ++ bounds.tokens (Generated.operator "+") id ++ rest) hsubject ⟨rfl, rfl⟩
      refine ⟨by simp [Predicate.tokens, Generated.operator, operatorLexemes], ?_⟩
      rw [Predicate.tokens]
      simpa using not_endsPredicate_of_endsPhrase hends
    | some b =>
      obtain ⟨span, ts, hts⟩ := begins_of_binderReadsBack (hbinder b rfl)
      rw [Predicate.tokens, Option.map_some, Option.getD_some, hts]
      exact ⟨List.cons_ne_nil _ _, rfl⟩

/-- The predicates of the clause, if there is one. -/
def predicates (w : Option WhereClause) : List Predicate :=
  (w.map fun w => w.predicates.items).getD []

theorem mem_predicates {w : Option WhereClause} {p : Predicate} :
    p ∈ predicates w ↔ ∃ v ∈ w, p ∈ v.predicates.items := by
  cases w <;> simp [predicates]

theorem reads_whereClause {after : List Token → Bool} (hafter : EndsClause after) {w : WhereClause}
    (hne : w.predicates.isEmpty = false) (hnamed : ∀ p ∈ w.predicates.items, p.Named)
    (hback : ∀ p ∈ w.predicates.items, p.ReadsBefore after)
    (hbegins : beginsParams (w.predicates.tokens (Generated.operator ",") Predicate.tokens ++ rest)
      = false)
    (hrest : after rest = true) :
    Reads (whereClause phrases) w.tokens rest fun v =>
      SameItems Predicate.tokens v.predicates Predicate.tokens w.predicates := by
  rw [WhereClause.tokens, if_neg (by simp [hne])]
  refine (reads_keyword "where" .outside).bind fun _ _ => Reads.ahead (Reads.ite_neg ?_ ?_)
  · simp [hbegins]
  · rw [joined_eq]
    refine Reads.bind_pure ?_ fun l hl => hl
    have hends : FollowsPredicate after rest := .inr hrest
    have hcomma := not_comma_of_after hafter hrest
    refine reads_listed (FollowsPredicate after) (by decide) (endsPredicate_of_follows hafter hends)
      (by simp [hcomma]) (fun _ => rfl) (fun _ => .inl rfl) hends fun p hp => ?_
    have hbegins := predicate_begins (hnamed p hp) (hback p hp)
    exact ⟨(hbegins []).1, fun us hus => ⟨(hbegins us).2,
      reads_predicate hafter (hnamed p hp) (hback p hp) hus⟩⟩

/-- A where clause is read again. One without predicates counts as none. -/
theorem reads_whereTokens {after : List Token → Bool} (hafter : EndsClause after) {g : Generics}
    (hnamed : ∀ p ∈ predicates g.whereClause, p.Named)
    (hback : ∀ p ∈ predicates g.whereClause, p.ReadsBefore after)
    (hbegins : ∀ w ∈ g.whereClause, beginsParams
      (w.predicates.tokens (Generated.operator ",") Predicate.tokens ++ rest) = false)
    (hrest : after rest = true) :
    Reads (whereClause? phrases) g.whereTokens rest fun w =>
      lexemes ((w.map WhereClause.tokens).getD []) = lexemes g.whereTokens
        ∧ (predicates w).map (fun p => lexemes p.tokens)
          = (predicates g.whereClause).map fun p => lexemes p.tokens := by
  have hends : endsPhrase rest = true := endsPhrase_of_follows hafter (.inr hrest)
  have hword := (noPhrase_of_endsPhrase hends).word "where"
  have hnone : Reads (whereClause? phrases) [] rest (· = none) :=
    Reads.ahead (Reads.ite_neg (by simp [hword]) (Reads.pure rfl))
  obtain ⟨bracketed, params, _ | w⟩ := g
  · refine hnone.mono ?_
    rintro _ rfl
    exact ⟨rfl, rfl⟩
  · simp only [Generics.whereTokens, Option.map_some, Option.getD_some]
    by_cases hempty : w.predicates.isEmpty
    · rw [WhereClause.tokens, if_pos hempty]
      refine hnone.mono ?_
      rintro _ rfl
      have hitems : w.predicates.items = [] := by simpa [Listed.isEmpty] using hempty
      simp [predicates, hitems]
    · have hread := reads_whereClause hafter (by simpa using hempty) hnamed hback (hbegins w rfl) hrest
      have hword : isWord "where" (w.tokens ++ rest) = true := by
        rw [WhereClause.tokens, if_neg hempty]
        rfl
      refine Reads.ahead (Reads.ite_pos hword (hread.bind_pure fun v hv => ⟨?_, hv.items⟩))
      simp [WhereClause.tokens, hv.isEmpty_eq, hv.lexemes_tokens, hempty]

end Parser

end Memberwise
