import Memberwise.Proofs.Implementation
import Memberwise.Proofs.Members

/-!
# The header of the implementation

The parameters of a struct are written three times: by the struct that is given back, behind `impl` and
as arguments of the type. The lists are made from the same parameters in the same order, lifetimes
first, so each argument stands where the parameter stands that it is for. The order may differ from
that in the source, and the commas with it: here it is shown that none of them is lost or doubled.
Each parameter is written with its attributes and with all that limits it, and without its default behind
`impl`.

## Main definitions

* `AngleList`, `BoundList`: entries in angle brackets or behind a colon, with what separates them
* `Listed.inPasses`, `Generics.twoPasses`: a list that is written in two passes over its source
* `GenericParam.Stands`, `Definition.HeaderStands`: where the parameters stand in the source
* `GenericParam.Sort.Limited`, `GenericParam.Headed`: how a parameter is written, with its default,
  without it and as an argument
* `Generics.inOrder`: the parameters, lifetimes first

## Main statements

* `angleList_angled`: the parameters are written as such a list
* `angled_ordered`: they are written in two passes, whatever is written of each
* `headed_of_named`: what is written of a parameter
* `header_matches`: the three lists of a struct that was read, and its where clause
-/

namespace Memberwise

open Generated

/-! ## Lists in angle brackets -/

/-- The entries stand in angle brackets, with one comma between any two of them and at most one after
the last. Without entries there is nothing. -/
inductive AngleList : List (List Token) → List Token → Prop
  | nil : AngleList [] []
  | bracketed {entries : List (List Token)} {last : List Token} (nonempty : entries ≠ [])
      (trailing : last = [] ∨ last = operator ",") :
      AngleList entries (operator "<" ++ (operator ",").intercalate entries ++ last ++ operator ">")

theorem AngleList.eq_nil_iff {entries : List (List Token)} {ts : List Token}
    (h : AngleList entries ts) : ts = [] ↔ entries = [] := by
  cases h with
  | nil => simp
  | bracketed nonempty trailing => simp [nonempty, operator, operatorLexemes]

theorem Listed.between_eq_intercalate (separator : List Token) (entries : List (List Token)) :
    Listed.between separator entries = separator.intercalate entries := by
  induction entries with
  | nil => rfl
  | cons first rest ih =>
    cases rest with
    | nil => simp [between]
    | cons second rest => rw [between, ih, List.intercalate_cons_cons]

theorem angleList_angled (f : GenericParam → List Token) (params : Listed GenericParam) :
    AngleList (params.items.map f) (Generics.angled f params) := by
  rw [Generics.angled]
  by_cases hempty : params.isEmpty
  · have hnil : params.items = [] := List.isEmpty_iff.1 hempty
    rw [if_pos hempty, hnil]
    exact .nil
  · have hne : params.items.map f ≠ [] := by
      simpa [Listed.isEmpty] using hempty
    rw [if_neg hempty, Listed.tokens, Listed.between_eq_intercalate, ← List.append_assoc]
    refine .bracketed hne ?_
    split
    · exact .inr rfl
    · exact .inl rfl

/-! ## Two passes -/

namespace Listed

variable {α : Type} {early : α → Bool} {separator : List Token} {f : α → List Token}

/-- The items, each with whether a separator follows it. -/
def pairs (l : Listed α) : List (α × Bool) :=
  match l.items.getLast? with
  | some last => l.items.dropLast.map (·, true) ++ [(last, l.trailing)]
  | none => []

/-- Items that are written each with the separator after it, if there is one. -/
def written (separator : List Token) (f : α → List Token) (ps : List (α × Bool)) : List Token :=
  ps.flatMap fun p => f p.1 ++ if p.2 then separator else []

/-- The items in two passes, those of one sort in the first. The second pass begins with a separator
unless the first has written one last. -/
def inPasses (early : α → Bool) (separator : List Token) (f : α → List Token) (l : Listed α) :
    List Token :=
  let first := l.pairs.filter (early ·.1)
  let second := l.pairs.filter (!early ·.1)
  written separator f first
    ++ (if first.getLast?.any (!·.2) && !second.isEmpty then separator else [])
    ++ written separator f second

theorem tokens_init (init : List α) (last : α) (trailing : Bool) :
    (⟨init ++ [last], trailing⟩ : Listed α).tokens separator f
      = (init.flatMap fun a => f a ++ separator) ++ (f last ++ if trailing then separator else []) := by
  cases trailing with
  | false => simpa using tokens_concat separator f init last
  | true =>
    have hfull := tokens_trailing separator f (init ++ [last])
    rw [List.isEmpty_eq_false_iff.2 (List.concat_ne_nil last init)] at hfull
    simpa using hfull

theorem written_append (ps qs : List (α × Bool)) :
    written separator f (ps ++ qs) = written separator f ps ++ written separator f qs :=
  List.flatMap_append

theorem written_true (items : List α) :
    written separator f (items.map (·, true)) = items.flatMap fun a => f a ++ separator := by
  simp [written, List.flatMap_map]

theorem written_last (last : α) (trailing : Bool) :
    written separator f [(last, trailing)] = f last ++ if trailing then separator else [] := by
  simp [written]

theorem filter_pairs (items : List α) (test : α → Bool) :
    (items.map (·, true)).filter (test ·.1) = (items.filter test).map (·, true) := by
  rw [List.filter_map]
  rfl

theorem filter_pairs_concat (init : List α) (last : α) (trailing : Bool) (test : α → Bool) :
    (⟨init ++ [last], trailing⟩ : Listed α).pairs.filter (test ·.1)
      = (init.filter test).map (·, true) ++ [(last, trailing)].filter (test ·.1) := by
  simp only [pairs, List.getLast?_append, List.getLast?_singleton, Option.some_or,
    List.dropLast_concat, List.filter_append, filter_pairs]

section Concat

variable {init : List α} {last : α} {trailing : Bool}

/-- An item that was last and is late stays where it is. -/
theorem sortedBy_concat_late (hlast : early last = false) :
    (⟨init ++ [last], trailing⟩ : Listed α).sortedBy early
      = ⟨init.filter early ++ init.filter (!early ·) ++ [last], trailing⟩ := by
  simp [sortedBy, hlast]

/-- An item that was last and is early has a separator after it if others follow now. -/
theorem sortedBy_concat_early (hlast : early last = true) :
    (⟨init ++ [last], trailing⟩ : Listed α).sortedBy early
      = ⟨init.filter early ++ [last] ++ init.filter (!early ·),
        trailing || !(init.filter (!early ·)).isEmpty⟩ := by
  have hany : (init ++ [last]).any (!early ·) = !(init.filter (!early ·)).isEmpty := by
    rw [List.any_append, Bool.eq_iff_iff]
    simp [hlast]
  rw [sortedBy, hany]
  simp [hlast]

theorem inPasses_concat_late (hlast : early last = false) :
    (⟨init ++ [last], trailing⟩ : Listed α).inPasses early separator f
      = ((init.filter early ++ init.filter (!early ·)).flatMap fun a => f a ++ separator)
        ++ (f last ++ if trailing then separator else []) := by
  have hfirst : [(last, trailing)].filter (early ·.1) = [] := by simp [hlast]
  have hsecond : [(last, trailing)].filter (!early ·.1) = [(last, trailing)] := by simp [hlast]
  -- All in the first pass have their separators.
  have hnone : ((init.filter early).map (·, true)).getLast?.any (!·.2) = false := by
    rw [List.getLast?_map]
    cases (init.filter early).getLast? <;> rfl
  rw [inPasses, filter_pairs_concat, filter_pairs_concat _ _ _ (!early ·), hfirst, hsecond,
    List.append_nil, hnone, written_append, written_true, written_true, written_last]
  simp

theorem inPasses_concat_early (hlast : early last = true) :
    (⟨init ++ [last], trailing⟩ : Listed α).inPasses early separator f
      = ((init.filter early).flatMap fun a => f a ++ separator)
        ++ (f last ++ if trailing || !(init.filter (!early ·)).isEmpty then separator else [])
        ++ (init.filter (!early ·)).flatMap fun a => f a ++ separator := by
  have hfirst : [(last, trailing)].filter (early ·.1) = [(last, trailing)] := by simp [hlast]
  have hsecond : [(last, trailing)].filter (!early ·.1) = [] := by simp [hlast]
  rw [inPasses, filter_pairs_concat, filter_pairs_concat _ _ _ (!early ·), hfirst, hsecond,
    List.append_nil, written_append, written_true, written_true, written_last]
  cases trailing <;> simp

end Concat

/-- A list that is sorted is written as the list that was read, in two passes. -/
theorem tokens_sortedBy (l : Listed α) :
    (l.sortedBy early).tokens separator f = l.inPasses early separator f := by
  obtain ⟨items, trailing⟩ := l
  obtain rfl | ⟨init, last, rfl⟩ := List.eq_nil_or_concat items
  · simp [sortedBy, inPasses, pairs, written, tokens, between, isEmpty]
  rw [List.concat_eq_append]
  cases hlast : early last with
  | false => rw [sortedBy_concat_late hlast, tokens_init, inPasses_concat_late hlast]
  | true =>
    rw [sortedBy_concat_early hlast, inPasses_concat_early hlast]
    cases hothers : init.filter (!early ·) with
    | nil =>
      rw [List.append_nil, tokens_init]
      simp
    | cons other others =>
      -- The last item is no longer last, so a separator follows it in any case.
      have hfull := tokens_trailing separator f (init.filter early ++ [last] ++ other :: others)
      rw [List.isEmpty_eq_false_iff.2 (by simp), Bool.not_false] at hfull
      rw [List.isEmpty_cons, Bool.not_false, Bool.or_true, hfull]
      simp

end Listed

/-- The parameters in angle brackets, the lifetimes in a first pass over the source and the others in a
second. -/
def Generics.twoPasses (g : Generics) (f : GenericParam → List Token) : List Token :=
  if g.params.isEmpty then []
  else operator "<" ++ g.params.inPasses GenericParam.isLifetime (operator ",") f ++ operator ">"

/-- The parameters are written in two passes, whatever is written of each. -/
theorem Generics.angled_ordered (g : Generics) (f : GenericParam → List Token) :
    angled f g.ordered = g.twoPasses f := by
  rw [angled, ordered, Listed.isEmpty_sortedBy, Listed.tokens_sortedBy, twoPasses]

/-! ## Parameters in the source -/

/-- A colon and bounds stand in `ts`, or nothing does. -/
def BoundsStand (bound : Parser (List Token)) (ts rest : List Token) (colon : Bool)
    (bounds : Listed (List Token)) : Prop :=
  colon = false ∧ bounds = .empty ∧ ts = []
    ∨ colon = true ∧ ∃ sign us, ts = sign ++ us ∧ texts sign = [":"]
      ∧ Parser.Spread (Parser.Finds bound) "+" rest bounds.items us

/-- An equals sign and a default stand in `ts`, or nothing does. -/
def DefaultStands (value : Parser (List Token)) (ts rest : List Token) :
    Option (List Token) → Prop
  | none => ts = []
  | some default => ∃ equals us, ts = equals ++ us ∧ texts equals = ["="]
      ∧ Parser.Finds value us rest default

/-- Where the parts of a parameter stand, after its attributes. -/
def GenericParam.Sort.Stands (ts rest : List Token) : GenericParam.Sort → Prop
  | .lifetime name colon bounds =>
    ∃ us, ts = name ++ us ∧ BoundsStand Parser.lifetime us rest colon bounds
  | .type name colon bounds default =>
    ∃ us vs, ts = name ++ (us ++ vs)
      ∧ BoundsStand (phrases.tokens (.bound false true)) us (vs ++ rest) colon bounds
      ∧ DefaultStands (phrases.tokens (.type true)) vs rest default
  | .const name kind default =>
    ∃ word colon us vs, ts = word ++ (name ++ (colon ++ (us ++ vs)))
      ∧ texts word = ["const"] ∧ texts colon = [":"]
      ∧ Parser.Finds (phrases.tokens (.type true)) us (vs ++ rest) kind
      ∧ DefaultStands (Parser.constArgument phrases) vs rest default

/-- Where the parts of a parameter stand. -/
def GenericParam.Stands (ts rest : List Token) (p : GenericParam) : Prop :=
  ∃ attributes us, ts = attributes.flatten ++ us
    ∧ List.Forall₂ Attribute.Stands attributes p.attributes ∧ p.sort.Stands us rest

/-- Where the parameters stand in their angle brackets, if there are any. -/
def ParamsStand (ts rest : List Token) (params : List GenericParam) : Prop :=
  ts = [] ∧ params = []
    ∨ ∃ opening content closing, ts = opening ++ (content ++ closing) ∧ texts opening = ["<"]
      ∧ texts closing = [">"]
      ∧ Parser.Spread GenericParam.Stands "," (closing ++ rest) params content

namespace Parser

variable {ts rest us : List Token}

-- A rule counts once for each step that it is nested in, so long parsers need many.
set_option synthInstance.maxSize 1000

theorem stands_operator {text : String} (h : Finds (operator text) ts rest us) :
    texts ts = text.toList.map Char.toString := by
  rw [(h.spends fun _ => spends_operator text).2, texts_operator]

theorem stands_operator? {text : String} (htext : text ≠ "")
    (h : Finds (operator? text) ts rest us) :
    us.isEmpty = true ∧ ts = [] ∨ us.isEmpty = false ∧ texts ts = text.toList.map Char.toString := by
  rcases h.ahead.ite with ⟨-, h⟩ | ⟨-, h⟩
  · have htexts := stands_operator h
    have hspent := h.spends fun _ => spends_operator text
    refine .inr ⟨?_, htexts⟩
    cases us with
    | nil => simp [htexts, htext] at hspent
    | cons => rfl
  · obtain ⟨rfl, rfl⟩ := h.pure
    exact .inl ⟨rfl, rfl⟩

theorem stands_lifetime (h : Finds lifetime ts rest us) : us = ts :=
  h.spends fun _ => spends_lifetime

theorem stands_lifetimeParam {sort : GenericParam.Sort} (h : Finds lifetimeParam ts rest sort) :
    sort.Stands ts rest := by
  obtain ⟨name, ns, us, rfl, hname, h₁⟩ := h.bind
  obtain rfl := stands_lifetime hname
  rcases h₁.ahead.ite with ⟨-, h₂⟩ | ⟨-, h₂⟩
  · obtain ⟨_, sign, us, rfl, hsign, h₃⟩ := h₂.bind
    obtain ⟨bounds, rfl, hbounds⟩ := h₃.bind_pure
    exact ⟨_, rfl, .inr ⟨rfl, sign, us, rfl, stands_operator hsign, hbounds.joined⟩⟩
  · obtain ⟨rfl, rfl⟩ := h₂.pure
    exact ⟨[], rfl, .inl ⟨rfl, rfl, rfl⟩⟩

theorem stands_typeParam {sort : GenericParam.Sort} (h : Finds (typeParam phrases) ts rest sort) :
    sort.Stands ts rest := by
  obtain ⟨name, ns, us, rfl, hname, h₁⟩ := h.bind
  obtain ⟨rfl, -⟩ := stands_identifier hname
  obtain ⟨colon, sign, us, rfl, hsign, h₂⟩ := h₁.bind
  -- Both with and without bounds, the default follows.
  have hdefault {colon : Bool} {bounds : Listed (List Token)} (us : List Token) {vs : List Token}
      (hbounds : BoundsStand (phrases.tokens (.bound false true)) us (vs ++ rest) colon bounds)
      (h : Finds (do
        let equals ← operator? "="
        if equals.isEmpty then return .type name colon bounds none
        else return .type name colon bounds (some (← phrases.tokens (.type true)))) vs rest sort) :
      sort.Stands (name ++ (us ++ vs)) rest := by
    obtain ⟨equals, es, vs, rfl, hequals, h₃⟩ := h.bind
    rcases h₃.ite with ⟨hnone, h₄⟩ | ⟨hsome, h₄⟩
    · obtain ⟨rfl, rfl⟩ := h₄.pure
      obtain ⟨-, rfl⟩ | ⟨hne, -⟩ := stands_operator? (by decide) hequals
      · exact ⟨us, [], rfl, hbounds, rfl⟩
      · rw [hne] at hnone
        cases hnone
    · obtain ⟨default, rfl, hvalue⟩ := h₄.bind_pure
      obtain ⟨hempty, -⟩ | ⟨-, htexts⟩ := stands_operator? (by decide) hequals
      · exact absurd hempty hsome
      · exact ⟨us, es ++ vs, rfl, hbounds, es, vs, rfl, htexts, hvalue⟩
  rcases h₂.ite with ⟨hnone, h₃⟩ | ⟨hsome, h₃⟩
  · obtain ⟨bounds, bs, us, rfl, hbounds, h₄⟩ := h₃.bind
    obtain ⟨rfl, rfl⟩ := hbounds.pure
    obtain ⟨-, rfl⟩ | ⟨hne, -⟩ := stands_operator? (by decide) hsign
    · exact hdefault [] (.inl ⟨by simp [hnone], rfl, rfl⟩) h₄
    · rw [hne] at hnone
      cases hnone
  · obtain ⟨hempty, -⟩ | ⟨hne, htexts⟩ := stands_operator? (by decide) hsign
    · exact absurd hempty hsome
    · obtain ⟨bounds, bs, us, rfl, hbounds, h₄⟩ := h₃.bind
      rw [← List.append_assoc sign]
      exact hdefault _ (.inr ⟨by simp [hne], sign, bs, rfl, htexts, hbounds.joined⟩) h₄

theorem stands_constParam {sort : GenericParam.Sort} (h : Finds (constParam phrases) ts rest sort) :
    sort.Stands ts rest := by
  obtain ⟨_, ws, us, rfl, hword, h₁⟩ := h.bind
  obtain ⟨rfl, span, rfl⟩ := hword.keyword
  obtain ⟨name, ns, us, rfl, hname, h₂⟩ := h₁.bind
  obtain ⟨rfl, -⟩ := stands_identifier hname
  obtain ⟨_, colon, us, rfl, hcolon, h₃⟩ := h₂.bind
  obtain ⟨kind, ks, us, rfl, hkind, h₄⟩ := h₃.bind
  have hsign : texts colon = [":"] := stands_operator hcolon
  rcases h₄.ahead.ite with ⟨-, h₅⟩ | ⟨-, h₅⟩
  · obtain ⟨_, equals, us, rfl, hequals, h₆⟩ := h₅.bind
    obtain ⟨default, rfl, hvalue⟩ := h₆.bind_pure
    exact ⟨_, colon, ks, equals ++ us, rfl, rfl, hsign, hkind, equals, us, rfl,
      stands_operator hequals, hvalue⟩
  · obtain ⟨rfl, rfl⟩ := h₅.pure
    exact ⟨_, colon, ks, [], rfl, rfl, hsign, hkind, rfl⟩

theorem stands_declaredParam {p : GenericParam} (h : Finds (declaredParam phrases) ts rest p) :
    p.Stands ts rest := by
  obtain ⟨attributes, as, us, rfl, hattributes, h₁⟩ := h.bind
  obtain ⟨parts, rfl, hparts⟩ := stands_outerAttributes hattributes
  rcases h₁.ahead.ite with ⟨-, h₂⟩ | ⟨-, h₂⟩
  · obtain ⟨sort, rfl, hsort⟩ := h₂.bind_pure
    exact ⟨parts, us, rfl, hparts, stands_lifetimeParam hsort⟩
  rcases h₂.ite with ⟨-, h₃⟩ | ⟨-, h₃⟩
  · obtain ⟨sort, rfl, hsort⟩ := h₃.bind_pure
    exact ⟨parts, us, rfl, hparts, stands_typeParam hsort⟩
  rcases h₃.ite with ⟨-, h₄⟩ | ⟨-, h₄⟩
  · obtain ⟨sort, rfl, hsort⟩ := h₄.bind_pure
    exact ⟨parts, us, rfl, hparts, stands_constParam hsort⟩
  rcases h₄.ite with ⟨-, h₅⟩ | ⟨-, h₅⟩
  · -- An underscore is a type parameter with nothing else.
    obtain ⟨name, rfl, hname⟩ := h₅.bind_pure
    obtain ⟨rfl, -⟩ := stands_anyWord hname
    exact ⟨parts, name, rfl, hparts, [], [], (List.append_nil _).symm, .inl ⟨rfl, rfl, rfl⟩, rfl⟩
  · obtain ⟨sort, rfl, hsort⟩ := h₅.bind_pure
    exact hsort.not_expected.elim

theorem stands_boundParam {p : GenericParam} (h : Finds (boundParam phrases) ts rest p) :
    p.Stands ts rest := by
  obtain ⟨attributes, as, us, rfl, hattributes, h₁⟩ := h.bind
  obtain ⟨parts, rfl, hparts⟩ := stands_outerAttributes hattributes
  rcases h₁.ahead.ite with ⟨-, h₂⟩ | ⟨-, h₂⟩
  · obtain ⟨sort, rfl, hsort⟩ := h₂.bind_pure
    exact ⟨parts, us, rfl, hparts, stands_typeParam hsort⟩
  rcases h₂.ite with ⟨-, h₃⟩ | ⟨-, h₃⟩
  · obtain ⟨sort, rfl, hsort⟩ := h₃.bind_pure
    exact ⟨parts, us, rfl, hparts, stands_lifetimeParam hsort⟩
  rcases h₃.ite with ⟨-, h₄⟩ | ⟨-, h₄⟩
  · obtain ⟨sort, rfl, hsort⟩ := h₄.bind_pure
    exact ⟨parts, us, rfl, hparts, stands_constParam hsort⟩
  · obtain ⟨sort, rfl, hsort⟩ := h₄.bind_pure
    exact hsort.not_expected.elim

theorem stands_generics {g : Generics} (h : Finds (generics phrases) ts rest g) :
    ParamsStand ts rest g.params.items := by
  rcases h.ahead.ite with ⟨-, h₁⟩ | ⟨-, h₁⟩
  · obtain ⟨_, opening, us, rfl, hopening, h₂⟩ := h₁.bind
    obtain ⟨params, content, us, rfl, hparams, h₃⟩ := h₂.bind
    obtain ⟨_, rfl, hclosing⟩ := h₃.bind_pure
    exact .inr ⟨opening, content, us, rfl, stands_operator hopening, stands_operator hclosing,
      hparams.separated.mono fun _ _ _ => stands_declaredParam⟩
  · obtain ⟨rfl, rfl⟩ := h₁.pure
    exact .inl ⟨rfl, rfl⟩

end Parser

/-- Where the parameters and the where clause of a struct stand, behind its name. -/
def Definition.HeaderStands (ts : List Token) (d : Definition) (fields : Fields) : Prop :=
  ∃ attributes visibility params body,
    ts = attributes.flatten
        ++ (visibility ++ (d.body.keyword.tokens ++ (d.name.tokens ++ (params ++ body))))
      ∧ List.Forall₂ Attribute.Stands attributes d.attributes
      ∧ Parser.Finds Parser.visibility visibility
        (d.body.keyword.tokens ++ (d.name.tokens ++ (params ++ body))) d.visibility
      ∧ ParamsStand params body d.generics.params.items
      ∧ Parser.FindsFields body [] d.generics.whereClause fields

theorem headerStands_of_finds {ts : List Token} {s : StructItem}
    (h : Parser.Finds (Parser.attributedStruct phrases) ts [] s) :
    s.definition.HeaderStands ts s.fields := by
  obtain ⟨as, vs, params, body, rfl, -, hattributes, hvisibility, ⟨g, hg, hparams⟩, hfields⟩ :=
    Parser.finds_struct h
  obtain ⟨attributes, rfl, hstands⟩ := Parser.stands_outerAttributes hattributes
  have hitems : s.definition.generics.params = g.params := by
    change s.generics.params = g.params
    rw [hparams]
  simp only [List.append_nil] at hvisibility hg
  refine ⟨attributes, vs, params, body, rfl, hstands, hvisibility, ?_, hfields⟩
  rw [hitems]
  exact Parser.stands_generics hg

/-- Attributes that stand in front of something are attributes of what follows them. -/
theorem outer_of_stands {parts : List (List Token)} {as : List Attribute}
    (h : List.Forall₂ Attribute.Stands parts as) : ∀ a ∈ as, a.inner = false := by
  induction h with
  | nil => exact List.forall_mem_nil _
  | cons hstands _ ih =>
    obtain ⟨_, _, _, _, _, -, hinner, -⟩ := hstands
    exact List.forall_mem_cons.2 ⟨hinner, ih⟩

theorem outer_of_paramsStand {ts rest : List Token} {params : List GenericParam}
    (h : ParamsStand ts rest params) {p : GenericParam} (hp : p ∈ params) :
    ∀ a ∈ p.attributes, a.inner = false := by
  obtain ⟨-, rfl⟩ | ⟨_, _, _, -, -, -, hspread⟩ := h
  · cases hp
  · obtain ⟨_, _, parts, _, -, hparts, -⟩ := hspread.mem hp
    exact outer_of_stands hparts

/-! ## Parameters as they are written -/

/-- An attribute of what follows it is written with its path and with what stands behind that. -/
def Attribute.Written (a : Attribute) (ts : List Token) : Prop :=
  ∃ content, ts = operator "#" ++ group .bracket (a.path ++ content)
    ∧ match a.content with
      | .bare => content = []
      | .arguments opening us closing => content = opening :: us ++ [closing]
      | .value _ us => content = operator "=" ++ us

theorem Attribute.written_tokens {a : Attribute} (h : a.inner = false) : a.Written a.tokens := by
  obtain ⟨inner, path, content, span⟩ := a
  obtain rfl : inner = false := h
  refine ⟨content.tokens, by simp [tokens], ?_⟩
  cases content <;> rfl

/-- A colon and the bounds, with one plus sign between any two of them and one after the last if the
source has it. Without bounds there is nothing. -/
inductive BoundList (bounds : Listed (List Token)) : List Token → Prop
  | none (h : bounds.items = []) : BoundList bounds []
  | some (h : bounds.items ≠ []) :
    BoundList bounds (operator ":" ++ ((operator "+").intercalate bounds.items
      ++ if bounds.trailing then operator "+" else []))

theorem boundList_boundTokens (bounds : Listed (List Token)) :
    BoundList bounds (GenericParam.boundTokens bounds) := by
  rw [GenericParam.boundTokens]
  by_cases hempty : bounds.isEmpty
  · rw [if_pos hempty]
    exact .none (List.isEmpty_iff.1 hempty)
  · rw [if_neg hempty, Listed.tokens, Listed.between_eq_intercalate, List.map_id]
    simpa [hempty] using BoundList.some (mt List.isEmpty_iff.2 hempty)

/-- What stands in front of the name of a parameter and what limits it behind its name: its bounds, or
the type of a constant. -/
inductive GenericParam.Sort.Limited : GenericParam.Sort → List Token → List Token → Prop
  | lifetime {name ts : List Token} {colon : Bool} {bounds : Listed (List Token)}
    (h : BoundList bounds ts) : Limited (.lifetime name colon bounds) [] ts
  | type {name ts : List Token} {colon : Bool} {bounds : Listed (List Token)}
    {default : Option (List Token)} (h : BoundList bounds ts) :
    Limited (.type name colon bounds default) [] ts
  | const {name type : List Token} {default : Option (List Token)} :
    Limited (.const name type default) (word "const") (operator ":" ++ type)

namespace GenericParam

/-- The default of the parameter, if it has one. A lifetime has none. -/
def default? (p : GenericParam) : Option (List Token) :=
  match p.sort with
  | .lifetime .. => none
  | .type _ _ _ default => default
  | .const _ _ default => default

/-- A parameter is written with its attributes, its name and what limits it, and its default after
that. Its name alone is a lifetime or a word. -/
structure Headed (p : GenericParam) : Prop where
  tokens_eq : p.tokens = p.withoutDefault.tokens
    ++ (p.default?.map fun value => operator "=" ++ value).getD []
  withoutDefault_eq : ∃ attributes front limits,
    p.withoutDefault.tokens = attributes.flatten ++ (front ++ p.name ++ limits)
      ∧ List.Forall₂ Attribute.Written p.attributes attributes ∧ p.sort.Limited front limits
  lifetime : p.isLifetime = true → IsLifetime p.name ∧ p.default? = none
  word : p.isLifetime = false → IsName p.name ∨ ∃ span, p.name = [⟨.ident "_", span⟩]

theorem defaultTokens_eq (default : Option (List Token)) :
    defaultTokens default = (default.map fun value => operator "=" ++ value).getD [] := by
  cases default <;> rfl

/-- What limits a parameter is the same without its default. -/
theorem limited_withoutDefault (p : GenericParam) : ∃ front limits,
    p.withoutDefault.tokens = Attribute.listTokens p.attributes ++ (front ++ p.name ++ limits)
      ∧ p.sort.Limited front limits := by
  obtain ⟨attributes, sort⟩ := p
  cases sort with
  | lifetime name colon bounds =>
    exact ⟨[], boundTokens bounds, rfl, .lifetime (boundList_boundTokens bounds)⟩
  | type name colon bounds default =>
    refine ⟨[], boundTokens bounds, ?_, .type (boundList_boundTokens bounds)⟩
    simp [tokens, withoutDefault, GenericParam.name, defaultTokens]
  | const name type default =>
    refine ⟨Generated.word "const", operator ":" ++ type, ?_, .const⟩
    simp [tokens, withoutDefault, GenericParam.name, defaultTokens]

theorem headed_of_named {p : GenericParam} (h : p.Named) (houter : ∀ a ∈ p.attributes, a.inner = false) :
    p.Headed := by
  have hwritten : List.Forall₂ Attribute.Written p.attributes (p.attributes.map Attribute.tokens) := by
    rw [List.forall₂_map_right_iff, List.forall₂_same]
    exact fun a ha => Attribute.written_tokens (houter a ha)
  obtain ⟨front, limits, htokens, hlimited⟩ := p.limited_withoutDefault
  have hlimits : ∃ attributes front limits,
      p.withoutDefault.tokens = attributes.flatten ++ (front ++ p.name ++ limits)
        ∧ List.Forall₂ Attribute.Written p.attributes attributes ∧ p.sort.Limited front limits := by
    refine ⟨_, front, limits, ?_, hwritten, hlimited⟩
    rw [htokens, Attribute.listTokens, List.flatMap_def]
  obtain ⟨attributes, sort⟩ := p
  cases sort with
  | lifetime name colon bounds =>
    refine ⟨?_, hlimits, fun _ => ⟨h.1, rfl⟩, fun hlate => by cases hlate⟩
    simp [tokens, withoutDefault, default?]
  | type name colon bounds default =>
    refine ⟨?_, hlimits, fun hearly => (by cases hearly), fun _ => h.imp_right fun h => h.1⟩
    simp [tokens, withoutDefault, default?, defaultTokens_eq]
  | const name type default =>
    refine ⟨?_, hlimits, fun hearly => (by cases hearly), fun _ => .inl h⟩
    simp [tokens, withoutDefault, default?, defaultTokens_eq]

end GenericParam

/-! ## The header -/

/-- The parameters with the lifetimes first, and otherwise in the order of the source. -/
def Generics.inOrder (g : Generics) : List GenericParam :=
  g.params.items.filter GenericParam.isLifetime ++ g.params.items.filter (!GenericParam.isLifetime ·)

theorem Generics.mem_inOrder {g : Generics} {p : GenericParam} :
    p ∈ g.inOrder ↔ p ∈ g.params.items :=
  Listed.mem_sortedBy

theorem Generics.inOrder_eq_nil (g : Generics) : g.inOrder = [] ↔ g.params.items = [] := by
  simp only [List.eq_nil_iff_forall_not_mem, Generics.mem_inOrder]

/-- A where clause is left out if there are no predicates. -/
theorem Generics.whereTokens_eq_nil (g : Generics) :
    g.whereTokens = [] ↔ ∀ w ∈ g.whereClause, w.predicates.items = [] := by
  rw [whereTokens]
  cases g.whereClause with
  | none => simp
  | some w =>
    by_cases hempty : w.predicates.isEmpty
    · have hnil : w.predicates.items = [] := List.isEmpty_iff.1 hempty
      simp [WhereClause.tokens, hempty, hnil]
    · have hne : w.predicates.items ≠ [] := mt List.isEmpty_iff.2 hempty
      simp [WhereClause.tokens, hempty, hne, Generated.word]

/-- The where clause of a struct that is written is one piece of it. -/
theorem Fields.bodyTokens_eq (fields : Fields) :
    ∃ front back, ∀ condition, fields.bodyTokens condition = front ++ condition ++ back := by
  cases fields with
  | named fields => exact ⟨[], _, fun _ => rfl⟩
  | positional fields => exact ⟨_, _, fun _ => rfl⟩
  | unit => exact ⟨[], _, fun _ => rfl⟩

/-- A struct that was read has its parameters in the source, and is given back with them, lifetimes
first. The implementation states the same parameters in the same order with all that limits them but
without their defaults, and gives the type their names as arguments in that order. Each list is written
in two passes over the source and has its commas, and all are left out if there are no parameters. Behind
the type stands the where clause of the struct, which is left out if nothing is demanded. -/
theorem header_matches {item : List Token} {d : Definition} {made : Declaration} {keyword : Name}
    {fields : Fields} (hwhole : Whole item) (hmade : Declares item d made)
    (hbody : d.body = .struct keyword fields) :
    d.HeaderStands item fields
      ∧ (∀ p ∈ d.generics.inOrder, p.Headed)
      ∧ AngleList (d.generics.inOrder.map GenericParam.tokens) d.generics.tokens
      ∧ AngleList (d.generics.inOrder.map fun p => p.withoutDefault.tokens) d.generics.implTokens
      ∧ AngleList (d.generics.inOrder.map GenericParam.name) d.generics.argumentTokens
      ∧ d.generics.tokens = d.generics.twoPasses GenericParam.tokens
      ∧ d.generics.implTokens = d.generics.twoPasses (fun p => p.withoutDefault.tokens)
      ∧ d.generics.argumentTokens = d.generics.twoPasses GenericParam.name
      ∧ (d.generics.tokens = [] ↔ d.generics.params.items = [])
      ∧ (d.generics.implTokens = [] ↔ d.generics.tokens = [])
      ∧ (d.generics.argumentTokens = [] ↔ d.generics.tokens = [])
      ∧ (d.generics.whereTokens = [] ↔ ∀ w ∈ d.generics.whereClause, w.predicates.items = [])
      ∧ (∃ front back, ∀ arguments, (expandAttribute arguments item).kept
          = Attribute.listTokens d.attributes ++ d.visibility.tokens ++ keyword.tokens
            ++ d.name.tokens ++ d.generics.tokens ++ (front ++ d.generics.whereTokens ++ back))
      ∧ (made.kind.isProduct = true → ∀ a, ∃ f, Initializer.generate made a = .ok f
          ∧ f.implTokens = word "impl" ++ d.generics.implTokens ++ d.name.tokens
            ++ d.generics.argumentTokens ++ d.generics.whereTokens
            ++ group .brace f.functionTokens) := by
  obtain ⟨hitem, hdefinition, rfl⟩ := hmade.both
  obtain ⟨s, rfl, rfl, rfl⟩ := Definition.eq_struct hbody
  have hitem : readItem item = .ok (.struct s) := hitem
  have hstands := headerStands_of_finds (finds_of_readItem hwhole hitem)
  have houter : ∀ p ∈ s.generics.params.items, ∀ a ∈ p.attributes, a.inner = false := by
    obtain ⟨_, _, _, _, -, -, -, hparams, -⟩ := hstands
    exact fun p hp => outer_of_paramsStand hparams hp
  have hdeclared := angleList_angled GenericParam.tokens s.generics.ordered
  have hstated := angleList_angled (fun p => p.withoutDefault.tokens) s.generics.ordered
  have happlied := angleList_angled GenericParam.name s.generics.ordered
  refine ⟨hstands, ?_, hdeclared, hstated, happlied, s.generics.angled_ordered _,
    s.generics.angled_ordered _, s.generics.angled_ordered _, ?_, ?_, ?_,
    s.generics.whereTokens_eq_nil, ?_, ?_⟩
  · intro p hp
    have hp := Generics.mem_inOrder.1 hp
    exact GenericParam.headed_of_named ((formed_of_readDefinition hdefinition).generics.params p hp)
      (houter p hp)
  · rw [StructItem.definition, Generics.tokens, hdeclared.eq_nil_iff, List.map_eq_nil_iff]
    exact s.generics.inOrder_eq_nil
  · rw [StructItem.definition, Generics.tokens, Generics.implTokens, hstated.eq_nil_iff,
      hdeclared.eq_nil_iff, List.map_eq_nil_iff, List.map_eq_nil_iff]
  · rw [StructItem.definition, Generics.tokens, Generics.argumentTokens, happlied.eq_nil_iff,
      hdeclared.eq_nil_iff, List.map_eq_nil_iff, List.map_eq_nil_iff]
  · obtain ⟨front, back, hstruct⟩ := s.fields.bodyTokens_eq
    refine ⟨front, back, fun arguments => ?_⟩
    simp only [Expansion.kept, expandAttribute, hitem, Option.map_some, Option.getD_some,
      Item.tokens, StructItem.tokens, StructItem.definition, hstruct]
  · intro hproduct a
    exact ⟨_, generate_of_isProduct hproduct a, rfl⟩

/-- Lifetimes between and behind the other parameters, without a comma after the last. -/
theorem header_matches_grid :
    let item := (lex ("struct Grid<T: Clone = u8, 'a, const N: usize = 2, 'b: 'a> where T: 'b "
      ++ "\x7b cells: &'a [T; N] \x7d")).toOption.getD []
    ∃ d made keyword fields f, Whole item ∧ Declares item d made
      ∧ d.body = .struct keyword fields ∧ d.HeaderStands item fields
      ∧ d.generics.inOrder.map (fun p => texts p.name) = [["'", "a"], ["'", "b"], ["T"], ["N"]]
      ∧ (∀ p ∈ d.generics.inOrder, p.Headed)
      ∧ AngleList (d.generics.inOrder.map fun p => p.withoutDefault.tokens) d.generics.implTokens
      ∧ AngleList (d.generics.inOrder.map GenericParam.name) d.generics.argumentTokens
      ∧ d.generics.argumentTokens = d.generics.twoPasses GenericParam.name
      ∧ d.generics.argumentTokens ≠ []
      ∧ Initializer.generate made {} = .ok f
      ∧ f.implTokens = word "impl" ++ d.generics.implTokens ++ d.name.tokens
        ++ d.generics.argumentTokens ++ d.generics.whereTokens ++ group .brace f.functionTokens := by
  intro item
  have hwhole : Whole item := by decide +kernel
  obtain ⟨d, hread, htest⟩ := @readDefinition_of_any item (fun d => decide (d.body.kind = .struct
    ∧ d.generics.inOrder.map (fun p => texts p.name) = [["'", "a"], ["'", "b"], ["T"], ["N"]]))
    (by decide +kernel)
  obtain ⟨hkind, hnames⟩ := of_decide_eq_true htest
  obtain ⟨keyword, fields, hnamed⟩ := d.body.kind_eq_struct.1 hkind
  have hproduct : d.declaration.kind.isProduct = true := by
    simp [Definition.declaration, hkind, Kind.isProduct]
  have hmade : Declares item d d.declaration := .definition hread
  obtain ⟨hstands, hheaded, -, hstated, happlied, -, -, hpasses, -, -, -, -, -, hadded⟩ :=
    header_matches hwhole hmade hnamed
  obtain ⟨f, hf, htokens⟩ := hadded hproduct {}
  have hne : d.generics.argumentTokens ≠ [] := by
    rw [ne_eq, happlied.eq_nil_iff]
    intro hnil
    rw [List.map_eq_nil_iff.1 hnil] at hnames
    cases hnames
  exact ⟨d, _, keyword, _, f, hwhole, hmade, hnamed, hstands, hnames, hheaded, hstated, happlied,
    hpasses, hne, hf, htokens⟩

end Memberwise
