import Memberwise.Proofs.Places

/-!
# Implementations that read back

What is generated for a struct is one implementation when it is read again. Its header could begin in
another way: an `impl` in front of `<` has parameters only if they look like some, and the type after
them may be taken for a trait. So it is the names in the declaration, none of which is reserved, that
decide how the header is read.

The attributes, types and bounds in the declaration are assumed to be read again, each by itself. That
none of them is taken for something else, where one may stand, is known from the source.

## Main definitions

* `Implementation.Implements`: an implementation that was read is that of an initializer
* `Declaration.ReadsBack`: the phrases in a declaration are read again

## Main statements

* `reads_headerGenerics`, `reads_implTarget`: the header
* `itemAfter_impl`: an item that begins with `impl` is an implementation
* `reads_implementation`: the implementation as a whole
* `readItem_implTokens`: what is generated is read as one item
-/

namespace Memberwise

/-! ## What is read -/

/-- The implementation is that of the initializer: it has its parameters, lifetimes first and without
defaults, its where clause, its type applied to the parameters, and only its function. -/
structure Implementation.Implements (i : Implementation) (f : Initializer) : Prop where
  attributes : i.attributes = []
  modifiers : i.modifiers = []
  params : i.generics.params.items.map (fun p => lexemes p.tokens)
    = f.generics.ordered.items.map fun p => lexemes p.withoutDefault.tokens
  condition : (Parser.predicates i.generics.whereClause).map (fun p => lexemes p.tokens)
    = (Parser.predicates f.generics.whereClause).map fun p => lexemes p.tokens
  trait : i.trait = none
  subject : lexemes i.subject = lexemes (f.selfType.tokens ++ f.generics.argumentTokens)
  inside : i.inside = []
  items : ∃ g, i.items = [.function g] ∧ g.Constructs f

/-- The attributes, types and bounds in the declaration are read again, each by itself in front of what
may follow it in what is generated. -/
structure Declaration.ReadsBack (d : Declaration) : Prop where
  params : ∀ p ∈ d.generics.params.items, p.ReadsBack
  condition : ∀ p ∈ Parser.predicates d.generics.whereClause, p.Stable isBrace
  members : ∀ f ∈ extractFields d.members, f.parameter.ReadsBack

namespace Parser

variable {rest : List Token}

/-! ## The header -/

/-- The first parameter follows the opening bracket. -/
theorem implTokens_cons {g : Generics} {p : GenericParam} {ps : List GenericParam}
    (h : g.ordered.items = p :: ps) (us : List Token) :
    ∃ ts, g.implTokens ++ us = Generated.operator "<" ++ (p.withoutDefault.tokens ++ ts)
      ∧ endsArgument ts = true := by
  have hempty : ¬ g.ordered.isEmpty = true := by simp [Listed.isEmpty, h]
  rw [Generics.implTokens, Generics.angled, if_neg hempty, Listed.tokens, h]
  cases ps with
  | nil =>
    cases g.ordered.trailing && !g.ordered.isEmpty
    · exact ⟨Generated.operator ">" ++ us, by simp [Listed.between], rfl⟩
    · exact ⟨Generated.operator "," ++ (Generated.operator ">" ++ us), by simp [Listed.between], rfl⟩
  | cons q ps => exact ⟨Generated.operator "," ++ _, by simp [Listed.between]; rfl, rfl⟩

/-- The parameters in front of the name of the type, if there are any. -/
theorem reads_headerGenerics {g : Generics} (hnamed : g.Named)
    (hback : ∀ p ∈ g.params.items, p.ReadsBack)
    (hbare : ∀ p ∈ g.ordered.items.head?, p.isBare = false) (word : String) (span : Span)
    (us : List Token) :
    Reads (if beginsParams (g.implTokens ++ ⟨.ident word, span⟩ :: us) then generics phrases
        else pure .none) g.implTokens (⟨.ident word, span⟩ :: us)
      fun h => h.params.items.map (fun p => lexemes p.tokens)
        = g.ordered.items.map fun p => lexemes p.withoutDefault.tokens := by
  have hsorted : g.ordered.isEmpty = g.params.isEmpty := Listed.isEmpty_sortedBy _ _
  cases hitems : g.ordered.items with
  | nil =>
    have hnil : g.implTokens = [] := by
      rw [Generics.implTokens, Generics.angled, if_pos (by simp [Listed.isEmpty, hitems])]
    rw [hnil]
    refine Reads.ite_neg ?_ (Reads.pure rfl)
    simp [beginsParams]
  | cons p ps =>
    have hne : g.params.isEmpty = false := by
      rw [← hsorted, Listed.isEmpty, hitems]
      rfl
    have hread := reads_implGenerics hne hnamed.params hback (⟨.ident word, span⟩ :: us)
    refine Reads.ite_pos ?_ (hread.mono fun h hh => hitems ▸ hh.items)
    obtain ⟨ts, hts, hends⟩ := implTokens_cons hitems (⟨.ident word, span⟩ :: us)
    have hp : p ∈ g.ordered.items := by simp [hitems]
    rw [hts]
    exact beginsParams_declaredParam (hnamed.params p (Listed.mem_sortedBy.1 hp))
      (hbare p (by simp [hitems])) hends

/-- The type of an inherent implementation is read in front of its braces. -/
theorem reads_implTarget {f : Initializer} (hname : isReserved f.selfType.text = false)
    (hnamed : f.generics.Named) (hpath : EndsPath rest) (hfor : isWord "for" rest = false) :
    Reads (implTarget phrases) (f.selfType.tokens ++ f.generics.argumentTokens) rest
      fun r => r.1 = none ∧ lexemes r.2.1 = lexemes (f.selfType.tokens ++ f.generics.argumentTokens)
        ∧ r.2.2 = true := by
  have hread := reads_selfType hname hnamed.params hpath
  refine Reads.ahead (Reads.here fun start => Reads.ite_neg ?_ ?_)
  · simp [Name.tokens]
  rw [pure_bind]
  refine hread.bind_last fun first hfirst => Reads.ahead (Reads.ite_neg ?_ (Reads.ite_pos rfl
    (Reads.pure ⟨rfl, hfirst, rfl⟩)))
  simp [hfor]

/-- After the type stands a where clause, or the braces. -/
theorem whereTokens_begins (g : Generics) (hrest : isBrace rest = true) :
    EndsPath (g.whereTokens ++ rest) ∧ isWord "for" (g.whereTokens ++ rest) = false := by
  have hbrace : EndsPath rest ∧ isWord "for" rest = false := by
    obtain ⟨span, us, rfl⟩ := groupStarts_iff.1 hrest
    exact ⟨endsPath_of_isBrace rfl, rfl⟩
  obtain ⟨bracketed, params, _ | w⟩ := g
  · exact hbrace
  · by_cases hempty : w.predicates.isEmpty
    · simpa [Generics.whereTokens, WhereClause.tokens, hempty] using hbrace
    · simp only [Generics.whereTokens, Option.map_some, Option.getD_some, WhereClause.tokens,
        hempty, Bool.false_eq_true, if_false]
      exact ⟨@endsPath_of_isWord _ "where" rfl, rfl⟩

/-- The braces hold the function and nothing else. -/
theorem reads_functionBraces {f : Initializer} (hf : f.ReadsBack) :
    Reads (inside .brace do return (← innerAttributes phrases, ← repeatUntil atEnd (implItem phrases)))
      (Generated.group .brace f.functionTokens) rest
      fun r => r.1 = [] ∧ ∃ g, r.2 = [.function g] ∧ g.Constructs f := by
  refine Reads.inside ?_
  refine Reads.bind_nil (Q := (· = [])) ?_ ?_
  · rw [innerAttributes, repeatUntil_eq]
    exact Reads.loop_done (Reads.ahead (Reads.ite_pos rfl (Reads.pure ⟨_, rfl, rfl⟩)))
  rintro _ rfl
  have hitems := @reads_repeatUntil _ (implItem phrases) atEnd
    (fun _ i => ∃ g, i = .function g ∧ g.Constructs f) [f.functionTokens]
    (⟨.closing .brace, .outside⟩ :: rest) rfl fun ts hts => ?_
  · rw [List.flatten_singleton] at hitems
    refine hitems.bind_pure fun items hitems => ⟨rfl, ?_⟩
    obtain ⟨_, _, ⟨g, rfl, hg⟩, hrest, rfl⟩ := List.forall₂_cons_left_iff.1 hitems
    obtain rfl := List.forall₂_nil_left_iff.1 hrest
    exact ⟨g, rfl, hg⟩
  · obtain rfl := List.mem_singleton.1 hts
    exact ⟨List.cons_ne_nil _ _, fun us => ⟨rfl, reads_function hf⟩⟩

/-- The header and the function are read as the implementation of the initializer. -/
theorem reads_implementation {f : Initializer} (hname : isReserved f.selfType.text = false)
    (hnamed : f.generics.Named) (hbare : ∀ p ∈ f.generics.ordered.items.head?, p.isBare = false)
    (hparams : ∀ p ∈ f.generics.params.items, p.ReadsBack)
    (hcondition : ∀ p ∈ predicates f.generics.whereClause, p.Stable isBrace)
    (hplaced : ∀ w ∈ f.generics.whereClause, w.Placed) (hf : f.ReadsBack) :
    Reads (implementation? phrases []) f.implTokens rest
      fun i? => ∃ i, i? = some i ∧ i.Implements f := by
  have htokens : f.implTokens = ⟨.ident "impl", .outside⟩ :: (f.generics.implTokens
      ++ ((f.selfType.tokens ++ f.generics.argumentTokens)
      ++ (f.generics.whereTokens ++ Generated.group .brace f.functionTokens))) := by
    simp [Initializer.implTokens, Generated.word]
  rw [htokens]
  refine Reads.bind_nil (Q := (· = .inherited)) (Reads.ahead (Reads.ite_neg (by simp)
    (Reads.pure rfl))) ?_
  rintro _ rfl
  refine Reads.bind_nil (Reads.seq_none (reads_keyword?_none rfl) (Reads.seq_none
    (reads_keyword?_none rfl) Reads.seq_nil)) ?_
  rintro _ rfl
  refine Reads.bind_cons (reads_itemKeyword "impl" .outside) ?_
  rintro _ rfl
  have hgenerics := reads_headerGenerics hnamed hparams hbare f.selfType.text f.selfType.span
    (f.generics.argumentTokens ++ (f.generics.whereTokens
      ++ Generated.group .brace f.functionTokens) ++ rest)
  have hheader (us : List Token) : f.selfType.tokens ++ us
    = ⟨.ident f.selfType.text, f.selfType.span⟩ :: us := rfl
  refine Reads.ahead (Reads.ite_bind ?_)
  refine Reads.bind (by simpa [hheader] using hgenerics) fun g hg => ?_
  refine Reads.bind_nil (Q := (· = false)) (Reads.ahead (Reads.ite_neg ?_ (Reads.pure rfl))) ?_
  · have hconst := @isWord_unreserved _ "const" hname (by decide)
    simp [hheader, hconst, -isWord_ident]
  rintro _ rfl
  obtain ⟨hpath, hfor⟩ := @whereTokens_begins
    (Generated.group .brace f.functionTokens ++ rest) f.generics rfl
  refine Reads.bind (reads_implTarget hname hnamed (by simpa using hpath) (by simpa using hfor)) ?_
  rintro ⟨trait, subject, isPath⟩ ⟨rfl, hsubject, rfl⟩
  refine (reads_condition endsClause_isBrace hnamed.predicates hcondition hplaced rfl).bind
    fun w hw => ?_
  refine (reads_functionBraces hf).bind_last ?_
  rintro ⟨attributes, items⟩ ⟨rfl, hitems⟩
  refine Reads.ite_neg (by simp) (Reads.pure ⟨_, rfl, ?_⟩)
  exact ⟨rfl, rfl, hg, hw.2, rfl, hsubject, rfl, hitems⟩

/-- After its attributes, an item that begins with `impl` is read as an implementation. -/
theorem itemAfter_impl {ph : Phrases} {before : List Token} {attributes : List Attribute} {c : Cursor}
    (hword : isWord "impl" c.tokens = true) :
    itemAfter ph before attributes c = implementationItem ph before attributes c := by
  obtain ⟨span, rest, htokens⟩ := isWord_iff.1 hword
  have hvisibility : visibility c = .ok (.inherited, c) := by
    simp [visibility, htokens, bind_apply]
  have hvisible : afterVisibility c = .ok ((.inherited, c.tokens), c) :=
    afterVisibility_eq_ok.2 ⟨_, c, hvisibility, rfl⟩
  simp only [itemAfter, bind_apply, hvisible, ite_apply, htokens]
  simp [isWord, Terminal.starts, beginsFunction, pastWord]

/-- What is generated is read as an item: the implementation of the initializer. -/
theorem reads_implTokens {f : Initializer} (hname : isReserved f.selfType.text = false)
    (hnamed : f.generics.Named) (hbare : ∀ p ∈ f.generics.ordered.items.head?, p.isBare = false)
    (hparams : ∀ p ∈ f.generics.params.items, p.ReadsBack)
    (hcondition : ∀ p ∈ predicates f.generics.whereClause, p.Stable isBrace)
    (hplaced : ∀ w ∈ f.generics.whereClause, w.Placed) (hf : f.ReadsBack) :
    Reads (item phrases) f.implTokens rest fun i => ∃ j, i = .implementation j ∧ j.Implements f := by
  have hread := @reads_implementation rest f hname hnamed hbare hparams hcondition hplaced hf
  obtain ⟨us, hus⟩ : ∃ us, f.implTokens = ⟨.ident "impl", .outside⟩ :: us :=
    ⟨_, by simp [Initializer.implTokens, Generated.word]; rfl⟩
  refine Reads.ahead (Reads.bind_nil (reads_outerAttributes_none (by simp [hus])) ?_)
  rintro _ rfl
  have hitem : Reads (implementationItem phrases (f.implTokens ++ rest) []) f.implTokens rest
      fun i => ∃ j, i = .implementation j ∧ j.Implements f := by
    refine hread.bind_last ?_
    rintro _ ⟨i, rfl, hi⟩
    exact Reads.pure ⟨i, rfl, hi⟩
  intro left limit
  rw [itemAfter_impl (by simp [hus])]
  exact hitem left limit

end Parser

/-! ## The theorem -/

/-- The initializer of a declaration whose phrases are read again has parameters and assignments that
are read again. -/
theorem Initializer.readsBack_of_generate {d : Declaration} {a : Arguments} {f : Initializer}
    (hgenerate : Initializer.generate d a = .ok f) (hname : isReserved a.functionName.text = false)
    (hnamed : d.Named) (hback : d.ReadsBack)
    (hfields : ∀ field ∈ extractFields d.members, field.name.text ≠ "_") : f.ReadsBack := by
  obtain ⟨hfunction, -, -, -, hparameters, hassignments⟩ := generate_eq_ok hgenerate
  have hfree : ∀ field ∈ extractFields d.members, isReserved field.name.text = false := by
    intro field hfield
    obtain ⟨m, hm, hextracted⟩ := List.mem_filterMap.1 hfield
    have hmember := hnamed.members m hm
    cases m with
    | unnamed => cases hextracted
    | stored name type cfgs =>
      cases type with
      | none => cases hextracted
      | some type =>
        cases hextracted
        exact hmember.resolve_right (hfields _ hfield)
  constructor
  · intro p hp
    rw [hparameters] at hp
    obtain ⟨field, hfield, rfl⟩ := List.mem_map.1 hp
    exact ⟨hfree field hfield, hback.members field hfield⟩
  · intro b hb
    rw [hassignments] at hb
    obtain ⟨field, hfield, rfl⟩ := List.mem_map.1 hb
    exact ⟨hfree field hfield, (hback.members field hfield).cfgs⟩
  · rw [hfunction]
    exact hname

/-- Where the item is a struct, no type of its where clause is taken for anything else. -/
theorem placed_of_isProduct {item : List Token} {d : Definition} (hwhole : Whole item)
    (hread : readItem item = .ok d.item) (hkind : d.declaration.kind.isProduct = true) :
    ∀ w ∈ d.generics.whereClause, w.Placed := by
  obtain ⟨s, hs, -⟩ := (isProduct_iff_buildable_item d).1 hkind
  have hd : d = s.definition := Definition.item_injective hs
  rw [hs] at hread
  rw [hd]
  exact (Parser.placed_struct (finds_of_readItem hwhole hread)).1

open Generated

end Memberwise
