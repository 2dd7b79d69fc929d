import Memberwise.Proofs.Below

/-!
# The type of an implementation

An implementation is of a name applied to the names of parameters. Lifetimes come first among them,
so they are read as arguments of the type and written again in the same order.

## Main definitions

* `EndsPath`: a path that stands for a type may end here
* `IsArgument`: tokens that name a parameter

## Main statements

* `reads_wordType`: a word that stands for a type
* `reads_argumentTokens`: the names of parameters
* `reads_selfType`: a name applied to parameters
-/

namespace Memberwise.Parser

variable {ph : Phrases} {rest : List Token}

/-! ## Words as types -/

/-- The word is a name or stands for the type at hand. -/
def IsTypeWord (word : String) : Prop := isReserved word = false ∨ word = "Self"

/-- A path that stands for a type ends here. -/
structure EndsPath (ts : List Token) : Prop where
  colons : isOp "::" ts = false
  operators : ∀ text ∈ ["<", "!", "+", "#"], isOp text ts = false

theorem endsPath_of_endsPhrase (h : endsPhrase rest = true) : EndsPath rest := by
  obtain ⟨-, -, -, -, -, hcolons, hops⟩ := noPhrase_of_endsPhrase h
  exact ⟨hcolons, fun text htext => hops text (by revert htext; simp; tauto)⟩

theorem endsPath_of_isWord {text : String} (h : isWord text rest = true) : EndsPath rest := by
  obtain ⟨span, us, rfl⟩ := isWord_iff.1 h
  exact ⟨isOp_ident _ _ _ _, fun text _ => isOp_ident _ _ _ _⟩

theorem endsPath_of_isBrace (h : isBrace rest = true) : EndsPath rest := by
  obtain ⟨span, us, rfl⟩ := groupStarts_iff.1 h
  exact ⟨isOp_opening _ _ _ _, fun text _ => isOp_opening _ _ _ _⟩

theorem isWord_typeWord {word text : String} (hword : IsTypeWord word)
    (htext : isReserved text = true) (hself : text ≠ "Self") (span : Span) (rest : List Token) :
    isWord text (⟨.ident word, span⟩ :: rest) = false := by
  obtain hword | rfl := hword
  · exact isWord_unreserved hword htext span rest
  · simpa using hself.symm

theorem isPathWord_typeWord {word : String} (hword : IsTypeWord word) (span : Span)
    (rest : List Token) : isPathWord (⟨.ident word, span⟩ :: rest) = true := by
  obtain hword | rfl := hword
  · simp [isPathWord, hword]
  · simp [isPathWord]

theorem isAngle_of_endsPath (h : EndsPath rest) : isAngle rest = false := by
  simp [isAngle, h.operators "<" (by simp)]

/-- The name of a segment is read first. -/
theorem reads_segmentName {word : String} (hword : IsTypeWord word) (span : Span)
    (rest : List Token) :
    Reads (if isWord "Self" (⟨.ident word, span⟩ :: rest) then take 1 else identifier)
      [⟨.ident word, span⟩] rest (· = [⟨.ident word, span⟩]) := by
  obtain hword | rfl := hword
  · have hself : isWord "Self" (⟨.ident word, span⟩ :: rest) = false :=
      isWord_unreserved hword (by decide) span rest
    rw [hself]
    exact reads_identifier hword span
  · exact Reads.take [⟨.ident "Self", span⟩] rest

theorem reads_segment {style : Bool} {word : String} (hword : IsTypeWord word) (span : Span)
    (hrest : EndsPath rest) :
    Reads (segment ph style) [⟨.ident word, span⟩] rest
      (· = ⟨[⟨.ident word, span⟩], [], false⟩) := by
  refine Reads.ahead (Reads.ite_neg ?_ ?_)
  · simp (disch := decide) [-isWord_ident, isWord_typeWord hword]
  refine Reads.ite_bind ((reads_segmentName hword span rest).bind_last ?_)
  rintro _ rfl
  refine Reads.ahead (Reads.ite_neg ?_ (Reads.ite_neg ?_ (Reads.pure rfl)))
  · simp [isAngle_of_endsPath hrest]
  · simp [hrest.colons]

/-- A word with arguments in angle brackets. -/
theorem reads_segment_generic {word : String} (hword : IsTypeWord word) (span : Span)
    {ts : List Token} {Q : List Token × Bool → Prop} (hangle : isAngle (ts ++ rest) = true)
    (h : Reads (genericArguments ph) ts rest Q) :
    Reads (segment ph false) (⟨.ident word, span⟩ :: ts) rest
      fun s => s.name = [⟨.ident word, span⟩] ∧ Q (s.arguments, s.applied) := by
  refine Reads.ahead (Reads.ite_neg ?_ ?_)
  · simp (disch := decide) [-isWord_ident, isWord_typeWord hword]
  refine Reads.ite_bind (Reads.bind_cons (reads_segmentName hword span (ts ++ rest)) ?_)
  rintro _ rfl
  refine Reads.ahead (Reads.ite_pos (by simpa using hangle) (h.bind_pure fun a ha => ?_))
  exact ⟨rfl, ha⟩

/-- A path of one segment. -/
theorem reads_path {style : Bool} {ts : List Token} {Q : Segment → Prop}
    (hts : isOp "::" (ts ++ rest) = false) (hrest : isOp "::" rest = false)
    (h : Reads (segment ph style) ts rest Q) :
    Reads (path ph style) ts rest fun p => ∃ s, Q s
      ∧ p = ⟨[], s, 0, false, false, !s.arguments.isEmpty⟩ := by
  refine Reads.bind_nil (reads_operator?_none hts) ?_
  rintro _ rfl
  refine h.bind_last fun s hs => Reads.loop_done (Reads.ahead (Reads.ite_neg ?_ ?_))
  · simp [hrest]
  · exact Reads.pure ⟨_, rfl, s, hs, rfl⟩

theorem reads_qualifiedPath {style : Bool} {word : String} {span : Span} {ts : List Token}
    {Q : Segment → Prop} (hrest : isOp "::" rest = false)
    (h : Reads (segment ph style) (⟨.ident word, span⟩ :: ts) rest Q) :
    Reads (qualifiedPath ph style) (⟨.ident word, span⟩ :: ts) rest fun p => ∃ s, Q s
      ∧ p = ⟨[], s, 0, false, false, !s.arguments.isEmpty⟩ :=
  Reads.ahead (Reads.ite_neg (by simp) (reads_path (by simp) hrest h))

/-- A path of one segment stands for a type. -/
theorem reads_type {plus : Bool} {word : String} (hword : IsTypeWord word) {span : Span}
    {ts : List Token} {Q : Segment → Prop} (hhash : isOp "#" (ts ++ rest) = false)
    (hrest : EndsPath rest) (h : Reads (segment ph false) (⟨.ident word, span⟩ :: ts) rest Q) :
    Reads (type ph plus) (⟨.ident word, span⟩ :: ts) rest
      fun f => ∃ s, Q s ∧ f.tokens = s.name ++ s.arguments := by
  have hbuiltin : beginsBuiltin (⟨.ident word, span⟩ :: (ts ++ rest)) = false := by
    have hafter : afterTree (⟨.ident word, span⟩ :: (ts ++ rest)) = ts ++ rest := rfl
    simp [beginsBuiltin, hafter, hhash]
  refine Reads.ahead (Reads.ite_neg ?_ (Reads.ahead (Reads.here fun _ => Reads.ite_neg ?_
    (Reads.ite_neg ?_ (Reads.ite_neg (by simp [hbuiltin]) (Reads.ite_pos ?_ ?_))))))
  · simp (disch := decide) [-isWord_ident, isWord_typeWord hword]
  · rintro ⟨⟩
  · simp (disch := decide) [-isWord_ident, beginsFunctionType, isWord_typeWord hword]
  · simp [beginsTypePath, isPathWord_typeWord hword]
  refine (reads_qualifiedPath hrest.colons h).bind_last ?_
  rintro _ ⟨s, hs, rfl⟩
  refine Reads.ahead (Reads.ite_neg (by simp) (Reads.ite_neg ?_ (Reads.ite_neg ?_ ?_)))
  · simp [hrest.operators "!" (by simp)]
  · simp [hrest.operators "+" (by simp)]
  · exact Reads.pure ⟨s, hs, rfl⟩

/-- A word stands for a type. -/
theorem reads_wordType {plus : Bool} {word : String} (hword : IsTypeWord word) (span : Span)
    (hrest : EndsPath rest) :
    Reads (phrases (.type plus)) [⟨.ident word, span⟩] rest (·.tokens = [⟨.ident word, span⟩]) := by
  refine reads_phrase ((@reads_type _ _ _ _ hword _ [] _ (hrest.operators "#" (by simp)) hrest
    (reads_segment hword span hrest)).mono ?_)
  rintro f ⟨_, rfl, hf⟩
  exact hf

/-- An underscore stands for a type. -/
theorem reads_underscoreType {plus : Bool} (span : Span) :
    Reads (phrases (.type plus)) [⟨.ident "_", span⟩] rest (·.tokens = [⟨.ident "_", span⟩]) := by
  have hreserved : isReserved "_" = true := by decide
  have hread : Reads (do return (⟨← anyWord, .plain⟩ : Fragment)) [⟨.ident "_", span⟩] rest
      (·.tokens = [⟨.ident "_", span⟩]) := by
    refine (reads_anyWord "_" span).bind_pure ?_
    rintro _ rfl
    rfl
  refine reads_phrase (Reads.ahead (Reads.ite_neg ?_ (Reads.ahead (Reads.here fun _ =>
    Reads.ite_neg ?_ (Reads.ite_neg ?_ (Reads.ite_neg ?_ (Reads.ite_neg ?_ (Reads.ite_neg ?_
    (Reads.ite_neg ?_ (Reads.ite_neg ?_ (Reads.ite_neg ?_ (Reads.ite_neg ?_ (Reads.ite_neg ?_
    (Reads.ite_pos rfl hread))))))))))))))
  all_goals
    simp [beginsFunctionType, beginsBuiltin, beginsTypePath, isPathWord, hreserved, isParen,
      isBracket, Terminal.starts]

/-! ## Arguments -/

/-- The tokens name a parameter: they are a lifetime, a word or an underscore. -/
def IsArgument (ts : List Token) : Prop :=
  IsLifetime ts ∨ IsName ts ∨ ∃ span, ts = [⟨.ident "_", span⟩]

theorem isArgument_name {p : GenericParam} (h : p.Named) : IsArgument p.name := by
  obtain ⟨attributes, sort⟩ := p
  cases sort with
  | lifetime name colon bounds => exact .inl h.1
  | type name colon bounds default =>
    obtain hname | ⟨hname, -⟩ := h
    · exact .inr (.inl hname)
    · exact .inr (.inr hname)
  | const name type default => exact .inr (.inl h)

/-- A lifetime is told by its name. -/
theorem isLifetime_name {p : GenericParam} (h : p.Named) : isLifetime p.name = p.isLifetime := by
  obtain ⟨attributes, sort⟩ := p
  cases sort with
  | lifetime name colon bounds =>
    obtain ⟨⟨mark, word, span, rfl⟩, -⟩ := h
    rfl
  | type name colon bounds default =>
    obtain ⟨word, span, -, rfl⟩ | ⟨⟨span, rfl⟩, -⟩ := h <;> rfl
  | const name type default =>
    obtain ⟨word, span, -, rfl⟩ := h
    rfl

/-- A name is read as an argument. -/
theorem reads_genericArgument {count : Nat} {ts : List Token} (h : IsArgument ts)
    (hrest : endsArgument rest = true) (hless : rest.length + 1 < count) :
    Reads (genericArgument (phrases.below count)) ts rest (· = (isLifetime ts, ts)) := by
  have hends := endsPhrase_of_endsArgument hrest
  have hword {word : String} {span : Span}
      (hliteral : isLiteral (⟨.ident word, span⟩ :: rest) = false)
      (hread : Reads (phrases (.type true)) [⟨.ident word, span⟩] rest
        (·.tokens = [⟨.ident word, span⟩])) :
      Reads (genericArgument (phrases.below count)) [⟨.ident word, span⟩] rest
        (· = (isLifetime [⟨.ident word, span⟩], [⟨.ident word, span⟩])) := by
    refine Reads.ahead (Reads.ite_neg (by rintro ⟨⟩) (Reads.ite_neg ?_ ?_))
    · simp [hliteral, isBrace, Terminal.starts]
    refine (reads_below ?_ hread).bind_last fun type htype => Reads.ahead ?_
    · simpa [Nat.add_comm] using hless
    refine Reads.ite_neg ?_ (Reads.ite_neg ?_ (Reads.pure ?_))
    · simp [isOp_of_endsArgument hrest]
    · simp [isOp_of_endsArgument hrest]
    · rw [htype]
      rfl
  obtain ⟨mark, word, span, rfl⟩ | ⟨word, span, hfree, rfl⟩ | ⟨span, rfl⟩ := h
  · refine Reads.ahead (Reads.ite_pos ?_ ?_)
    · have hafter : afterTree (⟨.punct '\x27' .joint, mark⟩ :: ⟨.ident word, span⟩ :: rest) = rest := rfl
      simp [hafter, isOp_of_endsArgument hrest, isLifetime, Terminal.starts]
    · refine (reads_lifetime word mark span).bind_pure ?_
      rintro _ rfl
      rfl
  · exact hword (isLiteral_unreserved hfree span rest)
      (reads_wordType (.inl hfree) span (endsPath_of_endsPhrase hends))
  · exact hword rfl (reads_underscoreType span)

theorem ne_nil_of_isArgument {ts : List Token} (h : IsArgument ts) (rest : List Token) :
    ts ≠ [] ∧ isOp ">" (ts ++ rest) = false := by
  obtain ⟨mark, word, span, rfl⟩ | ⟨word, span, -, rfl⟩ | ⟨span, rfl⟩ := h
  all_goals exact ⟨List.cons_ne_nil _ _, rfl⟩

/-- Lifetimes come first among the arguments already, so they are written as they were read. -/
theorem tokens_sortedArguments {g : Generics} {arguments : Listed (Bool × List Token)}
    (hitems : arguments.items = g.ordered.items.map fun p => (p.isLifetime, p.name))
    (htrailing : arguments.trailing = (g.ordered.trailing && !g.ordered.isEmpty)) (sep : List Token) :
    (arguments.sortedBy (·.1)).tokens sep (·.2) = g.ordered.tokens sep GenericParam.name := by
  have hfirst := Listed.pairwise_sortedBy GenericParam.isLifetime g.params
  have hsorted : arguments.sortedBy (·.1) = arguments := by
    refine Listed.sortedBy_of_pairwise ?_
    rw [hitems, List.pairwise_map]
    exact hfirst
  have hempty : arguments.isEmpty = g.ordered.isEmpty := by simp [Listed.isEmpty, hitems]
  rw [hsorted, Listed.tokens, Listed.tokens, hempty, hitems, htrailing, List.map_map]
  simp [Function.comp_def]

theorem argumentTokens_eq {g : Generics} (hne : g.params.isEmpty = false) :
    g.argumentTokens = Generated.operator "<"
      ++ (g.ordered.tokens (Generated.operator ",") GenericParam.name ++ Generated.operator ">") := by
  have hordered : ¬ g.ordered.isEmpty = true := by simp [Generics.ordered, hne]
  rw [Generics.argumentTokens, Generics.angled, if_neg hordered, List.append_assoc]

/-- The names of parameters are read as arguments. -/
theorem reads_argumentTokens {g : Generics} {count : Nat} (hne : g.params.isEmpty = false)
    (hnamed : ∀ p ∈ g.params.items, p.Named) (hless : (g.argumentTokens ++ rest).length < count) :
    Reads (genericArguments (phrases.below count)) g.argumentTokens rest
      fun a => lexemes a.1 = lexemes g.argumentTokens := by
  rw [argumentTokens_eq hne] at hless ⊢
  have hlengths : (Generated.operator "<").length = 1 ∧ (Generated.operator ">").length = 1 :=
    ⟨rfl, rfl⟩
  simp only [List.length_append] at hless
  refine (reads_operator (by decide) rfl).bind fun opening hopening => ?_
  rw [separated_eq]
  refine (reads_parts (Q := fun ts a => a = (isLifetime ts, ts))
    (fun us => endsArgument us = true ∧ us.length + 1 < count) (by decide) rfl rfl (fun _ => rfl)
    (fun us hus => ⟨rfl, ?_⟩) ⟨rfl, ?_⟩ fun p hp => ?_).bind fun arguments harguments => ?_
  · simp only [List.length_append] at hus ⊢
    omega
  · simp only [List.length_append]
    omega
  · have hname := isArgument_name (hnamed p (Listed.mem_sortedBy.1 hp))
    refine ⟨(ne_nil_of_isArgument hname []).1, fun us hus => ?_⟩
    exact ⟨(ne_nil_of_isArgument hname us).2, reads_genericArgument hname hus.1 hus.2⟩
  · obtain ⟨hread, htrailing⟩ := harguments
    have hitems : arguments.items = g.ordered.items.map fun p => (p.isLifetime, p.name) := by
      have hequal : List.Forall₂ Eq (g.ordered.items.map fun p => (isLifetime p.name, p.name))
          arguments.items := by
        simpa only [List.forall₂_map_left_iff, eq_comm] using hread
      rw [List.forall₂_eq_eq_eq] at hequal
      rw [← hequal]
      refine List.map_congr_left fun p hp => ?_
      rw [isLifetime_name (hnamed p (Listed.mem_sortedBy.1 hp))]
    refine (reads_operator (by decide) rfl).bind_pure fun closing hclosing => ?_
    simp only [tokens_sortedArguments hitems htrailing, lexemes_append, hopening, hclosing,
      List.append_assoc]

/-- A name applied to parameters is read as a type. -/
theorem reads_selfType {n : Name} {g : Generics} (hfree : isReserved n.text = false)
    (hnamed : ∀ p ∈ g.params.items, p.Named) (hrest : EndsPath rest) :
    Reads (phrases (.type true)) (n.tokens ++ g.argumentTokens) rest
      fun f => lexemes f.tokens = lexemes (n.tokens ++ g.argumentTokens) := by
  by_cases hempty : g.params.isEmpty
  · have hnil : g.argumentTokens = [] := by
      rw [Generics.argumentTokens, Generics.angled, if_pos (by simp [Generics.ordered, hempty])]
    rw [hnil, List.append_nil]
    refine (reads_wordType (.inl hfree) n.span hrest).mono fun f hf => ?_
    rw [hf]
    rfl
  · have hangled := argumentTokens_eq (by simpa using hempty)
    have hangle : isAngle (g.argumentTokens ++ rest) = true := by
      rw [hangled]
      rfl
    have hhash : isOp "#" (g.argumentTokens ++ rest) = false := by
      rw [hangled]
      rfl
    refine reads_phrase ((reads_type (.inl hfree) hhash hrest (reads_segment_generic (.inl hfree) n.span
      hangle (reads_argumentTokens (by simpa using hempty) hnamed ?_))).mono ?_)
    · simp [Name.tokens]
    · rintro f ⟨s, ⟨hname, harguments⟩, hf⟩
      rw [hf, hname, lexemes_append, harguments, lexemes_append]
      rfl

end Memberwise.Parser
