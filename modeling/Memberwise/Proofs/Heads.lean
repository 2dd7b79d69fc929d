import Memberwise.Proofs.Finds
import Memberwise.Proofs.Names

/-!
# What paths begin with

In a few places the grammar looks at the first tokens of a type to tell it from something else. What
a type is written with does not begin with what was read for it: lifetimes in front of a macro call
are left out, and an argument that is a lifetime comes first. It still begins like a type, and if it
is one word alone, then that word was all there was.

## Main definitions

* `TypeStart`, `PathStart`: how the tokens of a type and of a path begin
* `QualifiedStart`: how a path with a self type begins

## Main statements

* `spends_path`, `finds_qualifiedPath`: paths
* `finds_pathType`: types that begin with a path
* `gives_boundsWithTrait`: bounds that begin with a lifetime
-/

namespace Memberwise.Parser

variable {ph : Phrases} {c : Cursor} {ts us rest : List Token}

/-! ## First tokens -/

/-- After the word that a type begins with, the type goes on. -/
def goesOn (ts : List Token) : Bool :=
  isOp "<" ts || isOp "::" ts || isOp "!" ts || isOp "+" ts || isOp "#" ts

theorem goesOn_append (h : goesOn ts = true) (us : List Token) : goesOn (ts ++ us) = true := by
  simp only [goesOn, Bool.or_eq_true] at h ⊢
  rcases h with (((h | h) | h) | h) | h
  all_goals simp [isOp_append_right h us]

/-- A type does not end where it goes on. -/
theorem not_ends_of_goesOn (h : goesOn ts = true) :
    atEnd ts = false ∧ isOp ">" ts = false ∧ isOp "," ts = false
      ∧ (isOp ":" ts && !isOp "::" ts) = false ∧ isOp "=" ts = false := by
  by_cases hcolons : isOp "::" ts
  · obtain ⟨spacing, span, us, rfl⟩ := isOp_eq_cons rfl hcolons
    rw [hcolons, Bool.not_true, Bool.and_false]
    exact ⟨rfl, rfl, rfl, rfl, rfl⟩
  · simp only [goesOn, hcolons, Bool.or_eq_true, Bool.false_eq_true, or_false] at h
    rcases h with ((h | h) | h) | h
    all_goals
      obtain ⟨spacing, span, us, rfl⟩ := isOp_eq_cons rfl h
      exact ⟨rfl, rfl, rfl, rfl, rfl⟩

/-- A word that a path may begin with is none of those that stand for something else. -/
def isOpenWord (word : String) : Bool := !(["const", "for", "in"].contains word)

theorem isOpenWord_of_not_reserved {word : String} (h : isReserved word = false) :
    isOpenWord word = true := by
  by_contra hopen
  have hwords : word = "const" ∨ word = "for" ∨ word = "in" := by
    simpa [isOpenWord, or_iff_not_imp_left] using hopen
  rcases hwords with rfl | rfl | rfl <;> exact absurd h (by decide)

/-- A type begins with this, if not with a word that it may consist of, and not with a lifetime. -/
def marksType : Lexeme → Bool
  | .ident word => ["dyn", "extern", "fn", "for", "impl", "unsafe"].contains word
  | .punct char _ => ['!', '&', '*', ':', '<'].contains char
  | .opening _ => true
  | _ => false

/-- How a type that was read from `ts` begins. One word alone was one word before. -/
inductive TypeStart : List Token → List Token → Prop
  | word {word : String} {span : Span} (h : isOpenWord word = true) :
    TypeStart [⟨.ident word, span⟩] [⟨.ident word, span⟩]
  | path {word : String} {span : Span} {us ts : List Token} (h : isOpenWord word = true)
    (hmore : goesOn us = true) : TypeStart (⟨.ident word, span⟩ :: us) ts
  | lifetime {mark span : Span} {word : String} {us ts : List Token} (hplus : isOp "+" us = true) :
    TypeStart (⟨.punct '\x27' .joint, mark⟩ :: ⟨.ident word, span⟩ :: us) ts
  | marked {t : Token} {us ts : List Token} (h : marksType t.lexeme = true) : TypeStart (t :: us) ts

/-- Parameters in angle brackets begin like this. -/
def beginsParam (ts : List Token) : Bool :=
  isOp ">" ts || isOp "#" ts
    || ((isLifetime ts || isIdent ts)
      && (isOp ">" (afterTree ts) || isOp "," (afterTree ts)
        || (isOp ":" (afterTree ts) && !isOp "::" (afterTree ts)) || isOp "=" (afterTree ts)))
    || isWord "const" ts

namespace TypeStart

variable {a : List Token}

theorem ne_nil (h : TypeStart a ts) : a ≠ [] := by
  cases h <;> simp

/-- A type does not begin like a path of a restriction. -/
theorem isWord_in (h : TypeStart a ts) (us : List Token) : isWord "in" (a ++ us) = false := by
  cases h with
  | word hword | path hword =>
    simp [isOpenWord] at hword
    simp [hword]
  | lifetime => rfl
  | @marked t us ts ht =>
    obtain ⟨l, span⟩ := t
    cases l with
    | ident word =>
      simp [marksType] at ht
      simp
      rintro rfl
      simp at ht
    | punct | literal | opening | closing => rfl

/-- A type that is one of the words that restrict a visibility was that word before. -/
theorem eq_of_scope (h : TypeStart a ts) {word : String}
    (hscope : word ∈ ["crate", "self", "super"]) {us : List Token}
    (hword : isWord word (a ++ us) = true) (hend : atEnd (afterTree (a ++ us)) = true) :
    ∃ span, a = [⟨.ident word, span⟩] ∧ ts = [⟨.ident word, span⟩] := by
  cases h with
  | @word word' span _ =>
    obtain rfl : word' = word := by simpa using hword
    exact ⟨span, rfl, rfl⟩
  | @path _ _ vs _ _ hmore =>
    have hends := (not_ends_of_goesOn (goesOn_append hmore us)).1
    have hafter : atEnd (vs ++ us) = true := hend
    rw [hends] at hafter
    cases hafter
  | lifetime => cases hword
  | @marked t us ts ht =>
    obtain ⟨l, span⟩ := t
    cases l with
    | ident word' =>
      obtain rfl : word' = word := by simpa using hword
      simp [marksType] at ht
      simp at hscope
      grind
    | punct | literal | opening | closing => cases hword

/-- A type that may be taken for a parameter is one word, and was before. -/
theorem eq_of_beginsParam (h : TypeStart a ts) {us : List Token}
    (hparam : beginsParam (a ++ us) = true) :
    ∃ word span, isOpenWord word = true ∧ a = [⟨.ident word, span⟩]
      ∧ ts = [⟨.ident word, span⟩] := by
  cases h with
  | word hword => exact ⟨_, _, hword, rfl, rfl⟩
  | @path word span vs _ hword hmore =>
    obtain ⟨-, h₁, h₂, h₃, h₄⟩ := not_ends_of_goesOn (goesOn_append hmore us)
    have hafter : afterTree (⟨.ident word, span⟩ :: vs ++ us) = vs ++ us := rfl
    simp [isOpenWord] at hword
    simp only [beginsParam, hafter, h₁, h₂, h₃, h₄] at hparam
    simp [hword] at hparam
  | @lifetime mark span word vs _ hplus =>
    have hmore : goesOn vs = true := by simp [goesOn, hplus]
    obtain ⟨-, h₁, h₂, h₃, h₄⟩ := not_ends_of_goesOn (goesOn_append hmore us)
    have hafter :
        afterTree (⟨.punct '\x27' .joint, mark⟩ :: ⟨.ident word, span⟩ :: vs ++ us) = vs ++ us := rfl
    simp only [beginsParam, hafter, h₁, h₂, h₃, h₄] at hparam
    cases hparam
  | @marked t us ts ht =>
    obtain ⟨l, span⟩ := t
    cases l with
    | ident word =>
      have hreserved : isReserved word = true ∧ word ≠ "const" := by
        simp [marksType] at ht
        rcases ht with rfl | rfl | rfl | rfl | rfl | rfl <;> decide
      simp [beginsParam, hreserved, isLifetime, Terminal.starts] at hparam
    | punct char spacing =>
      simp [marksType] at ht
      rcases ht with rfl | rfl | rfl | rfl | rfl <;> cases hparam
    | opening => simp [beginsParam, isLifetime, Terminal.starts, isIdent, isWord] at hparam
    | literal | closing => cases ht

end TypeStart

/-! ## Paths -/

/-- How a path that was read from `ts` begins. One word alone was one word before. -/
inductive PathStart : List Token → List Token → Prop
  | word {word : String} {span : Span} (h : isOpenWord word = true) :
    PathStart [⟨.ident word, span⟩] [⟨.ident word, span⟩]
  | more {word : String} {span : Span} {us ts : List Token} (h : isOpenWord word = true)
    (hmore : isOp "<" us = true ∨ isOp "::" us = true) : PathStart (⟨.ident word, span⟩ :: us) ts
  | rooted {a ts : List Token} (h : isOp "::" a = true) : PathStart a ts

/-- A path that goes on does not begin in another way. -/
theorem PathStart.append {a colons : List Token} (h : PathStart a ts)
    (hcolons : lexemes colons = lexemes (Generated.operator "::")) (us vs : List Token) :
    PathStart (a ++ (colons ++ us)) (ts ++ vs) := by
  cases h with
  | word h => exact .more h (.inr (isOp_append (by decide) hcolons us))
  | more h hmore =>
    refine .more h (hmore.imp ?_ ?_)
    · intro hop
      exact isOp_append_right hop _
    · intro hop
      exact isOp_append_right hop _
  | rooted h => exact .rooted (isOp_append_right h _)

theorem TypeStart.of_path {a : List Token} (h : PathStart a ts) : TypeStart a ts := by
  cases h with
  | word h => exact .word h
  | more h hmore =>
    refine .path h ?_
    rcases hmore with hop | hop <;> simp [goesOn, hop]
  | rooted h =>
    obtain ⟨spacing, span, us, rfl⟩ := isOp_eq_cons rfl h
    exact .marked rfl

theorem gives_genericArguments :
    Gives c (genericArguments ph) fun r => isOp "<" r.1 = true := by
  refine (gives_operator "<").bind fun opening _ hopening => Gives.then_ fun arguments _ =>
    Gives.then_ fun closing _ => Gives.pure ?_
  rw [List.append_assoc]
  exact isOp_append (by decide) hopening _

theorem gives_turbofish : Gives c (turbofish ph) fun r => isOp "::" r.1 = true := by
  refine (gives_operator "::").bind fun colons _ hcolons => Gives.then_ fun _ _ => Gives.pure ?_
  exact isOp_append (by decide) hcolons _

/-- `a`, which was read from `ts`, is the name of a segment: one word that a path may begin with. -/
def NamesSegment (a ts : List Token) : Prop :=
  a = ts ∧ ∃ word span, isOpenWord word = true ∧ a = [⟨.ident word, span⟩]

/-- A segment that was read from `ts` begins with its name, and its arguments with a mark. -/
def SegmentStart (s : Segment) (ts : List Token) : Prop :=
  ∃ word span, isOpenWord word = true ∧ s.name = [⟨.ident word, span⟩]
    ∧ (s.arguments = [] ∧ ts = s.name ∨ isOp "<" s.arguments = true ∨ isOp "::" s.arguments = true)

/-- A path begins with its first segment, or with the `::` in front of it. -/
theorem SegmentStart.pathStart {s : Segment} {leading us : List Token} (h : SegmentStart s ts)
    (hleading : leading = [] ∧ us = [] ∨ lexemes leading = lexemes (Generated.operator "::")) :
    PathStart (leading ++ s.name ++ s.arguments) (us ++ ts) := by
  obtain ⟨word, span, hopen, hname, harguments⟩ := h
  rcases hleading with ⟨rfl, rfl⟩ | hcolons
  · rw [hname, List.nil_append]
    rcases harguments with ⟨hnone, rfl⟩ | hmore
    · rw [hnone, hname]
      exact .word hopen
    · exact .more hopen hmore
  · rw [List.append_assoc]
    exact .rooted (isOp_append (by decide) hcolons _)

theorem gives_addSegment (style : Bool) (p : Path) : Gives c (addSegment ph style p) fun q =>
    q.qualified = p.qualified ∧ ∃ us, q.tokens = p.tokens ++ us := by
  refine Gives.then_ fun colons _ => Gives.then_ fun s _ =>
    Gives.pure ⟨rfl, colons ++ s.name ++ s.arguments, ?_⟩
  simp [Path.add, Path.tokens]

/-- The segments after a self type are put behind it. -/
theorem gives_qualifiedSegments (style : Bool) (front : List Token) :
    Gives c (do
      let first ← addSegment ph style ⟨front, ⟨[], [], false⟩, 0, true, true, true⟩
      loop (fun p => do
        if isOp "::" (← ahead) then return .inl (← addSegment ph style p) else return .inr p) first)
      fun p => p.qualified = true ∧ ∃ more, p.tokens = front ++ more := by
  refine (gives_addSegment style _).bind fun first _ hfirst => ?_
  refine Gives.loop (fun p => p.qualified = true ∧ ∃ more, p.tokens = front ++ more)
    (fun p e hp => ?_) ?_
  · refine Gives.ahead (Gives.ite (fun _ => ?_) fun _ => Gives.pure hp)
    refine (gives_addSegment style p).bind fun q _ hq => Gives.pure ?_
    obtain ⟨hqualified, us, hus⟩ := hq
    obtain ⟨hp, more, hmore⟩ := hp
    exact ⟨hqualified.trans hp, more ++ us, by simp [hus, hmore]⟩
  · obtain ⟨hqualified, us, hus⟩ := hfirst
    exact ⟨hqualified, us, by simpa [Path.tokens] using hus⟩

/-- A path with a self type begins with it: `type` was read from `self`, and a bracket or a trait
follows. -/
def QualifiedStart (ph : Phrases) (a ts : List Token) : Prop :=
  ∃ (spacing : Spacing) (first span : Span) (self us after type vs : List Token),
    ts = ⟨.punct '<' spacing, first⟩ :: (self ++ us)
      ∧ a = ⟨.punct '<' .alone, span⟩ :: (type ++ vs)
      ∧ Finds (ph.tokens (.type true)) self after type
      ∧ (isOp ">" vs = true ∧ isOp ">" us = true ∨ isWord "as" vs = true)

theorem QualifiedStart.append {a : List Token} (h : QualifiedStart ph a ts) (us : List Token) :
    QualifiedStart ph a (ts ++ us) := by
  obtain ⟨spacing, first, span, self, vs, after, type, ws, rfl, ha, htype, hnext⟩ := h
  refine ⟨spacing, first, span, self, vs ++ us, after, type, ws, by simp, ha, htype, ?_⟩
  refine hnext.imp_left ?_
  rintro ⟨hws, hvs⟩
  exact ⟨hws, isOp_append_right hvs us⟩

/-! ## Sums of bounds -/

/-- A lifetime with a plus sign after it. -/
def LifetimeSum (ts : List Token) : Prop :=
  ∃ mark word span us, ts = ⟨.punct '\x27' .joint, mark⟩ :: ⟨.ident word, span⟩ :: us
    ∧ isOp "+" us = true

theorem LifetimeSum.append (h : LifetimeSum ts) (us : List Token) : LifetimeSum (ts ++ us) := by
  obtain ⟨mark, word, span, vs, rfl, hplus⟩ := h
  exact ⟨mark, word, span, vs ++ us, rfl, isOp_append_right hplus us⟩

theorem gives_bound_lifetime {capture const : Bool} (hlifetime : isLifetime c.tokens = true) :
    Gives c (bound ph capture const) fun b => IsLifetime b.tokens ∧ b.shape ≠ .traitBound := by
  refine Gives.ahead (Gives.ite (fun _ => ?_) fun h => absurd hlifetime h)
  exact gives_lifetime.bind fun ts _ hts => Gives.pure ⟨hts, by simp⟩

/-- A sum that begins with a lifetime goes on, or is of that lifetime alone. -/
theorem gives_sumOfBounds {plus capture const : Bool} (hlifetime : isLifetime c.tokens = true) :
    Gives c (sumOfBounds ph plus capture const) fun r =>
      LifetimeSum r.1 ∨ r.2.contains .traitBound = false := by
  refine Gives.loop_step ((gives_bound_lifetime hlifetime).bind fun b d hb => ?_)
  obtain ⟨⟨mark, word, span, htokens⟩, hshape⟩ := hb
  have hnone : [b.shape].contains .traitBound = false := by simpa using hshape.symm
  refine Gives.ahead (Gives.ite (fun _ => ?_) fun _ => Gives.pure (.inr hnone))
  refine (gives_operator "+").bind fun sign e hsign => ?_
  have hstart : LifetimeSum ([] ++ b.tokens ++ sign) :=
    ⟨mark, word, span, sign ++ [], by simp [htokens], isOp_append (by decide) hsign []⟩
  refine Gives.ahead (Gives.ite (fun _ => Gives.pure fun f => ?_) fun _ => Gives.pure (.inl hstart))
  -- Whatever is added stands behind the plus sign.
  refine Gives.loop (fun s => LifetimeSum s.1) (fun s g hs => ?_) hstart
  refine Gives.then_ fun b g => Gives.ahead (Gives.ite (fun _ => ?_) fun _ => ?_)
  · refine Gives.then_ fun sign g => Gives.ahead (Gives.ite (fun _ => ?_) fun _ => ?_)
    · exact Gives.pure ((hs.append _).append _)
    · exact Gives.pure (.inl ((hs.append _).append _))
  · exact Gives.pure (.inl (hs.append _))

/-- Bounds of which one has to be a trait do not end after a lifetime. -/
theorem gives_boundsWithTrait {plus capture const : Bool} {cause : Cause} {start : Span}
    (hlifetime : isLifetime c.tokens = true) :
    Gives c (boundsWithTrait ph plus capture const cause start) LifetimeSum := by
  refine (gives_sumOfBounds hlifetime).bind fun r d hr => ?_
  obtain ⟨tokens, shapes⟩ := r
  refine Gives.ite (fun htrait => Gives.pure ?_) fun _ => ?_
  · rcases hr with hsum | hnone
    · exact hsum
    · rw [hnone] at htrait
      cases htrait
  · split <;> exact Gives.rejectAt _ _

/-! ## Types that begin with a path -/

/-- A round of the bounds after a path. -/
def sumRound (ph : Phrases) (read : List Token) : Parser (List Token ⊕ List Token) := do
  if isOp "+" (← ahead) then
    let read := read ++ (← operator "+")
    if beginsBound false (← ahead) then return .inl (read ++ (← ph.tokens (.bound false false)))
    else return .inr read
  else return .inr read

theorem gives_sumRounds (read : List Token) (hread : isOp "+" read = true) :
    Gives c (loop (sumRound ph) read) (isOp "+" · = true) := by
  refine Gives.loop (isOp "+" · = true) (fun read d hread => ?_) hread
  refine Gives.ahead (Gives.ite (fun _ => ?_) fun _ => Gives.pure hread)
  refine Gives.then_ fun sign d => Gives.ahead (Gives.ite (fun _ => ?_) fun _ => ?_)
  · exact Gives.then_ fun b _ => Gives.pure (isOp_append_right (isOp_append_right hread _) _)
  · exact Gives.pure (isOp_append_right hread _)

/-- Bounds after a path begin with a plus sign, if there are any. -/
theorem gives_pathBounds :
    Gives c (loop (sumRound ph) []) fun ts =>
      ts = [] ∧ isOp "+" c.tokens = false ∨ isOp "+" ts = true := by
  refine Gives.loop_step (Gives.ahead (Gives.ite (fun _ => ?_) fun h => ?_))
  · refine (gives_operator "+").bind fun sign d hsign => ?_
    have hstart (us : List Token) : isOp "+" ([] ++ sign ++ us) = true :=
      isOp_append (by decide) hsign us
    refine Gives.ahead (Gives.ite (fun _ => ?_) fun _ => Gives.pure (.inr ?_))
    · refine Gives.then_ fun b _ => Gives.pure fun e => ?_
      exact (gives_sumRounds _ (hstart _)).mono fun _ h => .inr h
    · simpa using hstart []
  · exact Gives.pure (.inl ⟨rfl, by simpa using h⟩)

section

-- A rule counts once for each step that it is nested in, so long parsers need many.
set_option synthInstance.maxSize 1000

variable [∀ phrase, Passes (ph phrase)]

/-- What is given is a statement about the result alone. -/
theorem spends_of_gives {α : Type} {p : Parser α} {Q : α → Prop} [Passes p] (h : Gives c p Q) :
    Spends c p fun a _ => Q a := by
  intro a d hread hleft
  obtain ⟨hnone, hclosed⟩ := Passes.spends c a d hread hleft
  refine ⟨hnone, fun hc => ?_⟩
  obtain ⟨hlimit, ts, hts, hwhole, -⟩ := hclosed hc
  exact ⟨hlimit, ts, hts, hwhole, h a d hread⟩

/-- The name of a segment is the word that was looked at. -/
theorem spends_segmentWord {text : String} (hword : isWord text c.tokens = true)
    (hopen : isOpenWord text = true) : Spends c (take 1) NamesSegment := by
  obtain ⟨span, us, htokens⟩ := isWord_iff.1 hword
  refine (spends_take_leaf htokens (by simp) rfl).mono ?_
  rintro a ts ⟨rfl, rfl⟩
  exact ⟨rfl, text, span, hopen, rfl⟩

/-- No other name of a segment is reserved. -/
theorem spends_segmentIdentifier : Spends c identifier NamesSegment := by
  intro a d hread hleft
  obtain ⟨word, span, us, hfree, htokens, hr⟩ := identifier_eq_ok hread
  cases hr
  exact ⟨hleft, fun _ => ⟨rfl, _, htokens, Whole.leaf _ (by simp) rfl,
    rfl, word, span, isOpenWord_of_not_reserved hfree, rfl⟩⟩

/-- After the name stand arguments that begin with a mark, or nothing. -/
theorem spends_segmentArguments (style : Bool) (name : List Token) : Spends c (do
    let ts ← ahead
    let r ←
      if !style && isAngle ts then genericArguments ph
      else if isOp "::" ts && isOp "<" (afterTree (afterTree ts)) then turbofish ph
      else pure ([], false)
    return Segment.mk name r.1 r.2) fun s us => s.name = name
      ∧ (s.arguments = [] ∧ us = [] ∨ isOp "<" s.arguments = true
        ∨ isOp "::" s.arguments = true) := by
  refine Spends.ahead (Spends.ite (fun _ => ?_) fun _ => Spends.ite (fun _ => ?_) fun _ => ?_)
  · exact (spends_of_gives gives_genericArguments).bind_pure fun _ _ h => ⟨rfl, .inr (.inl h)⟩
  · exact (spends_of_gives gives_turbofish).bind_pure fun _ _ h => ⟨rfl, .inr (.inr h)⟩
  · exact Spends.pure ⟨rfl, .inl ⟨rfl, rfl⟩⟩

theorem spends_segment (style : Bool) : Spends c (segment ph style) SegmentStart := by
  have hsingle {text : String} (hword : isWord text c.tokens = true)
      (hopen : isOpenWord text = true) :
      Spends c (do return Segment.mk (← take 1) [] false) SegmentStart := by
    refine (spends_segmentWord hword hopen).bind_pure ?_
    rintro _ ts ⟨rfl, word, span, hopen, hname⟩
    exact ⟨word, span, hopen, hname, .inl ⟨rfl, rfl⟩⟩
  have happlied {p : Parser (List Token)} (hp : Spends c p NamesSegment) :
      Spends c (do
        let name ← p
        let ts ← ahead
        let r ←
          if !style && isAngle ts then genericArguments ph
          else if isOp "::" ts && isOp "<" (afterTree (afterTree ts)) then turbofish ph
          else pure ([], false)
        return Segment.mk name r.1 r.2) SegmentStart := by
    refine hp.bind fun name d => (spends_segmentArguments style name).mono ?_
    rintro s us ⟨rfl, harguments⟩ ts ⟨rfl, word, span, hopen, hname⟩
    refine ⟨word, span, hopen, hname, harguments.imp_left ?_⟩
    rintro ⟨hnone, rfl⟩
    exact ⟨hnone, List.append_nil _⟩
  refine Spends.ahead (Spends.ite (fun h => ?_) fun _ => Spends.ite (fun h => ?_) fun _ => ?_)
  · simp only [Bool.or_eq_true] at h
    rcases h with ((h | h) | h) | h <;> exact hsingle h rfl
  · exact happlied (spends_segmentWord h rfl)
  · exact happlied spends_segmentIdentifier

theorem spends_path (style : Bool) :
    Spends c (path ph style) fun p ts => PathStart p.tokens ts ∧ p.qualified = false := by
  have hleading : Spends c (operator? "::") fun a ts =>
      a = [] ∧ ts = [] ∨ lexemes a = lexemes (Generated.operator "::") := by
    refine Spends.ahead (Spends.ite (fun _ => ?_) fun _ => Spends.pure (.inl ⟨rfl, rfl⟩))
    exact (spends_of_gives (gives_operator "::")).mono fun _ _ h => .inr h
  refine hleading.bind fun leading d => (spends_segment style).bind fun first e => ?_
  -- The invariant of the segments that have been read, in front of which `before` was.
  let Extends (p : Path) (us : List Token) : Prop := ∀ before,
    PathStart (leading ++ first.name ++ first.arguments) before →
      PathStart p.tokens (before ++ us) ∧ p.qualified = false
  refine (Spends.loop (Q := Extends) Extends (fun p f => ?_) ?_).mono ?_
  · refine Spends.ahead (Spends.ite (fun _ => ?_) fun _ => ?_)
    · refine Spends.bind_pure (Q := fun q _ => ∃ colons s,
        lexemes colons = lexemes (Generated.operator "::") ∧ q = p.add colons s) ?_ ?_
      · refine spends_of_gives ((gives_operator "::").bind fun colons _ hcolons => ?_)
        exact Gives.then_ fun s _ => Gives.pure ⟨colons, s, hcolons, rfl⟩
      · rintro _ vs ⟨colons, s, hcolons, rfl⟩ us hus before hbefore
        obtain ⟨hstart, hqualified⟩ := hus before hbefore
        refine ⟨?_, hqualified⟩
        have hmore := hstart.append hcolons (s.name ++ s.arguments) vs
        simpa [Path.add, Path.tokens] using hmore
    · exact Spends.pure fun us hus => by simpa using hus
  · intro before hbefore
    exact ⟨by simpa [Path.tokens] using hbefore, rfl⟩
  · intro p us hus vs hvs ws hws
    simpa using hus _ (hvs.pathStart hws)

/-- A path with a self type shows it, and any other begins like a path. -/
theorem finds_qualifiedPath {style : Bool} {p : Path}
    (h : Finds (qualifiedPath ph style) ts rest p) :
    p.qualified = false ∧ PathStart p.tokens ts
      ∨ p.qualified = true ∧ QualifiedStart ph p.tokens ts := by
  have h := h.ahead
  split at h
  · obtain ⟨self, us, vs, rfl, hself, h₁⟩ := h.bind
    obtain ⟨trait, ws, vs, rfl, htrait, h₂⟩ := h₁.bind
    obtain ⟨closing, cs, vs, rfl, hclosing, h₃⟩ := h₂.bind
    obtain ⟨hqualified, more, htokens⟩ := h₃.gives fun _ => gives_qualifiedSegments style _
    obtain ⟨o, os, us, rfl, hopening, hself₁⟩ := hself.bind
    obtain ⟨others, rfl, hself₂⟩ := hself₁.bind_pure
    obtain ⟨type, rfl, htype⟩ := hself₂.bind_pure
    obtain ⟨span, rfl⟩ := hopening.gives fun _ => gives_mark '<' rfl
    obtain ⟨spacing, first, rfl⟩ := hopening.spends fun _ => spends_mark '<' rfl
    obtain ⟨span', rfl⟩ := hclosing.gives fun _ => gives_mark '>' rfl
    obtain ⟨spacing', last, rfl⟩ := hclosing.spends fun _ => spends_mark '>' rfl
    refine .inr ⟨hqualified, spacing, first, span, us, ws ++ ⟨.punct '>' spacing', last⟩ :: vs, _,
      type, trait ++ ⟨.punct '>' .alone, span'⟩ :: more, ?_, ?_, htype, ?_⟩
    · simp
    · simpa using htokens
    · have htrait := htrait.ahead
      split at htrait
      · obtain ⟨as, _, _, -, has, htrait₁⟩ := htrait.bind
        obtain ⟨p, rfl, -⟩ := htrait₁.bind_pure
        obtain ⟨place, rfl⟩ := has.gives fun _ => gives_keyword "as"
        exact .inr rfl
      · obtain ⟨rfl, rfl⟩ := htrait.pure
        exact .inl ⟨rfl, rfl⟩
  · exact .inl (h.spends fun _ => (spends_path style).mono fun _ _ h => h.symm)

/-- What a type consists of that begins with a path, perhaps after lifetimes. -/
inductive PathType (lifetimes : List Token) (p : Path) : Fragment → List Token → Prop
  | qualified {us : List Token} (h : p.qualified = true) :
    PathType lifetimes p ⟨lifetimes ++ p.tokens, .plain⟩ us
  | call {us vs : List Token} (hp : p.qualified = false) (hbang : isOp "!" vs = true) :
    PathType lifetimes p ⟨p.tokens ++ vs, .plain⟩ us
  | sum {us vs : List Token} {shape : Shape} (hp : p.qualified = false)
    (h : vs = [] ∧ lifetimes ≠ [] ∧ shape = .soleBound (lifetimes ++ p.tokens)
      ∨ isOp "+" vs = true ∧ shape = .plain) :
    PathType lifetimes p ⟨lifetimes ++ p.tokens ++ vs, shape⟩ us
  | alone (hp : p.qualified = false) (h : lifetimes = []) :
    PathType lifetimes p ⟨p.tokens, p.shape⟩ []

/-- Lifetimes without bounds after the path make it a bound alone. -/
theorem PathType.of_bounds {lifetimes others us : List Token} {p : Path}
    (hp : p.qualified = false) (h : others = [] ∧ lifetimes ≠ [] ∨ isOp "+" others = true) :
    PathType lifetimes p ⟨lifetimes ++ p.tokens ++ others,
      if others.isEmpty then .soleBound (lifetimes ++ p.tokens) else .plain⟩ us := by
  refine .sum hp ?_
  rcases h with ⟨rfl, hlifetimes⟩ | hplus
  · exact .inl ⟨rfl, hlifetimes, rfl⟩
  · refine .inr ⟨hplus, if_neg ?_⟩
    intro hempty
    rw [List.isEmpty_iff.1 hempty] at hplus
    simp at hplus

theorem finds_pathType {plus : Bool} {lifetimes : List Token} {f : Fragment}
    (h : Finds (pathType ph plus lifetimes) ts rest f) :
    ∃ p us vs, ts = us ++ vs ∧ Finds (qualifiedPath ph false) us (vs ++ rest) p
      ∧ PathType lifetimes p f vs := by
  obtain ⟨p, us, vs, rfl, hpath, h₁⟩ := h.bind
  refine ⟨p, us, vs, rfl, hpath, ?_⟩
  have h₂ := h₁.ahead
  split at h₂
  · next hqualified =>
    obtain ⟨rfl, rfl⟩ := h₂.pure
    exact .qualified hqualified
  · next hqualified =>
    have hplain : p.qualified = false := by simpa using hqualified
    split at h₂
    · obtain ⟨more, rfl, hmore⟩ := h₂.bind_pure
      refine .call hplain (hmore.gives (Q := (isOp "!" · = true)) fun d => ?_)
      refine (gives_operator "!").bind fun bang _ hbang => Gives.then_ fun _ _ => Gives.pure ?_
      exact isOp_append (by decide) hbang _
    · split at h₂
      · next hsum =>
        split at h₂
        · obtain ⟨others, rfl, hothers⟩ := h₂.bind_pure
          obtain ⟨limit, hread⟩ := hothers.read
          refine .of_bounds hplain ((gives_pathBounds _ _ hread).imp_left ?_)
          rintro ⟨hnone, hplus⟩
          have hplus : isOp "+" (vs ++ rest) = false := hplus
          rw [hplus] at hsum
          exact ⟨hnone, by simpa using hsum⟩
        · next hplus =>
          rw [pure_bind] at h₂
          obtain ⟨rfl, rfl⟩ := h₂.pure
          exact .of_bounds hplain (.inl ⟨rfl, by simpa [hplus] using hsum⟩)
      · next hsum =>
        obtain ⟨rfl, rfl⟩ := h₂.pure
        refine .alone hplain ?_
        simp only [Bool.or_eq_true, not_or] at hsum
        simpa using hsum.1

end

end Memberwise.Parser
