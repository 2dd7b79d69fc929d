import Memberwise.Grammar.Phrases
import Memberwise.Proofs.Reemission

/-!
# Phrases are whole trees

Whatever is read of a stream is whole trees of it, groups and single tokens, from the front on. This
holds of each terminal, is kept by every way in which parsers are put together, and so holds of each
parser of the grammar and of the reader that ties them together. What a parser makes of the tokens is
not said here, so nothing has to be known of it but its shape: the rules are instances of a class, and
the shape of a parser finds the rules it needs.

## Main definitions

* `Passes`: a parser reads whole trees

## Main statements

* `passes_body`: a phrase, if the phrases in it are whole trees
* `passes_phrases`: any phrase
-/

namespace Memberwise

/-- The first tree of a closed stream is whole. -/
theorem Closed.whole_splitTree {ts : List Token} (h : Closed ts) : Whole (splitTree ts).1 := by
  cases ts with
  | nil => exact .nil
  | cons t rest =>
    obtain ⟨l, span⟩ := t
    cases l with
    | opening d =>
      obtain ⟨content, last, after, -, hwhole, hsplit⟩ := h.splitTree_opening
      rw [hsplit]
      exact hwhole.group d span last
    | closing d => exact .nil
    | ident | literal => exact .leaf _ (by simp) rfl
    | punct char spacing =>
      have hpunct : Whole [⟨.punct char spacing, span⟩] := .leaf _ (by simp) rfl
      simp only [splitTree]
      split
      · next h => cases h
      · next h => cases h
      -- Only an apostrophe takes the word after it along.
      · split
        · next name after =>
          split
          · next hident =>
            obtain ⟨word, span⟩ := name
            cases word with
            | ident word => exact hpunct.append (.leaf ⟨.ident word, span⟩ (by simp) rfl)
            | punct | literal | opening | closing => cases hident
          · exact hpunct
        · exact hpunct
      · exact hpunct

namespace Parser

/-- If nothing is left over, a group and what follows it are read one after the other. -/
theorem bracketedThen_eq_ok {α β : Type} {d : Delimiter} {p : Parser α}
    {next : Token → α → Token → Parser β} {c c' : Cursor} {b : β}
    (h : bracketedThen d p next c = .ok (b, c')) (hleft : c'.leftover = none) :
    (bracketed d p >>= fun r => next r.1 r.2.1 r.2.2) c = .ok (b, c') := by
  obtain ⟨ts, left, limit⟩ := c
  simp only [bracketed, bracketedThen, bind_apply, ahead_apply] at h ⊢
  cases ts with
  | nil => cases h
  | cons t us =>
    simp only [ite_apply] at h ⊢
    split at h
    · next hopening =>
      rw [if_pos hopening]
      simp only [bind_apply, take_apply, get_apply, set_apply, remember_apply, pure_apply,
        List.drop_succ_cons, List.drop_zero] at h ⊢
      cases hp : p ⟨us, left, limit⟩ with
      | error e => simp [hp] at h
      | ok r =>
        rw [hp] at h
        dsimp only at h ⊢
        split at h
        · next b e hnext =>
          cases h
          -- Nothing is left in the group, so what follows starts in the same place.
          obtain ⟨-, hin⟩ := Option.or_eq_none_iff.1 hleft
          simp only [hin, Option.or_none]
          exact hnext
        · cases h
    · cases h

/-- The parser reads whole trees at the front of the stream, whatever it makes of them. -/
class Passes {α : Type} (p : Parser α) : Prop where
  spends : ∀ c, Spends c p fun _ _ => True

/-- A word is read where it comes next. -/
theorem spends_take_isWord {text : String} {c : Cursor} (h : isWord text c.tokens = true) :
    Spends c (take 1) fun _ _ => True := by
  obtain ⟨span, rest, htokens⟩ := isWord_iff.1 h
  exact (spends_take_word htokens).mono fun _ _ _ => trivial

/-- An operator may be read as it is. -/
theorem spends_take_isOp {text : String} {c : Cursor} (h : isOp text c.tokens = true) :
    Spends c (take text.length) fun _ _ => True := by
  rintro _ _ ⟨⟩ hleft
  exact ⟨hleft, fun _ => ⟨rfl, _, (List.take_append_drop _ _).symm, (isOp_split h).2, trivial⟩⟩

/-- The first tree is read, if there is one. -/
theorem spends_take_splitTree {c : Cursor} :
    Spends c (take (splitTree c.tokens).1.length) fun a ts => a = ts := by
  rintro _ _ ⟨⟩ hleft
  refine ⟨hleft, fun hclosed => ⟨rfl, (splitTree c.tokens).1, ?_, hclosed.whole_splitTree,
    take_splitTree _⟩⟩
  exact (List.take_append_drop _ _).symm.trans (by rw [take_splitTree])

namespace Passes

variable {α β σ τ : Type}

theorem of_spends {p : Parser α} {Q : α → List Token → Prop} (h : ∀ c, Spends c p Q) :
    Passes p :=
  ⟨fun c => (h c).mono fun _ _ _ => trivial⟩

theorem of_ne_ok {p : Parser α} (h : ∀ c r, p c ≠ .ok r) : Passes p :=
  ⟨fun c _ _ hp => absurd hp (h c _)⟩

/-- A parser that leaves the stream as it is reads no tree. -/
theorem of_stays {p : Parser α} (h : ∀ c a d, p c = .ok (a, d) → d = c) : Passes p := by
  refine ⟨fun c a d hp hleft => ?_⟩
  obtain rfl := h c a d hp
  exact ⟨hleft, fun _ => ⟨rfl, [], rfl, .nil, trivial⟩⟩

/-! ## Sequence and choice -/

instance pure (a : α) : Passes (pure a) := ⟨fun _ => Spends.pure trivial⟩

instance bind (p : Parser α) (f : α → Parser β) [Passes p] [∀ a, Passes (f a)] :
    Passes (p >>= f) :=
  ⟨fun c => (spends c).bind fun _ d => (spends d).mono fun _ _ _ _ _ => trivial⟩

/-- A pair is taken apart by what follows. -/
instance (priority := high) bind_pair (p : Parser (α × β)) (f : α × β → Parser σ) [Passes p]
    [∀ a b, Passes (f (a, b))] : Passes (p >>= f) :=
  have _ (r : α × β) : Passes (f r) := inferInstanceAs (Passes (f (r.1, r.2)))
  bind p f

/-- So are three parts, or four. -/
instance (priority := high) bind_triple (p : Parser (α × β × σ)) (f : α × β × σ → Parser τ)
    [Passes p] [∀ a b c, Passes (f (a, b, c))] : Passes (p >>= f) :=
  have _ (r : α × β × σ) : Passes (f r) := inferInstanceAs (Passes (f (r.1, r.2.1, r.2.2)))
  bind p f

/-- What may be missing is taken apart where nothing else helps. -/
instance (priority := low) bind_option (p : Parser (Option α)) (f : Option α → Parser β) [Passes p]
    [∀ a, Passes (f (some a))] [Passes (f none)] : Passes (p >>= f) :=
  have _ (r : Option α) : Passes (f r) := by cases r <;> infer_instance
  bind p f

instance map (f : α → β) (p : Parser α) [Passes p] : Passes (f <$> p) :=
  ⟨fun c => Spends.map (spends c) fun _ _ _ => trivial⟩

instance ite (b : Prop) [Decidable b] (p q : Parser α) [Passes p] [Passes q] :
    Passes (if b then p else q) := by
  split <;> infer_instance

theorem bind_of {p : Parser α} {f : α → Parser β} [Passes p] (hf : ∀ a, Passes (f a)) :
    Passes (p >>= f) := bind p f

/-- What follows a parser that reads whole trees here. -/
theorem after {p : Parser α} {f : α → Parser β} {c : Cursor} (hp : Spends c p fun _ _ => True)
    [∀ a, Passes (f a)] : Spends c (p >>= f) fun _ _ => True :=
  hp.bind fun _ d => (spends d).mono fun _ _ _ _ _ => trivial

/-- A choice may tell how its first branch goes on. -/
theorem ite_of {b : Prop} [Decidable b] {p q : Parser α} {c : Cursor}
    (hp : b → Spends c p fun _ _ => True) [Passes q] :
    Spends c (if b then p else q) fun _ _ => True :=
  Spends.ite hp fun _ => spends c

/-- What follows a parser may start where it has ended, in a stream that is looked at. -/
theorem resume {p : Parser α} {q : Parser β} {c d : Cursor} {a : α} [Passes p] [Passes q]
    (h : p c = .ok (a, d)) : Spends c (set d >>= fun _ => q) fun _ _ => True := by
  intro b c' hq hleft
  have hboth : (p >>= fun _ => q) c = .ok (b, c') := by
    rw [bind_apply, h]
    exact hq
  exact spends c b c' hboth hleft

/-! ## Looking and failing -/

instance get : Passes (MonadState.get : Parser Cursor) := of_stays (by rintro _ _ _ ⟨⟩; rfl)

instance ahead : Passes ahead := of_stays (by rintro _ _ _ ⟨⟩; rfl)

instance here : Passes here := of_stays (by rintro _ _ _ ⟨⟩; rfl)

instance ended : Passes ended := of_stays (by rintro _ _ _ ⟨⟩; rfl)

instance reject (cause : Cause) : Passes (reject cause : Parser α) :=
  of_ne_ok fun _ _ h => by cases h

instance rejectAt (cause : Cause) (span : Span) : Passes (rejectAt cause span : Parser α) :=
  of_ne_ok fun _ _ h => by cases h

instance throw (d : Diagnostic) : Passes (throw d : Parser α) := of_ne_ok fun _ _ h => by cases h

instance expected (choices : List Terminal) : Passes (expected choices : Parser α) :=
  of_ne_ok (expected_ne_ok choices)

instance expectedAt (ts : List Token) (choices : List Terminal) :
    Passes (expectedAt ts choices : Parser α) := by
  refine of_ne_ok fun c r h => ?_
  obtain ⟨_, _, -, h⟩ := bind_eq_ok.1 h
  obtain ⟨_, _, -, h⟩ := bind_eq_ok.1 h
  exact expected_ne_ok _ _ _ h

instance lift (r : Except Diagnostic α) : Passes (liftM r : Parser α) := by
  cases r with
  | ok a => exact pure a
  | error d => exact throw d

/-! ## Terminals -/

instance operator (text : String) : Passes (operator text) := of_spends fun _ => spends_operator text

instance keyword (text : String) : Passes (keyword text) := of_spends fun _ => spends_keyword text

instance operator? (text : String) : Passes (operator? text) := by
  unfold Parser.operator?
  infer_instance

instance keyword? (text : String) : Passes (keyword? text) :=
  ⟨fun _ => Spends.ahead (Spends.ite spends_take_isWord fun _ => Spends.pure trivial)⟩

instance anyWord : Passes anyWord := of_spends fun _ => spends_anyWord

instance identifier : Passes identifier := of_spends fun _ => spends_identifier

instance lifetime : Passes lifetime := of_spends fun _ => spends_lifetime

instance name : Passes name := of_spends fun _ => spends_name

instance anyName : Passes anyName := of_spends fun _ => spends_anyName

instance literal : Passes literal := of_spends fun _ => spends_literal

instance anyGroup : Passes anyGroup := of_spends fun _ => spends_anyGroup

instance modPath : Passes modPath := of_spends fun _ => spends_modPath

instance visibility : Passes visibility := of_spends fun _ => spends_visibility

/-! ## Groups -/

instance bracketed (d : Delimiter) (p : Parser α) [Passes p] : Passes (bracketed d p) :=
  of_spends fun _ => Spends.bracketed spends

theorem bracketedThen_of {d : Delimiter} {p : Parser α} {next : Token → α → Token → Parser β}
    [Passes p] (hnext : ∀ opening a closing, Passes (next opening a closing)) :
    Passes (bracketedThen d p next) := by
  refine ⟨fun c b c' h hleft => ?_⟩
  have hboth : Passes (Parser.bracketed d p >>= fun r => next r.1 r.2.1 r.2.2) := inferInstance
  exact hboth.spends c b c' (bracketedThen_eq_ok h hleft) hleft

instance bracketedThen (d : Delimiter) (p : Parser α) (next : Token → α → Token → Parser β)
    [Passes p] [∀ opening a closing, Passes (next opening a closing)] :
    Passes (bracketedThen d p next) := bracketedThen_of inferInstance

instance group (d : Delimiter) (p : Parser (List Token)) [Passes p] : Passes (group d p) := by
  unfold Parser.group
  infer_instance

instance inside (d : Delimiter) (p : Parser α) [Passes p] : Passes (inside d p) := by
  unfold Parser.inside
  infer_instance

/-! ## Repetition -/

instance seq_nil : Passes (seq []) := pure _

instance seq_cons (p : Parser (List Token)) (ps : List (Parser (List Token))) [Passes p]
    [Passes (seq ps)] : Passes (seq (p :: ps)) := by
  unfold seq
  infer_instance

instance when? (test : List Token → Bool) (p : Parser (List Token)) [Passes p] :
    Passes (when? test p) := by
  unfold Parser.when?
  infer_instance

theorem loop_of {step : σ → Parser (σ ⊕ α)} {s : σ} (hstep : ∀ s, Passes (step s)) :
    Passes (loop step s) := by
  refine ⟨fun c => Spends.loop (fun _ _ => True) (fun s d => ?_) trivial⟩
  refine (spends d).mono fun r _ _ _ _ => ?_
  cases r <;> trivial

instance loop (step : σ → Parser (σ ⊕ α)) (s : σ) [∀ s, Passes (step s)] :
    Passes (loop step s) := loop_of inferInstance

/-- The state of a loop may be a pair. -/
instance (priority := high) loop_pair (step : σ × τ → Parser (σ × τ ⊕ α)) (s : σ × τ)
    [∀ a b, Passes (step (a, b))] : Passes (Parser.loop step s) :=
  have _ (r : σ × τ) : Passes (step r) := inferInstanceAs (Passes (step (r.1, r.2)))
  loop step s

instance repeatUntil (stop : List Token → Bool) (p : Parser α) [Passes p] :
    Passes (repeatUntil stop p) := by
  unfold Parser.repeatUntil
  infer_instance

instance concatUntil (stop : List Token → Bool) (p : Parser (List Token)) [Passes p] :
    Passes (concatUntil stop p) := by
  unfold Parser.concatUntil
  infer_instance

instance separated (stop : List Token → Bool) (text : String) (p : Parser α) [Passes p] :
    Passes (separated stop text p) := by
  unfold Parser.separated
  infer_instance

instance joined (stop : List Token → Bool) (text : String) (p : Parser α) [Passes p] :
    Passes (joined stop text p) := by
  unfold Parser.joined
  infer_instance

instance commaSeparated (p : Parser (List Token)) [Passes p] : Passes (commaSeparated p) := by
  unfold Parser.commaSeparated
  infer_instance

instance remaining : Passes remaining :=
  have _ : Passes (do take (splitTree (← Parser.ahead)).1.length) :=
    ⟨fun _ => Spends.ahead (spends_take_splitTree.mono fun _ _ _ => trivial)⟩
  concatUntil _ _

instance since (before : List Token) : Passes (since before) := by
  unfold Parser.since
  infer_instance

instance verbatim (p : Parser α) [Passes p] : Passes (verbatim p) := by
  unfold Parser.verbatim
  infer_instance

end Passes

section Grammar

-- A rule counts once for each step that it is nested in, so long parsers need many.
set_option synthInstance.maxSize 2000

variable (ph : Phrases) [∀ phrase, Passes (ph phrase)]

instance (phrase : Phrase) : Passes (ph.tokens phrase) := by unfold Phrases.tokens; infer_instance

instance : Passes (attributeContent ph) := by
  unfold attributeContent
  refine Passes.bind_of fun ts => ?_
  split
  · refine Passes.bind_of fun group => ?_
    split <;> infer_instance
  · infer_instance

instance : Passes (do
    let path ← if isWord "unsafe" (← ahead) then take 1 else modPath
    return (path, ← attributeContent ph)) :=
  ⟨fun _ => Spends.ahead (Passes.ite_of fun h => Passes.after (spends_take_isWord h))⟩

instance (inner : Bool) (start : Span) : Passes (attributeBody ph inner start) := by
  unfold attributeBody
  infer_instance

instance : Passes (outerAttribute ph) := by unfold outerAttribute; infer_instance

instance : Passes (innerAttribute ph) := by unfold innerAttribute; infer_instance

instance : Passes (outerAttributes ph) := by unfold outerAttributes; infer_instance

instance : Passes (innerAttributes ph) := by unfold innerAttributes; infer_instance

instance : Passes (outer ph) := by unfold outer; infer_instance

instance : Passes (inner ph) := by unfold inner; infer_instance

/-! ## Parameters and where clauses -/

omit [∀ phrase, Passes (ph phrase)] in
instance (stop : List Token → Bool) (item : Parser (List Token)) [Passes item] :
    Passes (bounds stop item) := by
  unfold bounds
  infer_instance

instance : Passes lifetimeParam := by unfold lifetimeParam; infer_instance

instance : Passes (typeParam ph) := by unfold typeParam; infer_instance

instance : Passes (attributedBlock ph) := by unfold attributedBlock; infer_instance

instance : Passes (constArgument ph) := by unfold constArgument; infer_instance

instance : Passes (constParam ph) := by unfold constParam; infer_instance

instance : Passes (declaredParam ph) := by unfold declaredParam; infer_instance

instance : Passes (boundParam ph) := by unfold boundParam; infer_instance

instance : Passes (generics ph) := by unfold generics; infer_instance

instance : Passes (binderParts ph) := by unfold binderParts; infer_instance

instance : Passes (binder ph) := by unfold binder; infer_instance

instance : Passes (binder? ph) := by unfold binder?; infer_instance

instance : Passes (predicate ph) := by unfold predicate; infer_instance

instance : Passes (whereClause ph) := by unfold whereClause; infer_instance

instance : Passes (whereClause? ph) := by unfold whereClause?; infer_instance

/-! ## Paths -/

instance : Passes (genericArgument ph) := by unfold genericArgument; infer_instance

instance : Passes (genericArguments ph) := by unfold genericArguments; infer_instance

instance : Passes (turbofish ph) := by unfold turbofish; infer_instance

instance (plus : Bool) : Passes (returnType ph plus) := by unfold returnType; infer_instance

instance (style : Bool) : Passes (segment ph style) := by
  refine ⟨fun c => Spends.ahead (Spends.ite (fun h => ?_) fun _ =>
    Passes.ite_of fun h => Passes.after (spends_take_isWord h))⟩
  simp only [Bool.or_eq_true] at h
  obtain ((h | h) | h) | h := h <;> exact Passes.after (spends_take_isWord h)

instance (style : Bool) (p : Path) : Passes (addSegment ph style p) := by
  unfold addSegment
  infer_instance

instance (style : Bool) : Passes (path ph style) := by unfold path; infer_instance

instance (style : Bool) : Passes (qualifiedPath ph style) := by unfold qualifiedPath; infer_instance

instance : Passes (traitPath ph) := by unfold traitPath; infer_instance

/-! ## Types -/

instance (allowed : Bool) : Passes (constModifier allowed) := by
  unfold constModifier
  infer_instance

instance (const : Bool) : Passes (traitBound ph const) := by unfold traitBound; infer_instance

instance : Passes capturedParam := by unfold capturedParam; infer_instance

instance : Passes preciseCapture := by unfold preciseCapture; infer_instance

instance (capture const : Bool) : Passes (bound ph capture const) := by unfold bound; infer_instance

instance (plus capture const : Bool) : Passes (sumOfBounds ph plus capture const) := by
  unfold sumOfBounds
  infer_instance

instance (plus capture const : Bool) (cause : Cause) (start : Span) :
    Passes (boundsWithTrait ph plus capture const cause start) := by
  refine Passes.bind_of fun (tokens, shapes) => ?_
  dsimp only
  split
  · infer_instance
  · split <;> infer_instance

instance : Passes (moreBounds ph) := by unfold moreBounds; infer_instance

instance : Passes (parenthesisedContent ph) := by unfold parenthesisedContent; infer_instance

instance (plus : Bool) : Passes (parenthesisedType ph plus) := by
  refine Passes.bracketedThen_of fun opening (content, sum) closing => ?_
  dsimp only
  split <;> infer_instance

instance (plus : Bool) (lifetimes : List Token) : Passes (pathType ph plus lifetimes) := by
  unfold pathType
  infer_instance

instance : Passes variadicArgument := by unfold variadicArgument; infer_instance

instance (first : Bool) : Passes (functionTypeArgument ph first) := by
  unfold functionTypeArgument
  infer_instance

instance : Passes (functionTypeArguments ph) := by unfold functionTypeArguments; infer_instance

instance : Passes abi? := by unfold abi?; infer_instance

instance : Passes (functionType ph) := by unfold functionType; infer_instance

instance : Passes builtin := by unfold builtin; infer_instance

instance : Passes (pointerType ph) := by
  refine Passes.bind_of fun star => ⟨fun c => Spends.ahead (Passes.ite_of fun h => ?_)⟩
  simp only [Bool.or_eq_true] at h
  obtain h | h := h <;> exact Passes.after (spends_take_isWord h)

instance : Passes (bracketType ph) := by unfold bracketType; infer_instance

instance (plus : Bool) : Passes (traitObject ph plus) := by unfold traitObject; infer_instance

instance (plus : Bool) : Passes (type ph plus) := by unfold type; infer_instance

/-! ## Patterns -/

instance : Passes fieldNumber := by
  refine Passes.bind_of fun ts => ?_
  split <;> infer_instance

instance : Passes member := by unfold member; infer_instance

instance : Passes rangeOperator := by unfold rangeOperator; infer_instance

instance : Passes patternRangeOperator :=
  ⟨fun _ => Spends.ahead (Passes.ite_of fun h => Passes.after (spends_take_isOp h))⟩

instance : Passes (constBlock ph) := by unfold constBlock; infer_instance

instance : Passes (patternRangeEnd ph) := by unfold patternRangeEnd; infer_instance

instance (first : List Token) : Passes (patternRange ph first) := by
  unfold patternRange
  infer_instance

instance : Passes (openPatternRange ph) := by unfold openPatternRange; infer_instance

instance : Passes (namePattern ph) :=
  Passes.bind_of fun _ =>
    ⟨fun _ => Spends.ahead (Passes.ite_of fun h => Passes.after (spends_take_isWord h))⟩

instance : Passes (fieldPattern ph) := by unfold fieldPattern; infer_instance

instance : Passes (fieldPatterns ph) := by unfold fieldPatterns; infer_instance

instance : Passes (pathPattern ph) := by unfold pathPattern; infer_instance

instance : Passes (slicePart ph) := by
  refine Passes.bind_of fun part => ?_
  split <;> infer_instance

instance : Passes (pattern ph) := by unfold pattern; infer_instance

instance : Passes (alternatives ph) := by unfold alternatives; infer_instance

/-! ## Expressions -/

instance : Passes (block ph) := by unfold block; infer_instance

instance : Passes (ifExpression ph) := by unfold ifExpression; infer_instance

instance : Passes (matchArm ph) := by unfold matchArm; infer_instance

instance : Passes (matchArms ph) := by unfold matchArms; infer_instance

instance : Passes (forExpression ph) := by unfold forExpression; infer_instance

instance : Passes (whileExpression ph) := by unfold whileExpression; infer_instance

instance : Passes (labelledExpression ph) := by unfold labelledExpression; infer_instance

instance (allowed : Bool) : Passes (optionalExpression ph allowed) := by
  unfold optionalExpression
  infer_instance

instance (braces : Bool) (precedence : Precedence) : Passes (operandAfter ph braces precedence) := by
  unfold operandAfter
  infer_instance

instance (braces : Bool) : Passes (rangeAfter ph braces) := by unfold rangeAfter; infer_instance

instance : Passes (closureParam ph) := by unfold closureParam; infer_instance

instance (braces : Bool) : Passes (closure ph braces) := by unfold closure; infer_instance

instance : Passes (fieldValue ph) := by unfold fieldValue; infer_instance

instance : Passes (fieldValues ph) := by unfold fieldValues; infer_instance

instance (braces : Bool) : Passes (pathExpression ph braces) := by
  unfold pathExpression
  infer_instance

instance : Passes (arrayExpression ph) := by unfold arrayExpression; infer_instance

instance (braces : Bool) : Passes (breakExpression ph braces) := by
  unfold breakExpression
  infer_instance

instance (braces : Bool) : Passes (letExpression ph braces) := by
  unfold letExpression
  infer_instance

omit [∀ phrase, Passes (ph phrase)] in
theorem Passes.of_choice {b : Prop} [Decidable b] {p q : Parser (List Token)}
    {r : Option (Parser (List Token))} [Passes q] (hr : r = some p → Passes p)
    (h : (if b then some q else r) = some p) : Passes p := by
  split at h
  · cases h
    infer_instance
  · exact hr h

theorem passes_blockLike {ts : List Token} {p : Parser (List Token)} :
    blockLike? ph ts = some p → Passes p := by
  unfold blockLike?
  iterate 10 refine Passes.of_choice ?_
  nofun

instance (braces : Bool) : Passes (atom ph braces) := by
  refine Passes.bind_of fun ts => @Passes.ite _ _ _ _ _ inferInstance
    (@Passes.ite _ _ _ _ _ inferInstance ?_)
  cases hp : blockLike? ph ts with
  | some p =>
    have := passes_blockLike ph hp
    infer_instance
  | none => infer_instance

instance : Passes (afterDot ph) := by unfold afterDot; infer_instance

instance : Passes (dotted ph) := by unfold dotted; infer_instance

instance (first : Fragment) : Passes (trailers ph first) := by unfold trailers; infer_instance

instance (braces : Bool) : Passes (referenceExpression ph braces) := by
  unfold referenceExpression
  infer_instance

instance (braces : Bool) : Passes (operand ph braces) := by unfold operand; infer_instance

instance (left : Shape) (base : Precedence) (braces : Bool) :
    Passes (operators ph left base braces) := by
  refine Passes.loop_of fun e => Passes.bind_of fun ts => ?_
  split
  · infer_instance
  · split
    · infer_instance
    · split
      · infer_instance
      · split
        · infer_instance
        · split
          · refine Passes.bind_of fun cast => Passes.bind_of fun us => ?_
            split <;> infer_instance
          · infer_instance

instance (braces : Bool) : Passes (expression ph braces) := by unfold expression; infer_instance

instance (attributes : List Token) (statement : Bool) :
    Passes (expressionAfter ph attributes statement) := by
  refine Passes.bind_of fun ts => ?_
  split
  · next p hp =>
    have := passes_blockLike ph hp
    infer_instance
  · infer_instance

instance : Passes (statementExpression ph) := by unfold statementExpression; infer_instance

/-! ## Definitions -/

instance : Passes (namedField ph) := by unfold namedField; infer_instance

instance : Passes (positionalField ph) := by unfold positionalField; infer_instance

instance : Passes (namedFields ph) := by unfold namedFields; infer_instance

instance : Passes (positionalFields ph) := by unfold positionalFields; infer_instance

instance : Passes (variant ph) := by unfold variant; infer_instance

instance : Passes (structBody ph) := by unfold structBody; infer_instance

instance : Passes (enumBody ph) := by unfold enumBody; infer_instance

instance : Passes (unionBody ph) := by unfold unionBody; infer_instance

instance (text : String) : Passes (itemKeyword text) := by unfold itemKeyword; infer_instance

instance (attributes : List Attribute) : Passes (structItem ph attributes) := by
  unfold structItem
  infer_instance

instance (attributes : List Attribute) : Passes (enumItem ph attributes) := by
  unfold enumItem
  infer_instance

instance (attributes : List Attribute) : Passes (unionItem ph attributes) := by
  unfold unionItem
  infer_instance

instance (attributes : List Attribute) : Passes (definition ph attributes) := by
  unfold definition
  infer_instance

instance : Passes (derivedDefinition ph) := by unfold derivedDefinition; infer_instance

instance : Passes (attributedStruct ph) := by unfold attributedStruct; infer_instance

/-! ## Items -/

instance : Passes (receiver ph) := by unfold receiver; infer_instance

instance : Passes trailingComma := by unfold trailingComma; infer_instance

instance (attributes : List Attribute) : Passes (typedArgument ph attributes) := by
  unfold typedArgument
  infer_instance

/-- What follows the attributes of an argument. -/
instance (read : List Argument) (attributes : List Attribute) : Passes (do
    if isOp "..." (← ahead) then
      let _ ← operator "..."
      return Argument.variadic attributes []
    else
      let self? := match receiver ph (← get) with
        | .ok (result, after) => if isOp "::" after.tokens then none else some (result, after)
        | .error _ => none
      match self? with
      | some ((tokens, place), after) =>
        set after
        if read.any Argument.isReceiver then rejectAt .secondReceiver place
        else if !read.isEmpty then rejectAt .lateReceiver place
        else return .receiver attributes tokens
      | none => typedArgument ph attributes) := by
  refine Passes.bind_of fun ts => ?_
  split
  · infer_instance
  · refine ⟨fun c => ?_⟩
    change Spends c (match (match receiver ph c with
      | .ok (result, after) => if isOp "::" after.tokens then none else some (result, after)
      | .error _ => none) with
    | some ((tokens, place), after) => do
      set after
      if read.any Argument.isReceiver then rejectAt .secondReceiver place
      else if !read.isEmpty then rejectAt .lateReceiver place
      else return .receiver attributes tokens
    | none => typedArgument ph attributes) fun _ _ => True
    cases hself : receiver ph c with
    | error e => exact Passes.spends c
    | ok r =>
      obtain ⟨⟨tokens, place⟩, after⟩ := r
      by_cases hcolons : isOp "::" after.tokens
      · simp only [hcolons, if_true]
        exact Passes.spends c
      · simp only [hcolons]
        exact Passes.resume hself

instance (read : List Argument) : Passes (functionArgument ph read) := by
  unfold functionArgument
  infer_instance

instance : Passes (functionArguments ph) := by unfold functionArguments; infer_instance

instance : Passes (signature ph) := by unfold signature; infer_instance

instance : Passes (functionBody ph) := by unfold functionBody; infer_instance

instance (default : Bool) (place : WherePlace) : Passes (typeItem ph default place) := by
  unfold typeItem
  infer_instance

instance (arguments : List Token) : Passes (callEnd arguments) := by unfold callEnd; infer_instance

instance : Passes innerMacroCall := by unfold innerMacroCall; infer_instance

instance : Passes constName := by unfold constName; infer_instance

instance : Passes (constBody ph) := by unfold constBody; infer_instance

instance : Passes (traitFunction ph) := by unfold traitFunction; infer_instance

instance : Passes (traitItem ph) := by unfold traitItem; infer_instance

instance : Passes (supertraits ph) := by unfold supertraits; infer_instance

instance (head : List Token) (params : Generics) : Passes (traitBody ph head params) := by
  unfold traitBody
  infer_instance

instance (attributes : List Token) : Passes (traitDefinition ph attributes) := by
  unfold traitDefinition
  infer_instance

instance (attributes : List Token) : Passes (traitOrSum ph attributes) := by
  unfold traitOrSum
  infer_instance

instance : Passes afterVisibility := by
  refine Passes.bind_of fun c => ?_
  split <;> infer_instance

instance (before attributes : List Token) : Passes (foreignFunction ph before attributes) := by
  unfold foreignFunction
  infer_instance

instance (before attributes : List Token) : Passes (foreignStatic ph before attributes) := by
  unfold foreignStatic
  infer_instance

instance : Passes (foreignItem ph) := by unfold foreignItem; infer_instance

instance (attributes : List Token) : Passes (foreignBlock ph attributes) := by
  unfold foreignBlock
  infer_instance

instance : Passes newName := by unfold newName; infer_instance

instance (rooted : Bool) : Passes (useTrees ph rooted) := by unfold useTrees; infer_instance

instance (rooted : Bool) : Passes (useTree ph rooted) := by unfold useTree; infer_instance

instance (before attributes : List Token) : Passes (useItem ph before attributes) := by
  unfold useItem
  infer_instance

instance (attributes : List Token) : Passes (externCrate attributes) := by
  unfold externCrate
  infer_instance

instance (attributes : List Attribute) : Passes (implFunction? ph attributes) := by
  unfold implFunction?
  infer_instance

instance (hasDefault : Bool) : Passes (implConst? ph hasDefault) := by
  unfold implConst?
  infer_instance

instance : Passes (implType? ph) := by unfold implType?; infer_instance

instance : Passes (implItem ph) := by unfold implItem; infer_instance

instance : Passes implConstness := by unfold implConstness; infer_instance

instance : Passes (implTarget ph) := by unfold implTarget; infer_instance

instance (attributes : List Attribute) : Passes (implementation? ph attributes) := by
  unfold implementation?
  infer_instance

instance (attributes : List Token) : Passes (moduleItem ph attributes) := by
  unfold moduleItem
  infer_instance

instance (before attributes : List Token) : Passes (functionItem ph before attributes) := by
  unfold functionItem
  infer_instance

instance (before attributes : List Token) : Passes (staticItem ph before attributes) := by
  unfold staticItem
  infer_instance

instance (before attributes : List Token) : Passes (constItem ph before attributes) := by
  unfold constItem
  infer_instance

instance (before attributes : List Token) : Passes (aliasItem ph before attributes) := by
  unfold aliasItem
  infer_instance

instance (attributes : List Token) : Passes (macroItem attributes) := by
  unfold macroItem
  infer_instance

instance (before : List Token) : Passes (macroDefinition before) := by
  unfold macroDefinition
  infer_instance

instance (before : List Token) (attributes : List Attribute) :
    Passes (implementationItem ph before attributes) := by
  unfold implementationItem
  infer_instance

instance (before : List Token) (attributes : List Attribute) :
    Passes (itemAfter ph before attributes) := by
  unfold itemAfter
  infer_instance

instance : Passes (item ph) := by unfold item; infer_instance

/-! ## Statements -/

instance : Passes (localVariable ph) := by unfold localVariable; infer_instance

instance : Passes afterModPath? := by
  refine Passes.bind_of fun c => ?_
  split <;> infer_instance

instance (attributes : List Token) : Passes (expressionStatement ph attributes) := by
  unfold expressionStatement
  infer_instance

instance : Passes (statement ph) := by unfold statement; infer_instance

instance : Passes (statements ph) := by unfold statements; infer_instance

end Grammar

/-! ## Phrases -/

/-- A phrase is whole trees if the phrases in it are. -/
theorem passes_body (ph : Phrases) [∀ phrase, Passes (ph phrase)] (phrase : Phrase) :
    Passes (ph.body phrase) := by
  cases phrase <;> unfold Phrases.body <;> infer_instance

/-- Any phrase is whole trees. -/
instance passes_phrases (phrase : Phrase) : Passes (phrases phrase) := by
  suffices general : ∀ bound phrase, Passes (phrasesUpTo bound phrase) from
    ⟨fun c a c' h => (general (c.tokens.length + 1) phrase).spends c a c' h⟩
  intro bound
  -- Induction on how deep phrases may contain each other.
  induction bound with
  | zero => exact fun phrase => Passes.of_ne_ok fun c r h => by cases h
  | succ bound ih =>
    refine fun phrase => ⟨fun c a c' h => ?_⟩
    have hbelow (inner : Phrase) :
        Passes (Phrases.below (phrasesUpTo bound) c.tokens.length inner) := by
      refine ⟨fun d a d' h hleft => ?_⟩
      unfold Phrases.below at h
      split at h
      · exact (ih inner).spends d a d' h hleft
      · cases h
    exact (passes_body _ phrase).spends c a c' h

end Parser

end Memberwise
