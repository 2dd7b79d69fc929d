import Memberwise.Proofs.Confined
import Memberwise.Proofs.Finds

/-!
# Groups are read by themselves

Whatever the grammar reads in a group it reads without regard to what comes after the group. So an
attribute, say, is read as it is wherever it stands, and what is written after it does not matter.

## Main statements

* `confined_body`: a phrase, if the phrases in it are read without regard to what comes after
* `confined_phrases`: any phrase
* `eq_ok_elsewhere`, `bracketed_elsewhere`: a group that is read in one place is read in another
-/

namespace Memberwise.Parser

section Grammar

-- A rule counts once for each step that it is nested in, so long parsers need many.
set_option synthInstance.maxSize 4000

variable {after after' : List Token} {around : Around after after'}

/-! ## Paths and visibility -/

instance : Confined around modPath modPath := by
  refine Confined.bind_of fun leading =>
    @Confined.bind _ _ _ _ _ _ _ _ _ (Confined.loop_of fun read => ?_) inferInstance
  refine Confined.ahead_test fun c d h hword => ?_
  obtain ⟨word, span, rest, htokens⟩ := isPathWord_eq_cons hword
  exact (h.take_word htokens).followed

instance : Confined around visibility visibility := by
  refine Confined.ahead_of fun ts us _ => Confined.test_of
    (Confined.bind_of fun _ => Confined.ahead_of fun vs ws hbeside => ?_) inferInstance
  dsimp only
  -- What is in the group is asked for only if there is one.
  rw [← Same.eq (a := isParen vs) (b := isParen ws)]
  cases hparen : isParen vs with
  | false =>
    simp only [Bool.false_and]
    infer_instance
  | true =>
    obtain ⟨first, rest, rfl⟩ := groupStarts_iff.1 hparen
    obtain ⟨content, last, more, hcontent, -, rfl, rfl⟩ := hbeside.group rfl
    have _ : Beside (around.inside .parenthesis last more)
        (content ++ (around.inside .parenthesis last more).before after)
        (content ++ (around.inside .parenthesis last more).before after') :=
      ⟨⟨content, hcontent⟩, rfl, rfl⟩
    simp only [List.drop_succ_cons, List.drop_zero]
    infer_instance

/-- The tokens after the visibility stand beside each other too. -/
theorem Confined.bind_afterVisibility {α : Type} {f g : Visibility × List Token → Parser α}
    (h : ∀ v ts us, Beside around ts us → Confined around (f (v, ts)) (g (v, us))) :
    Confined around (afterVisibility >>= f) (afterVisibility >>= g) := by
  refine ⟨fun c d hcd => ?_⟩
  have hvisible := (inferInstance : Confined around visibility visibility).outcome c d hcd
  simp only [afterVisibility, bind_apply, get_apply]
  generalize visibility c = x at hvisible ⊢
  generalize visibility d = y at hvisible ⊢
  cases hvisible with
  | ok hafter => exact (h _ _ _ hafter.tokens).outcome c d hcd
  | error => exact .error

instance (priority := high) afterVisibility_bind {α : Type} (f g : Visibility × List Token → Parser α)
    [h : ∀ v, ∀ trees : Trees, Confined around (f (v, trees.tokens ++ around.before after))
      (g (v, trees.tokens ++ around.before after'))] :
    Confined around (afterVisibility >>= f) (afterVisibility >>= g) := by
  refine Confined.bind_afterVisibility fun v ts us hbeside => ?_
  obtain ⟨trees, rfl, rfl⟩ := hbeside.split
  exact h v trees

instance (priority := high) {α : Type} (f g : Option (List Token) → Parser α)
    [hsome : ∀ trees : Trees, Confined around (f (some (trees.tokens ++ around.before after)))
      (g (some (trees.tokens ++ around.before after')))] [hnone : Confined around (f none) (g none)] :
    Confined around (afterModPath? >>= f) (afterModPath? >>= g) := by
  refine ⟨fun c d hcd => ?_⟩
  have hpath := (inferInstance : Confined around modPath modPath).outcome c d hcd
  simp only [afterModPath?, bind_apply, get_apply]
  generalize modPath c = x at hpath ⊢
  generalize modPath d = y at hpath ⊢
  cases hpath with
  | ok hafter =>
    obtain ⟨trees, hc, hd⟩ := hafter.tokens.split
    have := (hsome trees).outcome c d hcd
    rw [← hc, ← hd] at this
    exact this
  | error => exact hnone.outcome c d hcd

instance (f : List Token → Bool) (ts us : List Token) [h : Same (f ts) (f us)] :
    Same ((some ts).any f) ((some us).any f) := h

/-! ## Choices -/

/-- The next of several choices. -/
theorem confined_choice {a b : Bool} [h : Same a b] {p q : Parser (List Token)}
    [hpq : Confined around p q] {r s : Option (Parser (List Token))}
    (hrs : Option.Rel (Confined around) r s) :
    Option.Rel (Confined around) (if a then some p else r) (if b then some q else s) := by
  rw [h.eq]
  split
  · exact .some hpq
  · exact hrs

/-! ## Attributes -/

variable (ph ph' : Phrases)
  [∀ (around : Around after after') (phrase : Phrase), Confined around (ph phrase) (ph' phrase)]

instance (phrase : Phrase) : Confined around (ph.tokens phrase) (ph'.tokens phrase) := by
  unfold Phrases.tokens
  infer_instance

instance : Confined around (attributeContent ph) (attributeContent ph') := by
  refine Confined.ahead_of fun ts us _ =>
    Confined.test_of (Confined.bind_of fun group => ?_) inferInstance
  cases group <;> infer_instance

instance : Confined around
    (do
      let path ← if isWord "unsafe" (← ahead) then take 1 else modPath
      return (path, ← attributeContent ph))
    (do
      let path ← if isWord "unsafe" (← ahead) then take 1 else modPath
      return (path, ← attributeContent ph')) :=
  Confined.ahead_test fun _ _ h hword => (h.take_isWord hword).followed

instance (inner : Bool) (start : Span) :
    Confined around (attributeBody ph inner start) (attributeBody ph' inner start) := by
  unfold attributeBody
  infer_instance

instance : Confined around (outerAttribute ph) (outerAttribute ph') := by
  unfold outerAttribute
  infer_instance

instance : Confined around (innerAttribute ph) (innerAttribute ph') := by
  unfold innerAttribute
  infer_instance

instance : Confined around (outerAttributes ph) (outerAttributes ph') := by
  unfold outerAttributes
  infer_instance

instance : Confined around (innerAttributes ph) (innerAttributes ph') := by
  unfold innerAttributes
  infer_instance

instance : Confined around (outer ph) (outer ph') := by unfold outer; infer_instance

instance : Confined around (inner ph) (inner ph') := by unfold inner; infer_instance

/-! ## Parameters and where clauses -/

instance : Confined around lifetimeParam lifetimeParam := by unfold lifetimeParam; infer_instance

instance : Confined around (typeParam ph) (typeParam ph') := by unfold typeParam; infer_instance

instance : Confined around (attributedBlock ph) (attributedBlock ph') := by
  unfold attributedBlock
  infer_instance

instance : Confined around (constArgument ph) (constArgument ph') := by
  unfold constArgument
  infer_instance

instance : Confined around (constParam ph) (constParam ph') := by unfold constParam; infer_instance

instance : Confined around (declaredParam ph) (declaredParam ph') := by
  unfold declaredParam
  infer_instance

instance : Confined around (boundParam ph) (boundParam ph') := by unfold boundParam; infer_instance

instance : Confined around (generics ph) (generics ph') := by unfold generics; infer_instance

instance : Confined around (binderParts ph) (binderParts ph') := by
  unfold binderParts
  infer_instance

instance : Confined around (binder ph) (binder ph') := by unfold binder; infer_instance

instance : Confined around (binder? ph) (binder? ph') := by unfold binder?; infer_instance

instance : Confined around (predicate ph) (predicate ph') := by unfold predicate; infer_instance

instance : Confined around (whereClause ph) (whereClause ph') := by
  unfold whereClause
  infer_instance

instance : Confined around (whereClause? ph) (whereClause? ph') := by
  unfold whereClause?
  infer_instance

/-! ## Paths -/

instance : Confined around (genericArgument ph) (genericArgument ph') := by
  unfold genericArgument
  infer_instance

instance : Confined around (genericArguments ph) (genericArguments ph') := by
  unfold genericArguments
  infer_instance

instance : Confined around (turbofish ph) (turbofish ph') := by unfold turbofish; infer_instance

instance (plus : Bool) : Confined around (returnType ph plus) (returnType ph' plus) := by
  unfold returnType
  infer_instance

instance (style : Bool) : Confined around (segment ph style) (segment ph' style) := by
  refine ⟨fun c d h => ?_⟩
  have _ := h.tokens
  refine Outcome.ahead (Outcome.test (fun hword => ?_) fun _ =>
    Outcome.test (fun hword => (h.take_isWord hword).followed) fun _ => Confined.outcome c d h)
  simp only [Bool.or_eq_true] at hword
  obtain ((hword | hword) | hword) | hword := hword <;> exact (h.take_isWord hword).followed

instance (style : Bool) (p : Path) :
    Confined around (addSegment ph style p) (addSegment ph' style p) := by
  unfold addSegment
  infer_instance

instance (style : Bool) : Confined around (path ph style) (path ph' style) := by
  unfold path
  infer_instance

instance (style : Bool) : Confined around (qualifiedPath ph style) (qualifiedPath ph' style) := by
  unfold qualifiedPath
  infer_instance

instance : Confined around (traitPath ph) (traitPath ph') := by unfold traitPath; infer_instance

/-! ## Types -/

instance (allowed : Bool) : Confined around (constModifier allowed) (constModifier allowed) := by
  unfold constModifier
  infer_instance

instance (const : Bool) : Confined around (traitBound ph const) (traitBound ph' const) := by
  unfold traitBound
  infer_instance

instance : Confined around capturedParam capturedParam := by unfold capturedParam; infer_instance

instance : Confined around preciseCapture preciseCapture := by unfold preciseCapture; infer_instance

instance (capture const : Bool) :
    Confined around (bound ph capture const) (bound ph' capture const) := by
  unfold bound
  infer_instance

instance (plus capture const : Bool) :
    Confined around (sumOfBounds ph plus capture const) (sumOfBounds ph' plus capture const) := by
  unfold sumOfBounds
  infer_instance

instance (plus capture const : Bool) (cause : Cause) (start start' : Span) :
    Confined around (boundsWithTrait ph plus capture const cause start)
      (boundsWithTrait ph' plus capture const cause start') := by
  refine Confined.bind_of fun (tokens, shapes) => ?_
  dsimp only
  split
  · infer_instance
  · split <;> infer_instance

instance : Confined around (moreBounds ph) (moreBounds ph') := by unfold moreBounds; infer_instance

instance : Confined around (parenthesisedContent ph) (parenthesisedContent ph') := by
  unfold parenthesisedContent
  infer_instance

instance (plus : Bool) : Confined around (parenthesisedType ph plus) (parenthesisedType ph' plus) := by
  refine Confined.bracketedThen_of fun opening (content, sum) closing => ?_
  dsimp only
  split <;> infer_instance

instance (plus : Bool) (lifetimes : List Token) :
    Confined around (pathType ph plus lifetimes) (pathType ph' plus lifetimes) := by
  unfold pathType
  infer_instance

instance : Confined around variadicArgument variadicArgument := by
  unfold variadicArgument
  infer_instance

instance (first : Bool) :
    Confined around (functionTypeArgument ph first) (functionTypeArgument ph' first) := by
  unfold functionTypeArgument
  infer_instance

instance : Confined around (functionTypeArguments ph) (functionTypeArguments ph') := by
  unfold functionTypeArguments
  infer_instance

instance : Confined around abi? abi? := by unfold abi?; infer_instance

instance : Confined around (functionType ph) (functionType ph') := by
  unfold functionType
  infer_instance

instance : Confined around builtin builtin := by unfold builtin; infer_instance

instance : Confined around (pointerType ph) (pointerType ph') := by
  refine Confined.bind_of fun star => Confined.ahead_test fun c d h hword => ?_
  simp only [Bool.or_eq_true] at hword
  obtain hword | hword := hword <;> exact (h.take_isWord hword).followed

instance : Confined around (bracketType ph) (bracketType ph') := by
  unfold bracketType
  infer_instance

instance (plus : Bool) : Confined around (traitObject ph plus) (traitObject ph' plus) := by
  unfold traitObject
  infer_instance

instance (plus : Bool) : Confined around (type ph plus) (type ph' plus) := by
  unfold type
  infer_instance

/-! ## Patterns -/

instance : Confined around fieldNumber fieldNumber := by
  refine Confined.bind_of fun ts => ?_
  split <;> infer_instance

instance : Confined around member member := by unfold member; infer_instance

instance : Confined around rangeOperator rangeOperator := by unfold rangeOperator; infer_instance

instance : Confined around patternRangeOperator patternRangeOperator :=
  Confined.ahead_test fun _ _ h hop => (h.take_operator hop).followed

instance : Confined around (constBlock ph) (constBlock ph') := by unfold constBlock; infer_instance

instance : Confined around (patternRangeEnd ph) (patternRangeEnd ph') := by
  unfold patternRangeEnd
  infer_instance

instance (first : List Token) :
    Confined around (patternRange ph first) (patternRange ph' first) := by
  unfold patternRange
  infer_instance

instance : Confined around (openPatternRange ph) (openPatternRange ph') := by
  unfold openPatternRange
  infer_instance

instance : Confined around (namePattern ph) (namePattern ph') :=
  Confined.bind_of fun _ => Confined.ahead_test fun _ _ h hword => (h.take_isWord hword).followed

instance : Confined around (fieldPattern ph) (fieldPattern ph') := by
  unfold fieldPattern
  infer_instance

instance : Confined around (fieldPatterns ph) (fieldPatterns ph') := by
  unfold fieldPatterns
  infer_instance

instance : Confined around (pathPattern ph) (pathPattern ph') := by
  unfold pathPattern
  infer_instance

instance : Confined around (slicePart ph) (slicePart ph') := by
  refine Confined.bind_of fun part => ?_
  split <;> infer_instance

instance : Confined around (pattern ph) (pattern ph') := by unfold pattern; infer_instance

instance : Confined around (alternatives ph) (alternatives ph') := by
  unfold alternatives
  infer_instance

/-! ## Expressions -/

instance : Confined around (block ph) (block ph') := by unfold block; infer_instance

instance : Confined around (ifExpression ph) (ifExpression ph') := by
  unfold ifExpression
  infer_instance

instance : Confined around (matchArm ph) (matchArm ph') := by unfold matchArm; infer_instance

instance : Confined around (matchArms ph) (matchArms ph') := by unfold matchArms; infer_instance

instance : Confined around (forExpression ph) (forExpression ph') := by
  unfold forExpression
  infer_instance

instance : Confined around (whileExpression ph) (whileExpression ph') := by
  unfold whileExpression
  infer_instance

instance : Confined around (labelledExpression ph) (labelledExpression ph') := by
  unfold labelledExpression
  infer_instance

instance (allowed : Bool) :
    Confined around (optionalExpression ph allowed) (optionalExpression ph' allowed) := by
  unfold optionalExpression
  infer_instance

instance (braces : Bool) (precedence : Precedence) :
    Confined around (operandAfter ph braces precedence) (operandAfter ph' braces precedence) := by
  refine Confined.bind_of fun first => Confined.loop_of fun (read, shape) =>
    Confined.ahead_of fun ts us _ => ?_
  dsimp only
  rw [Same.eq (a := nextPrecedence ts) (b := nextPrecedence us)]
  infer_instance

instance (braces : Bool) : Confined around (rangeAfter ph braces) (rangeAfter ph' braces) := by
  unfold rangeAfter
  infer_instance

instance : Confined around (closureParam ph) (closureParam ph') := by
  unfold closureParam
  infer_instance

instance (braces : Bool) : Confined around (closure ph braces) (closure ph' braces) := by
  unfold closure
  infer_instance

instance : Confined around (fieldValue ph) (fieldValue ph') := by unfold fieldValue; infer_instance

instance : Confined around (fieldValues ph) (fieldValues ph') := by
  unfold fieldValues
  infer_instance

instance (braces : Bool) :
    Confined around (pathExpression ph braces) (pathExpression ph' braces) := by
  unfold pathExpression
  infer_instance

instance : Confined around (arrayExpression ph) (arrayExpression ph') := by
  unfold arrayExpression
  infer_instance

instance (braces : Bool) :
    Confined around (breakExpression ph braces) (breakExpression ph' braces) := by
  unfold breakExpression
  infer_instance

instance (braces : Bool) :
    Confined around (letExpression ph braces) (letExpression ph' braces) := by
  unfold letExpression
  infer_instance

/-- The same expression comes next if it ends a statement by itself. -/
theorem confined_blockLike (ts us : List Token) [Beside around ts us] :
    Option.Rel (Confined around) (blockLike? ph ts) (blockLike? ph' us) := by
  unfold blockLike?
  iterate 10 refine confined_choice ?_
  exact .none

instance (braces : Bool) : Confined around (atom ph braces) (atom ph' braces) := by
  refine Confined.ahead_of fun ts us _ =>
    Confined.test_of inferInstance (Confined.test_of inferInstance ?_)
  have hchoice := confined_blockLike ph ph' ts us
  generalize blockLike? ph ts = p? at hchoice ⊢
  generalize blockLike? ph' us = q? at hchoice ⊢
  cases hchoice <;> infer_instance

instance : Confined around (afterDot ph) (afterDot ph') := by unfold afterDot; infer_instance

instance : Confined around (dotted ph) (dotted ph') := by unfold dotted; infer_instance

instance (first : Fragment) : Confined around (trailers ph first) (trailers ph' first) := by
  unfold trailers
  infer_instance

instance (braces : Bool) :
    Confined around (referenceExpression ph braces) (referenceExpression ph' braces) := by
  unfold referenceExpression
  infer_instance

instance (braces : Bool) : Confined around (operand ph braces) (operand ph' braces) := by
  unfold operand
  infer_instance

instance (left : Shape) (base : Precedence) (braces : Bool) :
    Confined around (operators ph left base braces) (operators ph' left base braces) := by
  refine Confined.loop_of fun e => Confined.ahead_of fun ts us _ =>
    Confined.ite_of inferInstance ?_
  rw [Same.eq (a := binaryOperator? ts) (b := binaryOperator? us)]
  split
  · infer_instance
  · refine Confined.test_of inferInstance (Confined.test_of inferInstance
      (Confined.test_of ?_ inferInstance))
    refine Confined.bind_of fun cast => Confined.ahead_of fun vs ws _ => ?_
    rw [Same.eq (a := afterCast? vs) (b := afterCast? ws)]
    split <;> infer_instance

instance (braces : Bool) : Confined around (expression ph braces) (expression ph' braces) := by
  unfold expression
  infer_instance

instance (attributes : List Token) (statement : Bool) :
    Confined around (expressionAfter ph attributes statement)
      (expressionAfter ph' attributes statement) := by
  refine Confined.ahead_of fun ts us _ => ?_
  have hchoice := confined_blockLike ph ph' ts us
  generalize blockLike? ph ts = p? at hchoice ⊢
  generalize blockLike? ph' us = q? at hchoice ⊢
  cases hchoice <;> infer_instance

instance : Confined around (statementExpression ph) (statementExpression ph') := by
  unfold statementExpression
  infer_instance

/-! ## Definitions -/

instance : Confined around (namedField ph) (namedField ph') := by unfold namedField; infer_instance

instance : Confined around (positionalField ph) (positionalField ph') := by
  unfold positionalField
  infer_instance

instance : Confined around (namedFields ph) (namedFields ph') := by
  unfold namedFields
  infer_instance

instance : Confined around (positionalFields ph) (positionalFields ph') := by
  unfold positionalFields
  infer_instance

instance : Confined around (variant ph) (variant ph') := by unfold variant; infer_instance

instance : Confined around (structBody ph) (structBody ph') := by unfold structBody; infer_instance

instance : Confined around (enumBody ph) (enumBody ph') := by unfold enumBody; infer_instance

instance : Confined around (unionBody ph) (unionBody ph') := by unfold unionBody; infer_instance

instance (text : String) : Confined around (itemKeyword text) (itemKeyword text) := by
  unfold itemKeyword
  infer_instance

instance (attributes : List Attribute) :
    Confined around (structItem ph attributes) (structItem ph' attributes) := by
  unfold structItem
  infer_instance

instance (attributes : List Attribute) :
    Confined around (enumItem ph attributes) (enumItem ph' attributes) := by
  unfold enumItem
  infer_instance

instance (attributes : List Attribute) :
    Confined around (unionItem ph attributes) (unionItem ph' attributes) := by
  unfold unionItem
  infer_instance

/-! ## Items -/

instance : Confined around (receiver ph) (receiver ph') := by unfold receiver; infer_instance

instance : Confined around trailingComma trailingComma := by unfold trailingComma; infer_instance

instance (attributes : List Attribute) :
    Confined around (typedArgument ph attributes) (typedArgument ph' attributes) := by
  unfold typedArgument
  infer_instance

instance (read : List Argument) :
    Confined around (functionArgument ph read) (functionArgument ph' read) := by
  refine Confined.bind_of fun attributes => Confined.ahead_of fun ts us _ =>
    Confined.test_of inferInstance ⟨fun c d h => ?_⟩
  have hself := (inferInstance : Confined around (receiver ph) (receiver ph')).outcome c d h
  rw [bind_apply, bind_apply, get_apply, get_apply]
  dsimp only
  generalize receiver ph c = x at hself ⊢
  generalize receiver ph' d = y at hself ⊢
  cases hself with
  | error => exact Confined.outcome c d h
  | @ok result after after' hafter =>
    have _ := hafter.tokens
    obtain ⟨tokens, place⟩ := result
    dsimp only
    rw [Same.eq (a := isOp "::" after.tokens) (b := isOp "::" after'.tokens)]
    cases isOp "::" after'.tokens with
    | true =>
      have htyped : Confined around (typedArgument ph attributes) (typedArgument ph' attributes) :=
        inferInstance
      exact htyped.outcome c d h
    | false =>
      let found : Parser Argument := do
        if read.any Argument.isReceiver then rejectAt .secondReceiver place
        else if !read.isEmpty then rejectAt .lateReceiver place
        else return Argument.receiver attributes tokens
      have hfound : Confined around found found := by
        dsimp only [found]
        infer_instance
      exact hfound.outcome after after' hafter

instance : Confined around (functionArguments ph) (functionArguments ph') := by
  unfold functionArguments
  infer_instance

instance : Confined around (signature ph) (signature ph') := by unfold signature; infer_instance

instance : Confined around (functionBody ph) (functionBody ph') := by
  unfold functionBody
  infer_instance

instance (default : Bool) (place : WherePlace) :
    Confined around (typeItem ph default place) (typeItem ph' default place) := by
  unfold typeItem
  infer_instance

instance (arguments : List Token) : Confined around (callEnd arguments) (callEnd arguments) := by
  unfold callEnd
  infer_instance

instance : Confined around innerMacroCall innerMacroCall := by unfold innerMacroCall; infer_instance

instance : Confined around constName constName := by unfold constName; infer_instance

instance : Confined around (constBody ph) (constBody ph') := by unfold constBody; infer_instance

instance : Confined around (traitFunction ph) (traitFunction ph') := by
  unfold traitFunction
  infer_instance

instance : Confined around (traitItem ph) (traitItem ph') := by unfold traitItem; infer_instance

instance : Confined around (supertraits ph) (supertraits ph') := by
  unfold supertraits
  infer_instance

instance (head : List Token) (params : Generics) :
    Confined around (traitBody ph head params) (traitBody ph' head params) := by
  unfold traitBody
  infer_instance

instance (attributes : List Token) :
    Confined around (traitDefinition ph attributes) (traitDefinition ph' attributes) := by
  unfold traitDefinition
  infer_instance

instance (attributes : List Token) :
    Confined around (traitOrSum ph attributes) (traitOrSum ph' attributes) := by
  unfold traitOrSum
  infer_instance

instance (before before' attributes : List Token) [Beside around before before'] :
    Confined around (foreignFunction ph before attributes)
      (foreignFunction ph' before' attributes) := by
  unfold foreignFunction
  infer_instance

instance (before before' attributes : List Token) [Beside around before before'] :
    Confined around (foreignStatic ph before attributes)
      (foreignStatic ph' before' attributes) := by
  unfold foreignStatic
  infer_instance

instance : Confined around (foreignItem ph) (foreignItem ph') := by
  unfold foreignItem
  infer_instance

instance (attributes : List Token) :
    Confined around (foreignBlock ph attributes) (foreignBlock ph' attributes) := by
  unfold foreignBlock
  infer_instance

instance : Confined around newName newName := by unfold newName; infer_instance

instance (rooted : Bool) : Confined around (useTrees ph rooted) (useTrees ph' rooted) := by
  unfold useTrees
  infer_instance

instance (rooted : Bool) : Confined around (useTree ph rooted) (useTree ph' rooted) := by
  unfold useTree
  infer_instance

instance (before before' attributes : List Token) [Beside around before before'] :
    Confined around (useItem ph before attributes) (useItem ph' before' attributes) := by
  unfold useItem
  infer_instance

instance (attributes : List Token) :
    Confined around (externCrate attributes) (externCrate attributes) := by
  unfold externCrate
  infer_instance

instance (attributes : List Attribute) :
    Confined around (implFunction? ph attributes) (implFunction? ph' attributes) := by
  unfold implFunction?
  infer_instance

instance (hasDefault : Bool) :
    Confined around (implConst? ph hasDefault) (implConst? ph' hasDefault) := by
  unfold implConst?
  infer_instance

instance : Confined around (implType? ph) (implType? ph') := by unfold implType?; infer_instance

instance : Confined around (implItem ph) (implItem ph') := by
  refine Confined.ahead_of fun before before' _ => Confined.bind_of fun attributes => ?_
  extract_lets finish finish'
  have hfinish (tokens? : Option (List Token)) : Confined around (finish tokens?) (finish' tokens?) := by
    cases tokens? <;> dsimp only [finish, finish'] <;> infer_instance
  refine Confined.bind_afterVisibility fun visible ts us _ => ?_
  dsimp only
  rw [Same.eq (a := beginsDefault ts) (b := beginsDefault us)]
  refine Confined.test_of (Confined.bind_of fun f => ?_) inferInstance
  cases f <;> infer_instance

instance : Confined around implConstness implConstness := by unfold implConstness; infer_instance

instance : Confined around (implTarget ph) (implTarget ph') := by unfold implTarget; infer_instance

instance (attributes : List Attribute) :
    Confined around (implementation? ph attributes) (implementation? ph' attributes) := by
  unfold implementation?
  infer_instance

instance (attributes : List Token) :
    Confined around (moduleItem ph attributes) (moduleItem ph' attributes) := by
  unfold moduleItem
  infer_instance

instance (before before' attributes : List Token) [Beside around before before'] :
    Confined around (functionItem ph before attributes) (functionItem ph' before' attributes) := by
  unfold functionItem
  infer_instance

instance (before before' attributes : List Token) [Beside around before before'] :
    Confined around (staticItem ph before attributes) (staticItem ph' before' attributes) := by
  unfold staticItem
  infer_instance

instance (before before' attributes : List Token) [Beside around before before'] :
    Confined around (constItem ph before attributes) (constItem ph' before' attributes) := by
  unfold constItem
  infer_instance

instance (before before' attributes : List Token) [Beside around before before'] :
    Confined around (aliasItem ph before attributes) (aliasItem ph' before' attributes) := by
  unfold aliasItem
  infer_instance

instance (attributes : List Token) :
    Confined around (macroItem attributes) (macroItem attributes) := by
  unfold macroItem
  infer_instance

instance (before before' : List Token) [Beside around before before'] :
    Confined around (macroDefinition before) (macroDefinition before') := by
  unfold macroDefinition
  infer_instance

instance (before before' : List Token) (attributes : List Attribute) [Beside around before before'] :
    Confined around (implementationItem ph before attributes)
      (implementationItem ph' before' attributes) := by
  refine Confined.bind_of fun i => ?_
  cases i <;> infer_instance

instance (before before' : List Token) (attributes : List Attribute) [Beside around before before'] :
    Confined around (itemAfter ph before attributes) (itemAfter ph' before' attributes) := by
  unfold itemAfter
  infer_instance

instance : Confined around (item ph) (item ph') := by unfold item; infer_instance

/-! ## Statements -/

instance : Confined around (localVariable ph) (localVariable ph') := by
  unfold localVariable
  infer_instance

instance (attributes : List Token) :
    Confined around (expressionStatement ph attributes) (expressionStatement ph' attributes) := by
  unfold expressionStatement
  infer_instance

instance : Confined around (statement ph) (statement ph') := by unfold statement; infer_instance

instance : Confined around (statements ph) (statements ph') := by unfold statements; infer_instance

/-- A phrase is confined if the phrases in it are. -/
theorem confined_body (phrase : Phrase) : Confined around (ph.body phrase) (ph'.body phrase) := by
  cases phrase <;> unfold Phrases.body <;> infer_instance

end Grammar

/-! ## Phrases -/

section Phrases

variable {after after' : List Token}

/-- Any phrase is confined. -/
instance confined_phrases (around : Around after after') (phrase : Phrase) :
    Confined around (phrases phrase) (phrases phrase) := by
  refine ⟨fun c d h => ?_⟩
  -- Induction on what is left to read.
  generalize hlength : c.tokens.length = n
  induction n using Nat.strongRecOn generalizing around phrase c d with
  | ind n ih =>
    subst hlength
    have hbelow (around : Around after after') (phrase : Phrase) :
        Confined around (phrases.below c.tokens.length phrase)
          (phrases.below d.tokens.length phrase) := by
      refine ⟨fun e e' he => ?_⟩
      have hlength := h.tokens.length_eq
      have hlength' := he.tokens.length_eq
      unfold Phrases.below
      by_cases hless : e.tokens.length < c.tokens.length
      · rw [if_pos hless, if_pos (by omega)]
        exact ih _ hless around phrase e e' he rfl
      · rw [if_neg hless, if_neg (by omega)]
        exact .error
    rw [phrases_eq, phrases_eq]
    exact (confined_body _ _ phrase).outcome c d h

end Phrases

/-! ## Other places -/

section Places

variable {α : Type} {p : Parser α} [Passes p] {d : Delimiter} {ts rest rest' : List Token}
  [hp : ∀ around : Around rest rest', Confined around p p]

/-- What is found in a group is read in front of the end of the group wherever that stands. -/
theorem eq_ok_elsewhere {last : Span} {a : α} (h : Finds p ts (⟨.closing d, last⟩ :: rest) a)
    (hrest : Whole rest') (limit : Span) :
    p ⟨ts ++ ⟨.closing d, last⟩ :: rest', none, limit⟩
      = .ok (a, ⟨⟨.closing d, last⟩ :: rest', none, limit⟩) := by
  obtain ⟨limit', hread⟩ := h.read
  let around : Around rest rest' := ⟨⟨.closing d, last⟩, [], rfl⟩
  have hbeside : CursorsBeside around ⟨ts ++ ⟨.closing d, last⟩ :: rest, none, limit'⟩
      ⟨ts ++ ⟨.closing d, last⟩ :: rest', none, limit⟩ := ⟨⟨⟨ts, h.whole⟩, rfl, rfl⟩, rfl⟩
  have houtcome := (hp around).outcome _ _ hbeside
  rw [hread] at houtcome
  generalize hread' : p ⟨ts ++ ⟨.closing d, last⟩ :: rest', none, limit⟩ = r at houtcome
  cases houtcome with
  | @ok _ _ e hafter =>
    obtain ⟨us, left, stop⟩ := e
    obtain rfl : left = none := by simpa using hafter.leftover.symm
    have hclosed : Closed (⟨.closing d, last⟩ :: rest') := ⟨[d], by simpa [openAfter, Whole] using hrest⟩
    obtain ⟨-, hspent⟩ := Passes.spends _ _ _ hread' rfl
    obtain ⟨hlimit, -⟩ := hspent (h.whole.append_closed hclosed)
    obtain rfl : stop = limit := hlimit
    -- All that was in front of the end has been read, there and so here.
    obtain ⟨⟨trees, _⟩, hend, hus⟩ := hafter.tokens.split
    obtain rfl : trees = [] := by
      have := congrArg List.length hend
      simp only [Around.before, around, List.length_append, List.length_cons, List.nil_append] at this
      exact List.eq_nil_of_length_eq_zero (by omega)
    rw [show us = ⟨.closing d, last⟩ :: rest' from hus]

/-- A group is read in front of anything. -/
theorem bracketed_elsewhere {r : Token × α × Token} (h : Finds (bracketed d p) ts rest r)
    (hrest : Whole rest') (limit : Span) :
    bracketed d p ⟨ts ++ rest', none, limit⟩ = .ok (r, ⟨rest', none, limit⟩) := by
  obtain ⟨first, last, us, a, rfl, rfl, hcontent⟩ := h.bracketed
  have hread := eq_ok_elsewhere hcontent hrest limit
  simp [Parser.bracketed, Parser.bracketedThen, bind_apply, map_apply, hread, splitGroup, leftIn,
    atEnd, Lexeme.isClosing]

end Places

end Memberwise.Parser
