import Memberwise.Grammar.Phrases
import Memberwise.Proofs.Lookahead
import Memberwise.Proofs.Spends

/-!
# Streams beside each other

Two streams stand beside each other if they are the same up to the end of the group in which they
start, and up to the ends of the groups around it. What looks ahead in a group does not see what comes
after it, so it sees the same in both: each test of the grammar has the same answer.

The tests are put together from few, and the rules are instances of a class, so the shape of a test
finds the rules that it needs.

## Main definitions

* `Around`: the ends of the groups around a stream
* `Beside`: streams that are the same up to there
* `Same`: what is asked of both has one answer

## Main statements

* `Beside.head`: the first token is the same
* `Beside.starts_eq`, `Beside.tree`: terminals, and what follows the first tree
-/

namespace Memberwise

/-! ## Streams -/

/-- What closes the groups around, from the end of the innermost on, with the rests of the others.
After them comes `after` in the one stream and `after'` in the other. -/
structure Around (after after' : List Token) where
  closing : Token
  rest : List Token
  closes : closing.lexeme.isClosing = true

namespace Around

variable {after after' : List Token}

/-- The end of the groups, in front of `us`. -/
def before (around : Around after after') (us : List Token) : List Token :=
  around.closing :: (around.rest ++ us)

/-- The end of a group inside, with the rest of the trees around it. -/
def inside (around : Around after after') (d : Delimiter) (last : Span) (trees : List Token) :
    Around after after' :=
  ⟨⟨.closing d, last⟩, trees ++ around.closing :: around.rest, rfl⟩

theorem inside_before (around : Around after after') (d : Delimiter) (last : Span)
    (trees us : List Token) :
    (around.inside d last trees).before us = ⟨.closing d, last⟩ :: (trees ++ around.before us) := by
  simp [inside, before]

end Around

/-- Whole trees, in front of the end of a group. -/
structure Trees where
  tokens : List Token
  whole : Whole tokens

/-- The streams are the same up to the end of the groups around, after which the one has `after` and
the other `after'`. -/
class Beside {after after' : outParam (List Token)} (around : outParam (Around after after'))
    (ts us : List Token) : Prop where
  split : ∃ trees : Trees, ts = trees.tokens ++ around.before after
    ∧ us = trees.tokens ++ around.before after'

/-- What stands for both streams is the same. -/
class Same {α : Type} (a b : α) : Prop where
  eq : a = b

/-- A token that is no bracket is followed by whole trees. -/
theorem Whole.of_cons {t : Token} {ts : List Token} (h : Whole (t :: ts))
    (hopen : ∀ d, t.lexeme ≠ .opening d) (hclose : t.lexeme.isClosing = false) : Whole ts :=
  (Whole.leaf t hopen hclose).of_append h

/-- A group is followed by whole trees. -/
theorem Whole.of_opening {d : Delimiter} {first : Span} {ts : List Token}
    (h : Whole (⟨.opening d, first⟩ :: ts)) :
    ∃ content last rest, ts = content ++ ⟨.closing d, last⟩ :: rest ∧ Whole content ∧ Whole rest := by
  obtain ⟨content, last, rest, rfl, hcontent⟩ := @closing_of_openAfter [] [] d ts h
  refine ⟨content, last, rest, rfl, hcontent, ?_⟩
  refine (Whole.group d first last hcontent).of_append ?_
  simpa using h

/-- The first of whole trees is the same whatever comes after the end of the group. -/
theorem Whole.splitTree {ts : List Token} (h : Whole ts) :
    ∃ tree, ∃ trees : Trees, ∀ rest, atEnd rest = true →
      splitTree (ts ++ rest) = (tree, trees.tokens ++ rest) := by
  cases ts with
  | nil =>
    refine ⟨[], ⟨[], .nil⟩, fun rest hrest => ?_⟩
    obtain rfl | ⟨d, span, rest, rfl⟩ := Parser.atEnd_cases hrest <;> rfl
  | cons t ts =>
    obtain ⟨l, span⟩ := t
    cases l with
    | closing d => cases h.eq_nil_of_atEnd rfl
    | opening d =>
      obtain ⟨content, last, more, rfl, hcontent, hmore⟩ := h.of_opening
      refine ⟨⟨.opening d, span⟩ :: content ++ [⟨.closing d, last⟩], ⟨more, hmore⟩, fun rest _ => ?_⟩
      simpa using splitTree_group hcontent d span last (more ++ rest)
    | ident | literal => exact ⟨[_], ⟨ts, h.of_cons (by simp) rfl⟩, fun _ _ => rfl⟩
    | punct char spacing =>
      have hts : Whole ts := h.of_cons (by simp) rfl
      by_cases hmark : char = '\x27'
      · subst hmark
        -- An apostrophe takes the word after it along, if one stands in the group.
        cases ts with
        | nil =>
          refine ⟨[⟨.punct '\x27' spacing, span⟩], ⟨[], .nil⟩, fun rest hrest => ?_⟩
          obtain rfl | ⟨d, place, rest, rfl⟩ := Parser.atEnd_cases hrest <;> rfl
        | cons u us =>
          obtain ⟨l, place⟩ := u
          cases l with
          | ident word =>
            exact ⟨[_, _], ⟨us, hts.of_cons (by simp) rfl⟩, fun _ _ => rfl⟩
          | punct | literal | opening | closing => exact ⟨[_], ⟨_ :: us, hts⟩, fun _ _ => rfl⟩
      · refine ⟨[⟨.punct char spacing, span⟩], ⟨ts, hts⟩, fun rest _ => ?_⟩
        simp [Memberwise.splitTree, hmark]

namespace Beside

variable {after after' : List Token} {around : Around after after'} {ts us : List Token}

instance of_trees (trees : Trees) : Beside around
    (trees.tokens ++ around.before after) (trees.tokens ++ around.before after') :=
  ⟨trees, rfl, rfl⟩

/-- Both streams are as much longer than what comes after. -/
theorem length_eq (h : Beside around ts us) :
    ts.length + after'.length = us.length + after.length := by
  obtain ⟨trees, rfl, rfl⟩ := h.split
  simp only [Around.before, List.length_append, List.length_cons]
  omega

/-- The first token is the same. -/
theorem head (h : Beside around ts us) :
    ∃ t rest rest', ts = t :: rest ∧ us = t :: rest' := by
  obtain ⟨⟨content, -⟩, rfl, rfl⟩ := h.split
  cases content with
  | nil => exact ⟨_, _, _, rfl, rfl⟩
  | cons t content => exact ⟨t, _, _, rfl, rfl⟩

/-- A token that does not close a group is one of the trees in front of the end. -/
theorem cases (h : Beside around ts us) {t : Token} {rest : List Token}
    (hts : ts = t :: rest) (hclose : t.lexeme.isClosing = false) :
    ∃ content, Whole (t :: content) ∧ rest = content ++ around.before after
      ∧ us = t :: (content ++ around.before after') := by
  obtain ⟨⟨content, hwhole⟩, rfl, rfl⟩ := h.split
  cases content with
  | nil =>
    obtain ⟨rfl, -⟩ := List.cons.inj hts
    rw [around.closes] at hclose
    cases hclose
  | cons u content =>
    obtain ⟨rfl, rfl⟩ := List.cons.inj hts
    exact ⟨content, hwhole, rfl, rfl⟩

/-- What follows a token that is no bracket stands beside what follows it in the other stream. -/
theorem tail (h : Beside around ts us) {t : Token} {rest : List Token}
    (hts : ts = t :: rest) (hopen : ∀ d, t.lexeme ≠ .opening d)
    (hclose : t.lexeme.isClosing = false) :
    ∃ rest', us = t :: rest' ∧ Beside around rest rest' := by
  obtain ⟨content, hwhole, rfl, rfl⟩ := h.cases hts hclose
  exact ⟨_, rfl, ⟨⟨content, hwhole.of_cons hopen hclose⟩, rfl, rfl⟩⟩

/-- A group is followed by trees in front of the end. -/
theorem group (h : Beside around ts us) {d : Delimiter} {first : Span}
    {rest : List Token} (hts : ts = ⟨.opening d, first⟩ :: rest) :
    ∃ content last more, Whole content ∧ Whole more
      ∧ rest = content ++ (around.inside d last more).before after
      ∧ us = ⟨.opening d, first⟩ :: (content ++ (around.inside d last more).before after') := by
  obtain ⟨trees, hwhole, rfl, rfl⟩ := h.cases hts rfl
  obtain ⟨content, last, more, rfl, hcontent, hmore⟩ := hwhole.of_opening
  exact ⟨content, last, more, hcontent, hmore, by simp [around.inside_before],
    by simp [around.inside_before]⟩

/-- Punctuation is the same up to the end of the group, and there is none there. -/
theorem operatorStarts_eq (h : Beside around ts us) (cs : List Char) :
    operatorStarts cs ts = operatorStarts cs us := by
  induction cs generalizing ts us with
  | nil =>
    obtain ⟨t, rest, rest', rfl, rfl⟩ := h.head
    rfl
  | cons c cs ih =>
    obtain ⟨⟨l, span⟩, rest, rest', rfl, rfl⟩ := h.head
    cases l with
    | punct char spacing =>
      obtain ⟨_, hus, hrest⟩ := h.tail rfl (by simp) rfl
      cases hus
      have := ih hrest
      cases cs with
      | nil => rfl
      | cons c' cs => cases spacing <;> simp [operatorStarts, this]
    | ident | closing | literal | opening => cases cs <;> rfl

/-- The characters of an operator stand in front of the end of the group. -/
theorem split_operator (h : Beside around ts us) {cs : List Char}
    (hop : operatorStarts cs ts = true) :
    ∃ first, ∃ trees : Trees, first.length = cs.length
      ∧ ts = first ++ (trees.tokens ++ around.before after)
      ∧ us = first ++ (trees.tokens ++ around.before after') := by
  induction cs generalizing ts us with
  | nil =>
    obtain ⟨trees, hts, hus⟩ := h.split
    exact ⟨[], trees, rfl, hts, hus⟩
  | cons c cs ih =>
    obtain ⟨⟨l, span⟩, rest, _, rfl, -⟩ := h.head
    cases l with
    | punct char spacing =>
      obtain ⟨_, rfl, hrest⟩ := h.tail rfl (by simp) rfl
      cases cs with
      | nil =>
        obtain ⟨trees, rfl, rfl⟩ := hrest.split
        exact ⟨[⟨.punct char spacing, span⟩], trees, rfl, rfl, rfl⟩
      | cons c' cs =>
        cases spacing with
        | alone => simp [operatorStarts] at hop
        | joint =>
          simp only [operatorStarts, Bool.and_eq_true] at hop
          obtain ⟨first, trees, hlength, rfl, rfl⟩ := ih hrest hop.2
          exact ⟨⟨.punct char .joint, span⟩ :: first, trees, by simp [hlength], rfl, rfl⟩
    | ident | closing | literal | opening => cases cs <;> simp [operatorStarts] at hop

/-- A terminal is seen before the end of the group. -/
theorem starts_eq (h : Beside around ts us)
    (terminal : Terminal) : terminal.starts ts = terminal.starts us := by
  obtain ⟨⟨l, span⟩, rest, rest', rfl, rfl⟩ := h.head
  cases l with
  | punct char spacing =>
    -- Some terminals are two tokens.
    obtain ⟨_, hus, hrest⟩ := h.tail rfl (by simp) rfl
    cases hus
    obtain ⟨⟨l', span'⟩, more, more', rfl, rfl⟩ := hrest.head
    cases terminal with
    | operator text => exact h.operatorStarts_eq text.toList
    | lifetime =>
      by_cases hmark : char = '\x27'
      · subst hmark
        cases spacing <;> cases l' <;> rfl
      · simp [Terminal.starts, hmark]
    | literal | integer | float =>
      by_cases hsign : char = '-'
      · subst hsign
        cases l' <;> rfl
      · simp [Terminal.starts, hsign]
    | keyword | identifier | word | string | group => rfl
  | ident | literal | opening | closing =>
    cases terminal with
    | operator text => exact h.operatorStarts_eq text.toList
    | lifetime | literal | integer | float => rfl
    | keyword | identifier | word | string | group => rfl

/-- The end of the group is seen. -/
theorem atEnd_eq (h : Beside around ts us) : atEnd ts = atEnd us := by
  obtain ⟨t, rest, rest', rfl, rfl⟩ := h.head
  rfl

/-- The first tree is the same, and what follows it in the one stream stands beside what follows it
in the other. -/
theorem splitTree (h : Beside around ts us) :
    ∃ tree, ∃ trees : Trees, splitTree ts = (tree, trees.tokens ++ around.before after)
      ∧ splitTree us = (tree, trees.tokens ++ around.before after') := by
  obtain ⟨⟨content, hwhole⟩, rfl, rfl⟩ := h.split
  obtain ⟨tree, trees, hsplit⟩ := hwhole.splitTree
  exact ⟨tree, trees, hsplit _ around.closes, hsplit _ around.closes⟩

instance tree [h : Beside around ts us] :
    Beside around (afterTree ts) (afterTree us) := by
  obtain ⟨tree, trees, hts, hus⟩ := h.splitTree
  rw [afterTree, afterTree, hts, hus]
  infer_instance

/-- The streams may be chosen by a test. -/
instance ite (a b : Bool) {ts' us' : List Token} [h : Same a b] [Beside around ts us]
    [Beside around ts' us'] :
    Beside around (if a = true then ts else ts') (if b = true then us else us') := by
  rw [h.eq]
  split <;> assumption

end Beside

namespace Same

instance refl {α : Type} (a : α) : Same a a := ⟨rfl⟩

instance not (a b : Bool) [Same a b] : Same (!a) (!b) := ⟨by rw [eq (a := a) (b := b)]⟩

instance and (a a' b b' : Bool) [Same a b] [Same a' b'] : Same (a && a') (b && b') :=
  ⟨by rw [eq (a := a) (b := b), eq (a := a') (b := b')]⟩

instance or (a a' b b' : Bool) [Same a b] [Same a' b'] : Same (a || a') (b || b') :=
  ⟨by rw [eq (a := a) (b := b), eq (a := a') (b := b')]⟩

instance ite {α : Type} (a b : Bool) (x x' y y' : α) [Same a b] [Same x y] [Same x' y'] :
    Same (if a = true then x else x') (if b = true then y else y') :=
  ⟨by rw [eq (a := a) (b := b), eq (a := x) (b := y), eq (a := x') (b := y')]⟩

end Same

/-! ## The tests of the grammar -/

section Grammar

-- A rule counts once for each step that it is nested in, so long tests need many.
set_option synthInstance.maxSize 1000

open Memberwise.Parser

variable {after after' : List Token} {around : Around after after'} {ts us : List Token}
  [h : Beside around ts us]

namespace Same

instance starts (terminal : Terminal) : Same (terminal.starts ts) (terminal.starts us) :=
  ⟨h.starts_eq terminal⟩

instance atEnd : Same (atEnd ts) (atEnd us) := ⟨h.atEnd_eq⟩

instance isOp (text : String) : Same (isOp text ts) (isOp text us) := starts _

instance isWord (text : String) : Same (isWord text ts) (isWord text us) := starts _

instance isIdent : Same (isIdent ts) (isIdent us) := starts _

instance isLifetime : Same (isLifetime ts) (isLifetime us) := starts _

instance isLiteral : Same (isLiteral ts) (isLiteral us) := starts _

instance isParen : Same (isParen ts) (isParen us) := starts _

instance isBracket : Same (isBracket ts) (isBracket us) := starts _

instance isBrace : Same (isBrace ts) (isBrace us) := starts _

instance isAngle : Same (isAngle ts) (isAngle us) := by unfold Memberwise.isAngle; infer_instance

instance isPathWord : Same (isPathWord ts) (isPathWord us) := by
  unfold Parser.isPathWord
  infer_instance

instance endsArgument : Same (endsArgument ts) (endsArgument us) := by
  unfold Parser.endsArgument
  infer_instance

instance endsParam : Same (endsParam ts) (endsParam us) := by
  unfold Parser.endsParam
  infer_instance

instance beginsParams : Same (beginsParams ts) (beginsParams us) := by
  unfold Parser.beginsParams
  infer_instance

instance endsPredicate : Same (endsPredicate ts) (endsPredicate us) := by
  unfold Parser.endsPredicate
  infer_instance

instance endsLifetimeBounds : Same (endsLifetimeBounds ts) (endsLifetimeBounds us) := by
  unfold Parser.endsLifetimeBounds
  infer_instance

instance beginsArguments : Same (beginsArguments ts) (beginsArguments us) := by
  unfold Parser.beginsArguments
  infer_instance

instance beginsBound (const : Bool) : Same (beginsBound const ts) (beginsBound const us) := by
  unfold Parser.beginsBound
  infer_instance

instance isMutSelf : Same (isMutSelf ts) (isMutSelf us) := by
  unfold Parser.isMutSelf
  infer_instance

instance beginsVariadic : Same (beginsVariadic ts) (beginsVariadic us) := by
  unfold Parser.beginsVariadic
  infer_instance

instance beginsBuiltin : Same (beginsBuiltin ts) (beginsBuiltin us) := by
  unfold Parser.beginsBuiltin
  infer_instance

instance beginsTypePath : Same (beginsTypePath ts) (beginsTypePath us) := by
  unfold Parser.beginsTypePath
  infer_instance

instance beginsFunctionType : Same (beginsFunctionType ts) (beginsFunctionType us) := by
  unfold Parser.beginsFunctionType
  infer_instance

instance endsPatternRange : Same (endsPatternRange ts) (endsPatternRange us) := by
  unfold Parser.endsPatternRange
  infer_instance

instance beginsPathPattern : Same (beginsPathPattern ts) (beginsPathPattern us) := by
  unfold Parser.beginsPathPattern
  infer_instance

instance beginsAlternative : Same (beginsAlternative ts) (beginsAlternative us) := by
  unfold Parser.beginsAlternative
  infer_instance

instance isDot : Same (isDot ts) (isDot us) := by
  unfold Memberwise.isDot
  infer_instance

instance isAssignment : Same (isAssignment ts) (isAssignment us) := by
  unfold Memberwise.isAssignment
  infer_instance

instance binaryOperator? : Same (binaryOperator? ts) (binaryOperator? us) := by
  have hops : (fun x : String × Precedence => Memberwise.isOp x.1 ts)
      = fun x => Memberwise.isOp x.1 us := funext fun x => (isOp x.1).eq
  exact ⟨congrArg binaryOperators.find? hops⟩

instance nextPrecedence : Same (nextPrecedence ts) (nextPrecedence us) := by
  unfold Memberwise.nextPrecedence
  rw [Same.eq (a := Memberwise.binaryOperator? ts) (b := Memberwise.binaryOperator? us)]
  split <;> infer_instance

instance beginsExpression : Same (beginsExpression ts) (beginsExpression us) := by
  unfold Memberwise.beginsExpression
  infer_instance

instance endsRange (braces : Bool) : Same (endsRange braces ts) (endsRange braces us) := by
  have hops : (fun text => Memberwise.isOp text ts) = fun text => Memberwise.isOp text us :=
    funext fun text => (isOp text).eq
  unfold Memberwise.endsRange
  rw [hops]
  infer_instance

instance afterCast? : Same (afterCast? ts) (afterCast? us) := by
  unfold Memberwise.afterCast?
  infer_instance

instance beginsClosure : Same (beginsClosure ts) (beginsClosure us) := by
  unfold Parser.beginsClosure
  infer_instance

instance beginsAsyncBlock : Same (beginsAsyncBlock ts) (beginsAsyncBlock us) := by
  unfold Parser.beginsAsyncBlock
  infer_instance

instance beginsAnonymous : Same (beginsAnonymous ts) (beginsAnonymous us) := by
  unfold Parser.beginsAnonymous
  infer_instance

instance endsTypeBounds : Same (endsTypeBounds ts) (endsTypeBounds us) := by
  unfold Parser.endsTypeBounds
  infer_instance

instance beginsMacroCall : Same (beginsMacroCall ts) (beginsMacroCall us) := by
  unfold Parser.beginsMacroCall
  infer_instance

instance beginsDefault : Same (beginsDefault ts) (beginsDefault us) := by
  unfold Parser.beginsDefault
  infer_instance

instance pastWord (text : String) :
    Beside around (pastWord text ts) (pastWord text us) := by
  unfold Parser.pastWord
  infer_instance

instance beginsFunction (safe : Bool) : Same (beginsFunction safe ts) (beginsFunction safe us) := by
  unfold Parser.beginsFunction
  infer_instance

instance beginsNamedCall : Same (beginsNamedCall ts) (beginsNamedCall us) := by
  unfold Parser.beginsNamedCall
  infer_instance

instance beginsBraceCall : Same (beginsBraceCall ts) (beginsBraceCall us) := by
  unfold Parser.beginsBraceCall
  infer_instance

instance beginsItem : Same (beginsItem ts) (beginsItem us) := by
  unfold Parser.beginsItem
  infer_instance

end Same

end Grammar

end Memberwise
