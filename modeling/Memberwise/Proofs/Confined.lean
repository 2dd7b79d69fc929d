import Memberwise.Proofs.Beside

/-!
# Parsers confined to a group

A parser that is in a group reads nothing of what comes after it, and does not look at it either. So
what it makes of the group is the same wherever the group stands. That holds of each terminal and is
kept by every way in which parsers are put together.

Two parsers are compared that differ only in the readers they have for the phrases inside, since those
are bounded by the length of the stream. The rules are instances of a class, and the shape of a parser
finds the rules that it needs.

## Main definitions

* `Outcome`: the same result for both streams, or none for either
* `Confined`: parsers that have the same outcome for streams beside each other

## Main statements

* `Confined.bind`, `Confined.test`: sequence and choice
* `Confined.bracketedThen`, `Confined.loop`: groups and repetition
-/

namespace Memberwise.Parser

/-! ## Outcomes -/

/-- The streams stand beside each other, with something left over in both or in neither. -/
structure CursorsBeside {after after' : List Token} (around : Around after after') (c d : Cursor) :
    Prop where
  tokens : Beside around c.tokens d.tokens
  leftover : c.leftover.isSome = d.leftover.isSome

/-- The same result for both streams, and what is left of them beside each other, or two errors. -/
inductive Outcome {α : Type} {after after' : List Token} (around : Around after after') :
    Except Diagnostic (α × Cursor) → Except Diagnostic (α × Cursor) → Prop
  | ok {a : α} {c d : Cursor} (h : CursorsBeside around c d) :
      Outcome around (.ok (a, c)) (.ok (a, d))
  | error {e e' : Diagnostic} : Outcome around (.error e) (.error e')

/-- The parsers have the same outcome for streams beside each other. -/
class Confined {α : Type} {after after' : List Token} (around : Around after after')
    (p q : Parser α) : Prop where
  outcome : ∀ c d, CursorsBeside around c d → Outcome around (p c) (q d)

section Rules

variable {α β σ τ : Type} {after after' : List Token} {around : Around after after'} {c d : Cursor}

/-- What comes next starts with the result, where the first parsers have stopped. -/
theorem Outcome.bind {around' : Around after after'} {p q : Parser α} {f g : α → Parser β}
    (h : Outcome around' (p c) (q d))
    (hfg : ∀ a c d, CursorsBeside around' c d →
      Outcome around (f a c) (g a d)) :
    Outcome around ((p >>= f) c) ((q >>= g) d) := by
  rw [bind_apply, bind_apply]
  generalize p c = x at h
  generalize q d = y at h
  cases h with
  | ok h => exact hfg _ _ _ h
  | error => exact .error

/-- What follows two parsers with the same outcome. -/
theorem Outcome.followed {p q : Parser α} {f g : α → Parser β}
    (h : Outcome around (p c) (q d)) [∀ a, Confined around (f a) (g a)] :
    Outcome around ((p >>= f) c) ((q >>= g) d) :=
  h.bind fun _ c d h => Confined.outcome c d h

theorem Outcome.ahead {f g : List Token → Parser α} (h : Outcome around (f c.tokens c) (g d.tokens d)) :
    Outcome around ((ahead >>= f) c) ((ahead >>= g) d) := h

/-- A test that sees the same shows in both which branch is taken. -/
theorem Outcome.test {a b : Bool} [h : Same a b] {p p' q q' : Parser α}
    (hp : a = true → Outcome around (p c) (q d)) (hq : a = false → Outcome around (p' c) (q' d)) :
    Outcome around ((if a then p else p') c) ((if b then q else q') d) := by
  rw [← h.eq]
  cases htest : a with
  | true => exact hp htest
  | false => exact hq htest

namespace CursorsBeside

variable (h : CursorsBeside around c d)
include h

/-- As many tokens in front of the end of the group are taken from both. -/
theorem take {n : Nat} {first : List Token} {trees : Trees}
    (hc : c.tokens = first ++ (trees.tokens ++ around.before after))
    (hd : d.tokens = first ++ (trees.tokens ++ around.before after')) (hn : first.length = n) :
    Outcome around (Parser.take n c) (Parser.take n d) := by
  rw [take_apply, take_apply]
  simp only [hc, hd, ← hn, List.take_left, List.drop_left]
  exact .ok ⟨inferInstance, h.leftover⟩

/-- A token that is no bracket is taken. -/
theorem take_leaf {t : Token} {rest : List Token} (hc : c.tokens = t :: rest)
    (hopen : ∀ d, t.lexeme ≠ .opening d) (hclose : t.lexeme.isClosing = false) :
    Outcome around (Parser.take 1 c) (Parser.take 1 d) := by
  obtain ⟨rest', hd, hrest⟩ := h.tokens.tail hc hopen hclose
  obtain ⟨trees, rfl, rfl⟩ := hrest.split
  exact @take _ _ _ _ _ h 1 [t] trees hc hd rfl

theorem take_word {word : String} {span : Span} {rest : List Token}
    (hc : c.tokens = ⟨.ident word, span⟩ :: rest) :
    Outcome around (Parser.take 1 c) (Parser.take 1 d) :=
  h.take_leaf hc (by simp) rfl

/-- A word is taken where it stands. -/
theorem take_isWord {word : String} (hc : isWord word c.tokens = true) :
    Outcome around (Parser.take 1 c) (Parser.take 1 d) := by
  obtain ⟨span, rest, htokens⟩ := isWord_iff.1 hc
  exact h.take_word htokens

/-- The characters of an operator are taken where they stand. -/
theorem take_operator {text : String} (hc : isOp text c.tokens = true) :
    Outcome around (Parser.take text.length c) (Parser.take text.length d) := by
  obtain ⟨first, trees, hlength, htokens, htokens'⟩ := h.tokens.split_operator hc
  exact h.take htokens htokens' (by simpa [String.length_toList] using hlength)

/-- The first tree is taken. -/
theorem take_tree : Outcome around (Parser.take (splitTree c.tokens).1.length c)
    (Parser.take (splitTree d.tokens).1.length d) := by
  obtain ⟨tree, trees, hc, hd⟩ := h.tokens.splitTree
  have hsplit := splitTree_append c.tokens
  have hsplit' := splitTree_append d.tokens
  rw [hc] at hsplit
  rw [hd] at hsplit'
  rw [hc, hd]
  exact h.take hsplit.symm hsplit'.symm rfl

/-- Something is left in the group of both, or of neither. -/
theorem isSome_leftIn (delimiter : Delimiter) :
    (leftIn delimiter c).isSome = (leftIn delimiter d).isSome := by
  rw [leftIn, leftIn, h.tokens.atEnd_eq]
  split <;> rfl

end CursorsBeside

namespace Confined

/-- Neither parser has a result. -/
theorem of_ne_ok {p q : Parser α} (hp : ∀ c r, p c ≠ .ok r) (hq : ∀ c r, q c ≠ .ok r) :
    Confined around p q := by
  refine ⟨fun c d _ => ?_⟩
  cases hpc : p c with
  | ok r => exact absurd hpc (hp c r)
  | error e =>
    cases hqd : q d with
    | ok r => exact absurd hqd (hq d r)
    | error e' => exact .error

/-! ### Sequence and choice -/

instance pure (a : α) : Confined around (pure a : Parser α) (pure a) :=
  ⟨fun _ _ h => .ok h⟩

instance bind (p q : Parser α) (f g : α → Parser β) [Confined around p q]
    [∀ a, Confined around (f a) (g a)] : Confined around (p >>= f) (q >>= g) :=
  ⟨fun c d h => (outcome c d h).followed⟩

/-- A pair is taken apart by what follows. -/
instance (priority := high) bind_pair (p q : Parser (α × β)) (f g : α × β → Parser σ)
    [Confined around p q] [∀ a b, Confined around (f (a, b)) (g (a, b))] :
    Confined around (p >>= f) (q >>= g) :=
  have _ (r : α × β) : Confined around (f r) (g r) :=
    inferInstanceAs (Confined around (f (r.1, r.2)) (g (r.1, r.2)))
  bind p q f g

/-- So are three parts, or four. -/
instance (priority := high) bind_triple (p q : Parser (α × β × σ)) (f g : α × β × σ → Parser τ)
    [Confined around p q]
    [∀ a b c, Confined around (f (a, b, c)) (g (a, b, c))] :
    Confined around (p >>= f) (q >>= g) :=
  have _ (r : α × β × σ) : Confined around (f r) (g r) :=
    inferInstanceAs (Confined around (f (r.1, r.2.1, r.2.2)) (g (r.1, r.2.1, r.2.2)))
  bind p q f g

theorem bind_of {p q : Parser α} {f g : α → Parser β} [Confined around p q]
    (h : ∀ a, Confined around (f a) (g a)) :
    Confined around (p >>= f) (q >>= g) :=
  bind p q f g

instance map (f : α → β) (p q : Parser α) [Confined around p q] :
    Confined around (f <$> p) (f <$> q) := by
  rw [← bind_pure_comp, ← bind_pure_comp]
  infer_instance

instance ite (b : Prop) [Decidable b] (p p' q q' : Parser α) [Confined around p q]
    [Confined around p' q'] :
    Confined around (if b then p else p') (if b then q else q') := by
  split <;> assumption

/-- Both choices are decided by the same test. -/
instance test (a b : Bool) [h : Same a b] (p p' q q' : Parser α) [Confined around p q]
    [Confined around p' q'] :
    Confined around (if a = true then p else p') (if b = true then q else q') := by
  rw [h.eq]
  infer_instance

theorem ite_of {b : Prop} [Decidable b] {p p' q q' : Parser α} (hp : Confined around p q)
    (hq : Confined around p' q') : Confined around (if b then p else p') (if b then q else q') :=
  ite b p p' q q'

theorem test_of {a b : Bool} [Same a b] {p p' q q' : Parser α} (hp : Confined around p q)
    (hq : Confined around p' q') :
    Confined around (if a = true then p else p') (if b = true then q else q') :=
  test a b p p' q q'

/-! ### Looking and failing -/

/-- The streams are seen as they are, with the ends of the groups around. -/
instance (priority := high) ahead (f g : List Token → Parser α)
    [h : ∀ trees : Trees, Confined around (f (trees.tokens ++ around.before after))
      (g (trees.tokens ++ around.before after'))] :
    Confined around (ahead >>= f) (ahead >>= g) := by
  refine ⟨fun c d hcd => ?_⟩
  obtain ⟨trees, hc, hd⟩ := hcd.tokens.split
  rw [bind_apply, bind_apply, ahead_apply, ahead_apply]
  dsimp only
  rw [hc, hd]
  exact (h trees).outcome c d hcd

theorem ahead_of {f g : List Token → Parser α}
    (h : ∀ ts us, Beside around ts us → Confined around (f ts) (g us)) :
    Confined around (Parser.ahead >>= f) (Parser.ahead >>= g) :=
  ⟨fun c d hcd => (h _ _ hcd.tokens).outcome c d hcd⟩

/-- What is taken after a test is what the test has seen. -/
theorem ahead_test {f f' g g' : List Token → Parser α} {test : List Token → Bool}
    [htest : ∀ trees : Trees, Same (test (trees.tokens ++ around.before after))
      (test (trees.tokens ++ around.before after'))]
    (hp : ∀ c d, CursorsBeside around c d → test c.tokens = true →
      Outcome around (f c.tokens c) (g d.tokens d))
    [hq : ∀ trees : Trees, Confined around (f' (trees.tokens ++ around.before after))
      (g' (trees.tokens ++ around.before after'))] :
    Confined around (do let ts ← Parser.ahead; if test ts then f ts else f' ts)
      (do let ts ← Parser.ahead; if test ts then g ts else g' ts) := by
  refine ⟨fun c d h => ?_⟩
  obtain ⟨trees, hc, hd⟩ := h.tokens.split
  have _ : Same (test c.tokens) (test d.tokens) := by
    rw [hc, hd]
    infer_instance
  refine Outcome.test (hp c d h) fun _ => ?_
  rw [hc, hd]
  exact (hq trees).outcome c d h

instance here : Confined around here here := by
  refine ⟨fun c d h => ?_⟩
  obtain ⟨t, rest, rest', hc, hd⟩ := h.tokens.head
  rw [here_apply, here_apply, Cursor.span, Cursor.span, hc, hd]
  exact .ok h

instance ended : Confined around ended ended := by
  refine ⟨fun c d h => ?_⟩
  simp only [Parser.ended, bind_apply, ahead_apply, pure_apply, h.tokens.atEnd_eq]
  exact .ok h

instance reject (cause cause' : Cause) :
    Confined around (reject cause : Parser α) (reject cause') :=
  of_ne_ok (fun _ _ h => by cases h) fun _ _ h => by cases h

instance rejectAt (cause cause' : Cause) (span span' : Span) :
    Confined around (rejectAt cause span : Parser α) (rejectAt cause' span') :=
  of_ne_ok (fun _ _ h => by cases h) fun _ _ h => by cases h

instance throw (e e' : Diagnostic) : Confined around (throw e : Parser α) (throw e') :=
  of_ne_ok (fun _ _ h => by cases h) fun _ _ h => by cases h

instance expected (choices choices' : List Terminal) :
    Confined around (expected choices : Parser α) (expected choices') :=
  of_ne_ok (expected_ne_ok choices) (expected_ne_ok choices')

theorem expectedAt_ne_ok (ts : List Token) (choices : List Terminal) (c : Cursor) (r : α × Cursor) :
    expectedAt ts choices c ≠ .ok r := by
  intro h
  obtain ⟨_, _, -, h⟩ := bind_eq_ok.1 h
  obtain ⟨_, _, -, h⟩ := bind_eq_ok.1 h
  exact expected_ne_ok _ _ _ h

instance expectedAt (ts us : List Token) (choices choices' : List Terminal) :
    Confined around (expectedAt ts choices : Parser α) (expectedAt us choices') :=
  of_ne_ok (expectedAt_ne_ok ts choices) (expectedAt_ne_ok us choices')

instance lift (r : Except Diagnostic α) :
    Confined around (liftM r : Parser α) (liftM r) := by
  cases r with
  | ok a => exact pure a
  | error e => exact throw e e

/-! ### Terminals -/

instance operator (text : String) : Confined around (operator text) (operator text) :=
  ahead_test fun _ _ h hop => (h.take_operator hop).followed

instance keyword (text : String) : Confined around (keyword text) (keyword text) :=
  ahead_test fun _ _ h hword => h.take_isWord hword

instance operator? (text : String) : Confined around (operator? text) (operator? text) := by
  unfold Parser.operator?
  infer_instance

instance keyword? (text : String) : Confined around (keyword? text) (keyword? text) :=
  ahead_test fun _ _ h hword => h.take_isWord hword

instance anyWord : Confined around anyWord anyWord := by
  refine ahead_test fun c d h hword => ?_
  obtain ⟨word, span, rest, htokens⟩ := wordStarts_iff.1 hword
  exact h.take_word htokens

instance identifier : Confined around identifier identifier := by
  refine ⟨fun c d h => ?_⟩
  obtain ⟨⟨l, span⟩, rest, rest', hc, hd⟩ := h.tokens.head
  simp only [Parser.identifier, bind_apply, ahead_apply, hc, hd]
  cases l with
  | ident word =>
    simp only [ite_apply]
    split
    · exact .error
    · exact h.take_word hc
  | punct | literal | opening | closing => exact .error

instance lifetime : Confined around lifetime lifetime := by
  refine ahead_test fun c d h hlifetime => ?_
  obtain ⟨mark, word, span, rest, hc⟩ := isLifetime_iff.1 hlifetime
  obtain ⟨rest', hd, hrest⟩ := h.tokens.tail hc (by simp) rfl
  obtain ⟨more, rfl, hmore⟩ := hrest.tail rfl (by simp) rfl
  obtain ⟨trees, rfl, rfl⟩ := hmore.split
  exact @CursorsBeside.take _ _ _ _ _ h 2 [⟨.punct '\x27' .joint, mark⟩, ⟨.ident word, span⟩] trees
    hc hd rfl

instance literal : Confined around literal literal := by
  refine ahead_test fun c d h hliteral => ?_
  obtain ⟨text, span, rest, hc⟩ | ⟨word, span, rest, hc⟩ | ⟨spacing, span, text, place, rest, hc⟩ :=
    literal_begins hliteral
  · obtain ⟨rest', hd, -⟩ := h.tokens.tail hc (by simp) rfl
    simp only [hc, hd]
    exact h.take_leaf hc (by simp) rfl
  · obtain ⟨rest', hd, -⟩ := h.tokens.tail hc (by simp) rfl
    simp only [hc, hd]
    exact h.take_word hc
  · obtain ⟨rest', hd, hrest⟩ := h.tokens.tail hc (by simp) rfl
    obtain ⟨more, rfl, hmore⟩ := hrest.tail rfl (by simp) rfl
    simp only [hc, hd, bind_apply, take_apply, pure_apply, List.take_succ_cons, List.take_zero,
      List.drop_succ_cons, List.drop_zero]
    exact .ok ⟨hmore, h.leftover⟩

instance name : Confined around name name := by unfold Parser.name; infer_instance

instance anyName : Confined around anyName anyName := by
  unfold Parser.anyName
  infer_instance

instance anyGroup : Confined around anyGroup anyGroup :=
  ahead_test fun _ _ h _ => h.take_tree

/-! ### Groups -/

/-- A group is passed over from where its reader has stopped in it. -/
theorem splitGroup_inside (trees : Trees) (d : Delimiter) (last : Span) (more us : List Token) :
    splitGroup 0 (trees.tokens ++ (around.inside d last more).before us)
      = (trees.tokens ++ [⟨.closing d, last⟩], more ++ around.before us) := by
  rw [Around.inside_before]
  exact splitGroup_whole trees.whole d last _

instance bracketedThen (d : Delimiter) (p q : Parser α) (f g : Token → α → Token → Parser β)
    [hpq : ∀ around : Around after after', Confined around p q]
    [hfg : ∀ opening a closing,
      Confined around (f opening a closing) (g opening a closing)] :
    Confined around (bracketedThen d p f) (bracketedThen d q g) := by
  refine ⟨fun c c' h => ?_⟩
  obtain ⟨⟨l, first⟩, rest, rest', hc, hd⟩ := h.tokens.head
  rw [Parser.bracketedThen, Parser.bracketedThen, bind_apply, bind_apply, ahead_apply, ahead_apply]
  simp only [hc, hd, ite_apply]
  by_cases hopening : l = .opening d
  · subst hopening
    obtain ⟨content, last, more, hcontent, hmore, rfl, hrest⟩ := h.tokens.group hc
    rw [hd] at hrest
    cases hrest
    have hfirst : Outcome (around.inside d last more) (take 1 c) (take 1 c') := by
      rw [take_apply, take_apply, hc, hd]
      exact .ok ⟨⟨⟨content, hcontent⟩, rfl, rfl⟩, h.leftover⟩
    rw [if_pos rfl, if_pos rfl]
    refine hfirst.bind fun _ e e' he => ((hpq _).outcome e e' he).bind fun a e e' he => ?_
    obtain ⟨trees, hin, hin'⟩ := he.tokens.split
    rw [bind_apply, bind_apply, get_apply, get_apply]
    simp only [hin, hin', splitGroup_inside, List.getLast?_concat, Option.getD_some]
    rw [bind_apply, bind_apply, set_apply, set_apply]
    dsimp only
    have hout : CursorsBeside around ⟨more ++ around.before after, e.leftover, e.limit⟩
        ⟨more ++ around.before after', e'.leftover, e'.limit⟩ :=
      ⟨⟨⟨more, hmore⟩, rfl, rfl⟩, he.leftover⟩
    refine ((hfg _ _ _).outcome _ _ hout).bind fun b _ _ h => ?_
    rw [bind_apply, bind_apply, remember_apply, remember_apply]
    exact .ok ⟨h.tokens, by rw [Option.isSome_or, Option.isSome_or, h.leftover, he.isSome_leftIn]⟩
  · rw [if_neg hopening, if_neg hopening]
    exact .error

theorem bracketedThen_of {d : Delimiter} {p q : Parser α} {f g : Token → α → Token → Parser β}
    [∀ around : Around after after', Confined around p q]
    (hfg : ∀ opening a closing, Confined around (f opening a closing) (g opening a closing)) :
    Confined around (Parser.bracketedThen d p f) (Parser.bracketedThen d q g) :=
  bracketedThen d p q f g

instance bracketed (d : Delimiter) (p q : Parser α) [∀ around : Around after after', Confined around p q] :
    Confined around (bracketed d p) (bracketed d q) := by
  unfold Parser.bracketed
  infer_instance

instance inside (d : Delimiter) (p q : Parser α) [∀ around : Around after after', Confined around p q] :
    Confined around (inside d p) (inside d q) := by
  unfold Parser.inside
  infer_instance

instance group (d : Delimiter) (p q : Parser (List Token))
    [∀ around : Around after after', Confined around p q] :
    Confined around (group d p) (group d q) := by
  unfold Parser.group
  infer_instance

/-! ### Repetition -/

instance seq_nil : Confined around (seq []) (seq []) := pure _

instance seq_cons (p q : Parser (List Token)) (ps qs : List (Parser (List Token)))
    [Confined around p q] [Confined around (seq ps) (seq qs)] :
    Confined around (seq (p :: ps)) (seq (q :: qs)) := by
  unfold seq
  infer_instance

/-- Tests that see the same decide whether an item is read. -/
instance when? (test : List Token → Bool) (p q : Parser (List Token))
    [∀ trees : Trees, Same (test (trees.tokens ++ around.before after))
      (test (trees.tokens ++ around.before after'))] [Confined around p q] :
    Confined around (when? test p) (when? test q) := by
  unfold Parser.when?
  infer_instance

theorem outcome_loop {step step' : σ → Parser (σ ⊕ α)}
    (hstep : ∀ s, Confined around (step s) (step' s)) (s : σ)
    (h : CursorsBeside around c d) :
    Outcome around (loop step s c) (loop step' s d) := by
  -- Induction on what is left to read.
  generalize hlength : c.tokens.length = n
  induction n using Nat.strongRecOn generalizing s c d with
  | ind n ih =>
    subst hlength
    rw [loop_eq, loop_eq]
    have hround := (hstep s).outcome c d h
    generalize step s c = x at hround
    generalize step' s d = y at hround
    cases hround with
    | error => exact .error
    | @ok r c' d' h' =>
      cases r with
      | inr a => exact .ok h'
      | inl next =>
        have hlength := h.tokens.length_eq
        have hlength' := h'.tokens.length_eq
        dsimp only
        by_cases hless : c'.tokens.length < c.tokens.length
        · rw [if_pos hless, if_pos (by omega)]
          exact ih _ hless next h' rfl
        · rw [if_neg hless, if_neg (by omega)]
          exact .error

instance loop (step step' : σ → Parser (σ ⊕ α)) (s : σ)
    [hstep : ∀ s, Confined around (step s) (step' s)] :
    Confined around (loop step s) (loop step' s) :=
  ⟨fun _ _ h => outcome_loop hstep s h⟩

theorem loop_of {step step' : σ → Parser (σ ⊕ α)} {s : σ}
    (hstep : ∀ s, Confined around (step s) (step' s)) :
    Confined around (Parser.loop step s) (Parser.loop step' s) :=
  loop step step' s

/-- The state of a loop may be a pair. -/
instance (priority := high) loop_pair (step step' : σ × τ → Parser (σ × τ ⊕ α)) (s : σ × τ)
    [∀ a b, Confined around (step (a, b)) (step' (a, b))] :
    Confined around (Parser.loop step s) (Parser.loop step' s) :=
  have _ (r : σ × τ) : Confined around (step r) (step' r) :=
    inferInstanceAs (Confined around (step (r.1, r.2)) (step' (r.1, r.2)))
  loop step step' s

section Repetition

variable (stop : List Token → Bool) [∀ trees : Trees, Same (stop (trees.tokens ++ around.before after))
  (stop (trees.tokens ++ around.before after'))]

instance repeatUntil (p q : Parser α) [Confined around p q] :
    Confined around (repeatUntil stop p) (repeatUntil stop q) := by
  unfold Parser.repeatUntil
  infer_instance

instance concatUntil (p q : Parser (List Token)) [Confined around p q] :
    Confined around (concatUntil stop p) (concatUntil stop q) := by
  unfold Parser.concatUntil
  infer_instance

instance separated (text : String) (p q : Parser α) [Confined around p q] :
    Confined around (separated stop text p) (separated stop text q) := by
  unfold Parser.separated
  infer_instance

instance joined (text : String) (p q : Parser α) [Confined around p q] :
    Confined around (joined stop text p) (joined stop text q) := by
  unfold Parser.joined
  infer_instance

instance bounds (p q : Parser (List Token)) [Confined around p q] :
    Confined around (bounds stop p) (bounds stop q) := by
  unfold Parser.bounds
  infer_instance

end Repetition

instance commaSeparated (p q : Parser (List Token)) [Confined around p q] :
    Confined around (commaSeparated p) (commaSeparated q) := by
  unfold Parser.commaSeparated
  infer_instance

/-! ### Raw tokens -/

instance remaining : Confined around remaining remaining :=
  have _ : Confined around (do take (splitTree (← Parser.ahead)).1.length)
      (do take (splitTree (← Parser.ahead)).1.length) := ⟨fun _ _ h => h.take_tree⟩
  concatUntil _ _ _

instance since (ts us : List Token) [h : Beside around ts us] :
    Confined around (since ts) (since us) := by
  refine ⟨fun c d hcd => ?_⟩
  obtain ⟨trees, rfl, rfl⟩ := h.split
  obtain ⟨more, hc, hd⟩ := hcd.tokens.split
  have hread (close : List Token) :
      (trees.tokens ++ close).take ((trees.tokens ++ close).length - (more.tokens ++ close).length)
        = trees.tokens.take (trees.tokens.length - more.tokens.length) := by
    rw [List.length_append, List.length_append, Nat.add_sub_add_right,
      List.take_append_of_le_length (Nat.sub_le _ _)]
  simp only [Parser.since, bind_apply, ahead_apply, pure_apply, hc, hd, hread]
  exact .ok hcd

instance verbatim (p q : Parser α) [Confined around p q] :
    Confined around (verbatim p) (verbatim q) := by
  unfold Parser.verbatim
  infer_instance

end Confined

end Rules

end Memberwise.Parser
