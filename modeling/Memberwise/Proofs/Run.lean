import Memberwise.Listed
import Memberwise.Proofs.Stream

/-!
# Runs of parsers

How a parser runs, step by step: what each of the small parsers does with a stream, and what it has
found there if it succeeds.

## Main statements

* `bind_eq_ok`: one parser, then another
* `isOp_append_right`, `isOp_eq_cons`: an operator that comes next
* `operator_eq_ok`, `keyword_eq_ok`, `identifier_eq_ok`, `lifetime_eq_ok`: single terminals
* `name_eq_ok`: names
* `bracketed_eq_ok`: a group
* `loop_eq`: one round of a loop, then the loop again
* `repeatUntil_step`: an item, then the others
-/

namespace Memberwise.Parser

variable {α β σ : Type}

/-! ## Steps -/

theorem bind_apply (p : Parser α) (f : α → Parser β) (c : Cursor) :
    (p >>= f) c = match p c with | .ok (a, d) => f a d | .error e => .error e := by
  cases h : p c <;> simp [bind, StateT.bind, Except.bind, h]

theorem map_apply (f : α → β) (p : Parser α) (c : Cursor) :
    (f <$> p) c = match p c with | .ok (a, d) => .ok (f a, d) | .error e => .error e := by
  rw [← bind_pure_comp, bind_apply]
  rfl

theorem bind_eq_ok {p : Parser α} {f : α → Parser β} {c : Cursor} {r : β × Cursor} :
    (p >>= f) c = .ok r ↔ ∃ a d, p c = .ok (a, d) ∧ f a d = .ok r := by
  constructor
  · intro h
    rw [bind_apply] at h
    split at h
    · next a d hp => exact ⟨a, d, hp, h⟩
    · cases h
  · rintro ⟨a, d, hp, hf⟩
    rw [bind_apply, hp]
    exact hf

theorem map_eq_ok {f : α → β} {p : Parser α} {c d : Cursor} {b : β} :
    (f <$> p) c = .ok (b, d) ↔ ∃ a, b = f a ∧ p c = .ok (a, d) := by
  rw [map_apply]
  constructor
  · intro h
    split at h
    · next a e hp =>
      cases h
      exact ⟨a, rfl, hp⟩
    · cases h
  · rintro ⟨a, rfl, hp⟩
    rw [hp]

@[simp] theorem pure_apply (a : α) (c : Cursor) : (pure a : Parser α) c = .ok (a, c) := rfl

@[simp] theorem ahead_apply (c : Cursor) : ahead c = .ok (c.tokens, c) := rfl

@[simp] theorem here_apply (c : Cursor) : here c = .ok (c.span, c) := rfl

@[simp] theorem take_apply (n : Nat) (c : Cursor) :
    take n c = .ok (c.tokens.take n, { c with tokens := c.tokens.drop n }) := rfl

@[simp] theorem get_apply (c : Cursor) : (get : Parser Cursor) c = .ok (c, c) := rfl

@[simp] theorem set_apply (c d : Cursor) : (set d : Parser PUnit) c = .ok ((), d) := rfl

@[simp] theorem remember_apply (left : Option Diagnostic) (c : Cursor) :
    remember left c = .ok ((), { c with leftover := c.leftover.or left }) := rfl

@[simp] theorem reject_apply (cause : Cause) (c : Cursor) :
    (reject cause : Parser α) c = .error (c.reject cause) := rfl

@[simp] theorem rejectAt_apply (cause : Cause) (span : Span) (c : Cursor) :
    (rejectAt cause span : Parser α) c = .error (.present cause span) := rfl

theorem ite_apply (b : Prop) [Decidable b] (p q : Parser α) (c : Cursor) :
    (if b then p else q) c = if b then p c else q c := by
  split <;> rfl

theorem lift_eq_ok {r : Except Diagnostic α} {a : α} {c d : Cursor} :
    (liftM r : Parser α) c = .ok (a, d) ↔ r = .ok a ∧ d = c := by
  cases r with
  | error e => exact ⟨fun h => (by cases h), fun h => (by cases h.1)⟩
  | ok b =>
    constructor
    · intro h
      cases h
      exact ⟨rfl, rfl⟩
    · rintro ⟨⟨⟩, rfl⟩
      rfl

/-- What is expected is never there. -/
theorem expected_ne_ok (choices : List Terminal) (c : Cursor) (r : α × Cursor) :
    expected choices c ≠ .ok r := by
  simp only [expected, bind_apply, get_apply, ite_apply]
  split <;> exact fun h => by cases h

/-- A whole stream is read to its end, with nothing left over in a group. -/
theorem parseAll_eq_ok {p : Parser α} {ts : List Token} {limit : Span} {a : α} :
    parseAll p ts limit = .ok a ↔
      ∃ c, p (.ofTokens ts limit) = .ok (a, c) ∧ c.leftover = none ∧ atEnd c.tokens = true := by
  simp only [parseAll, bind, Except.bind]
  constructor
  · intro h
    split at h
    · cases h
    · next r hread =>
      split at h
      · cases h
      · next hleft =>
        split at h
        · next hend =>
          cases h
          exact ⟨r.2, hread, hleft, hend⟩
        · cases h
  · rintro ⟨c, hread, hleft, hend⟩
    simp only [hread, hleft, hend, if_true]
    rfl

/-! ## Terminals -/

section Terminals

variable {text : String} {c : Cursor}

@[simp] theorem length_operatorLexemes (cs : List Char) :
    (operatorLexemes cs).length = cs.length := by
  fun_induction operatorLexemes cs <;> simp_all

theorem lexemes_zipWith_span {ls : List Lexeme} {ts : List Token} (h : ls.length ≤ ts.length) :
    lexemes (List.zipWith (fun l t => ⟨l, t.span⟩) ls ts) = ls := by
  induction ls generalizing ts with
  | nil => rfl
  | cons l ls ih =>
    cases ts with
    | nil => simp at h
    | cons t ts => simpa using ih (by simpa using h)

/-- An operator that is read is spaced as an operator. -/
theorem lexemes_respaced {text : String} {ts : List Token} (h : text.length ≤ ts.length) :
    lexemes (respaced text ts) = operatorLexemes text.toList :=
  lexemes_zipWith_span (by simpa [String.length_toList] using h)

theorem operatorStarts_append {cs : List Char} {ts : List Token} (hne : cs ≠ [])
    (h : lexemes ts = operatorLexemes cs) (rest : List Token) :
    operatorStarts cs (ts ++ rest) = true := by
  induction cs generalizing ts with
  | nil => exact absurd rfl hne
  | cons c cs ih =>
    cases cs with
    | nil =>
      obtain ⟨⟨l, span⟩, rfl⟩ : ∃ t, ts = [t] := List.length_eq_one_iff.1 (by
        simpa using congrArg List.length h)
      simp only [operatorLexemes, lexemes_cons, lexemes_nil, List.cons.injEq] at h
      simp [h.1, operatorStarts]
    | cons d cs =>
      cases ts with
      | nil => simp [operatorLexemes] at h
      | cons t ts =>
        obtain ⟨l, span⟩ := t
        simp only [operatorLexemes, lexemes_cons, List.cons.injEq] at h
        obtain ⟨rfl, h⟩ := h
        simp [operatorStarts, ih (by simp) h]

theorem isOp_append {text : String} {ts : List Token} (hne : text ≠ "")
    (h : lexemes ts = operatorLexemes text.toList) (rest : List Token) :
    isOp text (ts ++ rest) = true :=
  operatorStarts_append (by simpa using hne) h rest

theorem operatorStarts_append_right {cs : List Char} {ts : List Token}
    (h : operatorStarts cs ts = true) (us : List Token) : operatorStarts cs (ts ++ us) = true := by
  fun_induction operatorStarts cs ts <;> simp_all [operatorStarts]

/-- An operator that comes next does so whatever follows. -/
theorem isOp_append_right {text : String} {ts : List Token} (h : isOp text ts = true)
    (us : List Token) : isOp text (ts ++ us) = true :=
  operatorStarts_append_right h us

/-- An operator begins with its first character. -/
theorem isOp_eq_cons {text : String} {char : Char} {cs : List Char} (htext : text.toList = char :: cs)
    {ts : List Token} (h : isOp text ts = true) :
    ∃ spacing span us, ts = ⟨.punct char spacing, span⟩ :: us := by
  have h : operatorStarts text.toList ts = true := h
  rw [htext] at h
  cases ts with
  | nil => cases cs <;> cases h
  | cons t us =>
    obtain ⟨l, span⟩ := t
    cases l with
    | punct char' spacing =>
      refine ⟨spacing, span, us, ?_⟩
      obtain rfl : char = char' := by
        cases cs <;> cases spacing <;> simp [operatorStarts] at h
        all_goals first | exact h | exact h.1
      rfl
    | ident | literal | opening | closing => cases cs <;> cases h

theorem operator_apply (text : String) (c : Cursor) :
    operator text c =
      if isOp text c.tokens then
        .ok (respaced text (c.tokens.take text.length),
          { c with tokens := c.tokens.drop text.length })
      else .error (.present (.expected [.operator text]) c.span) := by
  simp only [operator, bind_apply, ahead_apply, ite_apply]
  split <;> rfl

/-! Looking ahead. -/

theorem isWord_iff {ts : List Token} :
    isWord text ts = true ↔ ∃ span rest, ts = ⟨.ident text, span⟩ :: rest := by
  cases ts with
  | nil => simp [isWord, Terminal.starts]
  | cons t rest =>
    obtain ⟨l, span⟩ := t
    cases l <;> simp [isWord, Terminal.starts]

/-- A word that comes next does so whatever follows. -/
theorem isWord_append_right {ts : List Token} (h : isWord text ts = true) (us : List Token) :
    isWord text (ts ++ us) = true := by
  obtain ⟨span, vs, rfl⟩ := isWord_iff.1 h
  exact isWord_iff.2 ⟨span, vs ++ us, rfl⟩

theorem isIdent_iff {ts : List Token} :
    isIdent ts = true ↔
      ∃ word span rest, isReserved word = false ∧ ts = ⟨.ident word, span⟩ :: rest := by
  cases ts with
  | nil => simp [isIdent, Terminal.starts]
  | cons t rest =>
    obtain ⟨l, span⟩ := t
    cases l <;> simp [isIdent, Terminal.starts]

theorem wordStarts_iff {ts : List Token} :
    Terminal.word.starts ts = true ↔ ∃ word span rest, ts = ⟨.ident word, span⟩ :: rest := by
  cases ts with
  | nil => simp [Terminal.starts]
  | cons t rest =>
    obtain ⟨l, span⟩ := t
    cases l <;> simp [Terminal.starts]

theorem groupStarts_iff {d : Delimiter} {ts : List Token} :
    (Terminal.group d).starts ts = true ↔ ∃ first rest, ts = ⟨.opening d, first⟩ :: rest := by
  cases ts with
  | nil => simp [Terminal.starts]
  | cons t rest =>
    obtain ⟨l, span⟩ := t
    cases l <;> simp [Terminal.starts]
    exact eq_comm

/-- What a literal is: one token, or a number after its sign. -/
theorem literal_begins {ts : List Token} (h : isLiteral ts = true) :
    (∃ text span rest, ts = ⟨.literal text, span⟩ :: rest)
      ∨ (∃ word span rest, ts = ⟨.ident word, span⟩ :: rest)
      ∨ ∃ spacing span text place rest,
        ts = ⟨.punct '-' spacing, span⟩ :: ⟨.literal text, place⟩ :: rest := by
  unfold isLiteral Terminal.starts at h
  split at h <;> simp_all

theorem isLifetime_iff {ts : List Token} :
    isLifetime ts = true ↔ ∃ mark word span rest,
      ts = ⟨.punct '\x27' .joint, mark⟩ :: ⟨.ident word, span⟩ :: rest := by
  constructor
  · intro h
    unfold isLifetime Terminal.starts at h
    split at h <;> simp_all
  · rintro ⟨mark, word, span, rest, rfl⟩
    rfl

/-- The characters of an operator stand in front, as punctuation. -/
theorem isOp_split {ts : List Token} (h : isOp text ts = true) :
    (ts.take text.length).map Token.text = text.toList.map Char.toString
      ∧ Whole (ts.take text.length) := by
  suffices general : ∀ (cs : List Char) (ts : List Token), operatorStarts cs ts = true →
      (ts.take cs.length).map Token.text = cs.map Char.toString ∧ Whole (ts.take cs.length) by
    simpa [String.length_toList] using general text.toList ts h
  intro cs
  induction cs with
  | nil => intro ts h; exact ⟨rfl, .nil⟩
  | cons c cs ih =>
    intro ts h
    unfold operatorStarts at h
    split at h
    · next d spacing span rest hcs =>
      obtain ⟨rfl, rfl⟩ := List.cons.inj hcs
      obtain rfl : c = d := by simpa using h
      exact ⟨rfl, Whole.leaf _ (by simp) rfl⟩
    · next d span rest hmore hcs =>
      obtain ⟨rfl, rfl⟩ := List.cons.inj hcs
      obtain ⟨hd, hrest⟩ : c = d ∧ operatorStarts cs rest = true := by simpa using h
      obtain ⟨htext, hwhole⟩ := ih rest hrest
      refine ⟨by simp [htext, hd, Token.text, Lexeme.text], ?_⟩
      exact Whole.append (Whole.leaf ⟨.punct d .joint, span⟩ (by simp) rfl) hwhole
    · cases h

/-! What a terminal that is read has found. -/

theorem operator_eq_ok {r : List Token × Cursor} (h : operator text c = .ok r) :
    isOp text c.tokens = true
      ∧ r = (respaced text (c.tokens.take text.length),
          { c with tokens := c.tokens.drop text.length }) := by
  rw [operator_apply] at h
  split at h
  · next hop => exact ⟨hop, by simpa using h.symm⟩
  · cases h

theorem keyword_eq_ok {r : List Token × Cursor} (h : keyword text c = .ok r) :
    ∃ span rest, c.tokens = ⟨.ident text, span⟩ :: rest
      ∧ r = ([⟨.ident text, span⟩], { c with tokens := rest }) := by
  simp only [keyword, bind_apply, ahead_apply, ite_apply] at h
  split at h
  · next hword =>
    obtain ⟨span, rest, htokens⟩ := isWord_iff.1 hword
    exact ⟨span, rest, htokens, by simpa [htokens] using h.symm⟩
  · cases h

theorem itemKeyword_eq_ok {n : Name} {d : Cursor} (h : itemKeyword text c = .ok (n, d)) :
    isWord text c.tokens = true ∧ n.text = text := by
  obtain ⟨_, _, hkeyword, hr⟩ := bind_eq_ok.1 h
  obtain ⟨span, rest, htokens, hd⟩ := keyword_eq_ok hkeyword
  cases hd
  cases hr
  exact ⟨isWord_iff.2 ⟨span, rest, htokens⟩, rfl⟩

theorem anyWord_eq_ok {r : List Token × Cursor} (h : anyWord c = .ok r) :
    ∃ word span rest, c.tokens = ⟨.ident word, span⟩ :: rest
      ∧ r = ([⟨.ident word, span⟩], { c with tokens := rest }) := by
  simp only [anyWord, bind_apply, ahead_apply, ite_apply] at h
  split at h
  · next hword =>
    obtain ⟨word, span, rest, htokens⟩ := wordStarts_iff.1 hword
    exact ⟨word, span, rest, htokens, by simpa [htokens] using h.symm⟩
  · cases h

theorem identifier_eq_ok {r : List Token × Cursor} (h : identifier c = .ok r) :
    ∃ word span rest, isReserved word = false ∧ c.tokens = ⟨.ident word, span⟩ :: rest
      ∧ r = ([⟨.ident word, span⟩], { c with tokens := rest }) := by
  obtain ⟨ts, left, limit⟩ := c
  simp only [identifier, bind_apply, ahead_apply] at h
  split at h
  · next word span rest =>
    rw [ite_apply] at h
    split at h
    · cases h
    · next hreserved =>
      exact ⟨word, span, rest, by simpa using hreserved, rfl, by simpa using h.symm⟩
  · cases h

theorem lifetime_eq_ok {r : List Token × Cursor} (h : lifetime c = .ok r) :
    ∃ mark word span rest,
      c.tokens = ⟨.punct '\x27' .joint, mark⟩ :: ⟨.ident word, span⟩ :: rest
        ∧ r = ([⟨.punct '\x27' .joint, mark⟩, ⟨.ident word, span⟩], { c with tokens := rest }) := by
  simp only [lifetime, bind_apply, ahead_apply, ite_apply] at h
  split at h
  · next hlifetime =>
    obtain ⟨mark, word, span, rest, htokens⟩ := isLifetime_iff.1 hlifetime
    exact ⟨mark, word, span, rest, htokens, by simpa [htokens] using h.symm⟩
  · cases h

theorem name_eq_ok {n : Name} {d : Cursor} :
    name c = .ok (n, d) ↔ ∃ word span rest, isReserved word = false
      ∧ c.tokens = ⟨.ident word, span⟩ :: rest ∧ n = ⟨word, span⟩ ∧ d = { c with tokens := rest } := by
  constructor
  · intro h
    obtain ⟨ts, e, hread, hpure⟩ := bind_eq_ok.1 h
    obtain ⟨word, span, rest, hfree, htokens, hr⟩ := identifier_eq_ok hread
    cases hr
    cases hpure
    exact ⟨word, span, rest, hfree, htokens, rfl, rfl⟩
  · rintro ⟨word, span, rest, hfree, htokens, rfl, rfl⟩
    simp [name, identifier, bind_apply, htokens, hfree, Name.ofTokens, Lexeme.text]

/-- A sign of one character, which may be the beginning of a longer operator. -/
theorem operator_single_eq_ok {char : Char} (htext : text.toList = [char]) {r : List Token}
    {d : Cursor} :
    operator text c = .ok (r, d) ↔ ∃ spacing span rest,
      c.tokens = ⟨.punct char spacing, span⟩ :: rest ∧ r = [⟨.punct char .alone, span⟩]
        ∧ d = { c with tokens := rest } := by
  have hlength : text.length = 1 := by rw [← String.length_toList, htext]; rfl
  constructor
  · intro h
    obtain ⟨hop, hr⟩ := operator_eq_ok h
    obtain ⟨spacing, span, rest, htokens⟩ := isOp_eq_cons htext hop
    refine ⟨spacing, span, rest, htokens, ?_⟩
    simpa [htokens, hlength, respaced, htext, operatorLexemes] using hr
  · rintro ⟨spacing, span, rest, htokens, rfl, rfl⟩
    have hop : isOp text c.tokens = true := by
      rw [htokens]
      simp [isOp, Terminal.starts, htext, operatorStarts]
    rw [operator_apply, if_pos hop, htokens, hlength]
    simp [respaced, htext, operatorLexemes]

end Terminals

/-! ## Groups -/

/-- A group that has been read: its contents, and what is left in it. -/
theorem bracketed_eq_ok {d : Delimiter} {p : Parser α} {c c' : Cursor} {r : Token × α × Token}
    (h : bracketed d p c = .ok (r, c')) :
    ∃ first us a c₁, c.tokens = ⟨.opening d, first⟩ :: us
      ∧ p { c with tokens := us } = .ok (a, c₁)
      ∧ r = (⟨.opening d, first⟩, a,
          ((splitGroup 0 c₁.tokens).1.getLast?).getD ⟨.closing d, c₁.limit⟩)
      ∧ c' = { c₁ with
          tokens := (splitGroup 0 c₁.tokens).2
          leftover := c₁.leftover.or (leftIn d c₁) } := by
  obtain ⟨ts, left, limit⟩ := c
  rw [bracketed, bracketedThen, bind_apply, ahead_apply] at h
  simp only at h
  cases ts with
  | nil => cases h
  | cons t us =>
    obtain ⟨l, first⟩ := t
    simp only [ite_apply] at h
    split at h
    · next hopening =>
      subst hopening
      obtain ⟨_, _, htake, hafter⟩ := bind_eq_ok.1 h
      obtain ⟨a, c₁, ha, hclose⟩ := bind_eq_ok.1 hafter
      cases htake
      refine ⟨first, us, a, c₁, rfl, ha, ?_⟩
      simp only [bind_apply, get_apply, set_apply, pure_apply, remember_apply, Except.ok.injEq,
        Prod.mk.injEq] at hclose
      exact ⟨hclose.1.symm, hclose.2.symm⟩
    · cases h

/-! ## Repetition -/

section Repetition

variable {item : Parser α} {stop : List Token → Bool}

/-- One round of a loop, then the loop again. A round that reads nothing is an error. -/
theorem loop_eq (step : σ → Parser (σ ⊕ α)) (s : σ) (c : Cursor) :
    loop step s c =
      match step s c with
      | .ok (.inr a, d) => .ok (a, d)
      | .ok (.inl next, d) =>
        if d.tokens.length < c.tokens.length then loop step next d else .error (d.surplus none)
      | .error e => .error e := by
  rw [loop, iterate_eq]
  simp only
  cases step s c with
  | error e => rfl
  | ok r =>
    obtain ⟨next | a, d⟩ := r
    · rfl
    · rfl

/-- One round of reading items: the next of them, unless the stream is as `stop` says. -/
def repeatRound (stop : List Token → Bool) (item : Parser α) (items : List α) :
    Parser (List α ⊕ List α) := do
  if stop (← ahead) then return .inr items.reverse
  else return .inl ((← item) :: items)

theorem repeatUntil_eq (stop : List Token → Bool) (item : Parser α) :
    repeatUntil stop item = loop (repeatRound stop item) [] := rfl

theorem repeatRound_apply (items : List α) (c : Cursor) :
    repeatRound stop item items c =
      if stop c.tokens then .ok (.inr items.reverse, c)
      else match item c with
        | .ok (a, d) => .ok (.inl (a :: items), d)
        | .error e => .error e := by
  simp only [repeatRound, bind_apply, ahead_apply, ite_apply, pure_apply]

/-- The items that were read before come first. -/
theorem loop_repeatRound (items : List α) (c : Cursor) :
    loop (repeatRound stop item) items c = ((items.reverse ++ ·) <$> repeatUntil stop item) c := by
  -- Induction on what is left to read.
  generalize hlength : c.tokens.length = n
  induction n using Nat.strongRecOn generalizing items c with
  | ind n ih =>
    subst hlength
    rw [map_apply, repeatUntil_eq, loop_eq, loop_eq, repeatRound_apply, repeatRound_apply]
    by_cases hstop : stop c.tokens
    · simp [hstop]
    · simp only [hstop, Bool.false_eq_true, if_false]
      cases hitem : item c with
      | error e => rfl
      | ok r =>
        obtain ⟨a, d⟩ := r
        by_cases hless : d.tokens.length < c.tokens.length
        · simp only [hless, if_true, ih _ hless _ d rfl, map_apply]
          cases repeatUntil stop item d <;> simp
        · simp [hless]

/-- An item, then the others. -/
theorem repeatUntil_step {c d : Cursor} {a : α} (hstop : stop c.tokens = false)
    (hitem : item c = .ok (a, d)) (hless : d.tokens.length < c.tokens.length) :
    repeatUntil stop item c = ((a :: ·) <$> repeatUntil stop item) d := by
  rw [repeatUntil_eq, loop_eq, repeatRound_apply, hstop, hitem]
  simp only [Bool.false_eq_true, if_false, hless, if_true, loop_repeatRound]
  rfl

/-- One round of reading a list: an item and, unless the stream is as `done` says, a separator. -/
def listRound (stop done : List Token → Bool) (separator : String) (item : Parser α)
    (items : List α) : Parser (List α ⊕ Listed α) := do
  if stop (← ahead) then return .inr ⟨items.reverse, !items.isEmpty⟩
  let items := (← item) :: items
  if done (← ahead) then return .inr ⟨items.reverse, false⟩
  let _ ← operator separator
  return .inl items

theorem separated_eq (stop : List Token → Bool) (separator : String) (item : Parser α) :
    separated stop separator item = loop (listRound stop stop separator item) [] := rfl

theorem joined_eq (stop : List Token → Bool) (separator : String) (item : Parser α) :
    joined stop separator item = loop (listRound stop (!isOp separator ·) separator item) [] := rfl

end Repetition

end Memberwise.Parser
