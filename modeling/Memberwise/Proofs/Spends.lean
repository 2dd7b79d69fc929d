import Memberwise.Proofs.Run

/-!
# What a parser has read

A parser that succeeds has read some tokens at the front of the stream: whole trees of it, without
anything left over in a group. What is kept of them is then a statement about the result and those
tokens, which is put together from the statements about its parts.

That nothing is left over shows only at the end, when the stream is rejected for the first token that
was. So each rule works backwards: with nothing left over in the end, there was nothing before.

## Main definitions

* `Closed`: every group of the stream is closed in it, those included in which it starts
* `Parser.Spends`: what a parser makes of the tokens that it reads
* `texts`: the texts of the tokens, without their spacing

## Main statements

* `Spends.bind`, `Spends.loop`, `Spends.bracketed`: sequences, repetition and groups
* `spends_repeatUntil`, `spends_list`: what is kept of a list is kept of its items
-/

namespace Memberwise

/-! ## Closed streams -/

/-- Every group is closed in the stream, those included in which it starts. -/
def Closed (ts : List Token) : Prop := ∃ groups, openAfter groups (lexemes ts) = some []

theorem Whole.closed {ts : List Token} (h : Whole ts) : Closed ts := ⟨[], h⟩

/-- Whole trees do not begin with a bracket that closes. -/
theorem Whole.eq_nil_of_atEnd {ts : List Token} (h : Whole ts) (hend : atEnd ts = true) : ts = [] := by
  cases ts with
  | nil => rfl
  | cons t ts =>
    obtain ⟨l, span⟩ := t
    cases l with
    | closing d => simp [Whole, Memberwise.openAfter] at h
    | ident | punct | literal | opening => simp [atEnd, Lexeme.isClosing] at hend

/-- What follows whole trees is as closed as all of it. -/
theorem Closed.of_append {ts us : List Token} (h : Closed (ts ++ us)) (ht : Whole ts) :
    Closed us := by
  obtain ⟨groups, h⟩ := h
  rw [lexemes_append, openAfter_append, ht.openAfter] at h
  exact ⟨groups, h⟩

/-- Inside a group, something closes it. -/
theorem closing_of_openAfter {pre groups : List Delimiter} {d : Delimiter} {us : List Token}
    (h : openAfter (pre ++ d :: groups) (lexemes us) = some []) :
    ∃ content last after, us = content ++ ⟨.closing d, last⟩ :: after
      ∧ openAfter pre (lexemes content) = some [] := by
  induction us generalizing pre with
  | nil => cases pre <;> simp [openAfter] at h
  | cons t us ih =>
    obtain ⟨l, span⟩ := t
    cases l with
    | opening e =>
      obtain ⟨content, last, after, rfl, hcontent⟩ := @ih (e :: pre) h
      exact ⟨⟨.opening e, span⟩ :: content, last, after, rfl, hcontent⟩
    | closing e =>
      cases pre with
      | nil =>
        by_cases he : d = e
        · exact ⟨[], span, us, by rw [he]; rfl, rfl⟩
        · simp [openAfter, he] at h
      | cons f pre =>
        by_cases he : f = e
        · obtain ⟨content, last, after, rfl, hcontent⟩ := @ih pre (by simpa [openAfter, he] using h)
          refine ⟨⟨.closing e, span⟩ :: content, last, after, rfl, ?_⟩
          simpa [openAfter, he] using hcontent
        · simp [openAfter, he] at h
    | ident | punct | literal =>
      rw [lexemes_cons, openAfter_leaf _ _ _ (by simp) rfl] at h
      obtain ⟨content, last, after, rfl, hcontent⟩ := ih h
      refine ⟨_ :: content, last, after, rfl, ?_⟩
      rw [lexemes_cons, openAfter_leaf _ _ _ (by simp) rfl]
      exact hcontent

/-- A group of a closed stream is a whole tree. -/
theorem Closed.splitTree_opening {d : Delimiter} {first : Span} {us : List Token}
    (h : Closed (⟨.opening d, first⟩ :: us)) :
    ∃ content last after, us = content ++ ⟨.closing d, last⟩ :: after ∧ Whole content
      ∧ splitTree (⟨.opening d, first⟩ :: us)
        = (⟨.opening d, first⟩ :: content ++ [⟨.closing d, last⟩], after) := by
  obtain ⟨groups, h⟩ := h
  obtain ⟨content, last, after, rfl, hcontent⟩ := @closing_of_openAfter [] groups d us h
  exact ⟨content, last, after, rfl, hcontent, splitTree_group hcontent d first last after⟩

theorem take_splitTree (ts : List Token) : ts.take (splitTree ts).1.length = (splitTree ts).1 := by
  calc ts.take (splitTree ts).1.length
      = ((splitTree ts).1 ++ (splitTree ts).2).take (splitTree ts).1.length := by
        rw [splitTree_append]
    _ = (splitTree ts).1 := List.take_left

/-! ## Texts -/

/-- The texts of the tokens, which do not show their spacing. -/
def texts (ts : List Token) : List String := ts.map Token.text

@[simp] theorem texts_nil : texts [] = [] := rfl

@[simp] theorem texts_cons (t : Token) (ts : List Token) : texts (t :: ts) = t.text :: texts ts := rfl

@[simp] theorem texts_append (ts us : List Token) : texts (ts ++ us) = texts ts ++ texts us :=
  List.map_append

theorem texts_eq_lexemes (ts : List Token) : texts ts = (lexemes ts).map Lexeme.text := by
  simp [texts, lexemes, Token.text, Function.comp_def]

theorem operatorLexemes_texts (cs : List Char) :
    (operatorLexemes cs).map Lexeme.text = cs.map Char.toString := by
  fun_induction operatorLexemes cs <;> simp_all [Lexeme.text]

theorem texts_operator (text : String) :
    texts (Generated.operator text) = text.toList.map Char.toString := by
  rw [texts_eq_lexemes, ← operatorLexemes_texts]
  simp [Generated.operator, lexemes, Function.comp_def]

namespace Parser

variable {α β σ : Type} {c : Cursor} {p : Parser α} {Q : α → List Token → Prop}
  {Q' : β → List Token → Prop}

/-! ## Spending tokens -/

/-- If the parser succeeds at `c` and nothing is left over in the end, then nothing was before, and
if the stream is closed, the parser has read whole trees of it, of which `Q` holds with the result. -/
def Spends (c : Cursor) (p : Parser α) (Q : α → List Token → Prop) : Prop :=
  ∀ a c', p c = .ok (a, c') → c'.leftover = none → c.leftover = none ∧ (Closed c.tokens →
    c'.limit = c.limit ∧ ∃ ts, c.tokens = ts ++ c'.tokens ∧ Whole ts ∧ Q a ts)

namespace Spends

theorem mono {R : α → List Token → Prop} (h : Spends c p Q) (hQ : ∀ a ts, Q a ts → R a ts) :
    Spends c p R := by
  intro a c' hp hleft
  obtain ⟨hnone, hclosed⟩ := h a c' hp hleft
  refine ⟨hnone, fun hc => ?_⟩
  obtain ⟨hlimit, ts, hts, hwhole, ha⟩ := hclosed hc
  exact ⟨hlimit, ts, hts, hwhole, hQ a ts ha⟩

theorem pure {a : α} (h : Q a []) : Spends c (pure a) Q := by
  rintro _ _ ⟨⟩ hleft
  exact ⟨hleft, fun _ => ⟨rfl, [], rfl, .nil, h⟩⟩

/-- One parser, then another: the statement about both follows from what was found by the first. -/
theorem bind {f : α → Parser β} (hp : Spends c p Q)
    (hf : ∀ a d, Spends d (f a) fun b us => ∀ ts, Q a ts → Q' b (ts ++ us)) :
    Spends c (p >>= f) Q' := by
  intro b c' h hleft
  obtain ⟨a, d, ha, hb⟩ := bind_eq_ok.1 h
  obtain ⟨hdleft, hsecond⟩ := hf a d b c' hb hleft
  obtain ⟨hnone, hfirst⟩ := hp a d ha hdleft
  refine ⟨hnone, fun hclosed => ?_⟩
  obtain ⟨hlimit, ts, hts, hwhole, hQ⟩ := hfirst hclosed
  rw [hts] at hclosed
  obtain ⟨hlimit', us, hus, hwhole', hQ'⟩ := hsecond (hclosed.of_append hwhole)
  exact ⟨hlimit'.trans hlimit, ts ++ us, by rw [hts, hus, List.append_assoc],
    hwhole.append hwhole', hQ' ts hQ⟩

theorem bind_pure {f : α → β} (hp : Spends c p Q) (hf : ∀ a ts, Q a ts → Q' (f a) ts) :
    Spends c (p >>= fun a => Pure.pure (f a)) Q' :=
  hp.bind fun a _ => pure fun ts ha => by simpa using hf a ts ha

theorem map {f : α → β} (hp : Spends c p Q) (hf : ∀ a ts, Q a ts → Q' (f a) ts) :
    Spends c (f <$> p) Q' := by
  rw [← bind_pure_comp]
  exact bind_pure hp hf

/-- Looking ahead spends nothing. -/
theorem ahead {f : List Token → Parser β} (hf : Spends c (f c.tokens) Q') :
    Spends c (ahead >>= f) Q' := hf

theorem here {f : Span → Parser β} (hf : ∀ span, Spends c (f span) Q') :
    Spends c (here >>= f) Q' := hf _

theorem ite {b : Prop} [Decidable b] {q : Parser α} (hp : b → Spends c p Q)
    (hq : ¬ b → Spends c q Q) : Spends c (if b then p else q) Q := by
  split
  · next h => exact hp h
  · next h => exact hq h

theorem reject (cause : Cause) : Spends c (reject cause) Q := by rintro _ _ ⟨⟩

theorem expected (choices : List Terminal) : Spends c (expected choices) Q :=
  fun _ _ h => absurd h (expected_ne_ok _ _ _)

/-- A loop whose rounds keep an invariant of the state and of all tokens read so far. -/
theorem loop {step : σ → Parser (σ ⊕ α)} (Inv : σ → List Token → Prop)
    (hstep : ∀ s d, Spends d (step s) fun r us => ∀ ts, Inv s ts →
      match r with
      | .inl next => Inv next (ts ++ us)
      | .inr a => Q a (ts ++ us)) {s : σ} (hs : Inv s []) : Spends c (loop step s) Q := by
  suffices general : ∀ s c, Spends c (Parser.loop step s) fun a us =>
      ∀ ts, Inv s ts → Q a (ts ++ us) from (general s c).mono fun a us h => h [] hs
  intro s c
  -- Induction on what is left to read.
  generalize hlength : c.tokens.length = n
  induction n using Nat.strongRecOn generalizing s c with
  | ind n ih =>
    subst hlength
    intro a c' h hleft
    rw [loop_eq] at h
    split at h
    · next b d hround =>
      cases h
      exact hstep s c _ _ hround hleft
    · next next d hround =>
      split at h
      · next hless =>
        obtain ⟨hdleft, hrest⟩ := ih _ hless next d rfl a c' h hleft
        obtain ⟨hnone, hfirst⟩ := hstep s c _ _ hround hdleft
        refine ⟨hnone, fun hclosed => ?_⟩
        obtain ⟨hlimit, ts, hts, hwhole, hinv⟩ := hfirst hclosed
        rw [hts] at hclosed
        obtain ⟨hlimit', us, hus, hwhole', hQ⟩ := hrest (hclosed.of_append hwhole)
        refine ⟨hlimit'.trans hlimit, ts ++ us, by rw [hts, hus, List.append_assoc],
          hwhole.append hwhole', fun before hbefore => ?_⟩
        rw [← List.append_assoc]
        exact hQ _ (hinv before hbefore)
      · cases h
    · cases h

/-- A whole stream that is read to its end has been read as it is. -/
theorem of_parseAll {ts : List Token} {limit : Span} {a : α} (hp : Spends (.ofTokens ts limit) p Q)
    (hts : Whole ts) (h : parseAll p ts limit = .ok a) : Q a ts := by
  obtain ⟨c, hread, hleft, hend⟩ := parseAll_eq_ok.1 h
  obtain ⟨-, hclosed⟩ := hp a c hread hleft
  obtain ⟨-, us, hus, hwhole, hQ⟩ := hclosed hts.closed
  have hsplit : ts = us ++ c.tokens := hus
  have hnil : c.tokens = [] := (hwhole.of_append (hsplit ▸ hts)).eq_nil_of_atEnd hend
  rw [hsplit, hnil, List.append_nil]
  exact hQ

end Spends

/-! ## Terminals -/

section Terminals

/-- Whole trees that are counted are read as they are. -/
theorem spends_take {ts rest : List Token} (hc : c.tokens = ts ++ rest) (h : Whole ts) :
    Spends c (take ts.length) fun a us => a = ts ∧ us = ts := by
  rintro _ _ ⟨⟩ hleft
  exact ⟨hleft, fun _ => ⟨rfl, ts, by simp [hc], h, by simp [hc], rfl⟩⟩

/-- One token that is no bracket is read as it is. -/
theorem spends_take_leaf {t : Token} {rest : List Token} (hc : c.tokens = t :: rest)
    (hopen : ∀ d, t.lexeme ≠ .opening d) (hclose : t.lexeme.isClosing = false) :
    Spends c (take 1) fun a us => a = [t] ∧ us = [t] :=
  @spends_take c [t] rest hc (Whole.leaf t hopen hclose)

theorem spends_take_word {word : String} {span : Span} {rest : List Token}
    (hc : c.tokens = ⟨.ident word, span⟩ :: rest) :
    Spends c (take 1) fun a us => a = us :=
  (spends_take_leaf hc (by simp) rfl).mono fun a us h => h.1.trans h.2.symm

/-- An operator keeps its characters, not its spacing. -/
theorem spends_operator (text : String) :
    Spends c (operator text) fun a ts => texts a = texts ts
      ∧ texts ts = texts (Generated.operator text) := by
  intro a c' h hleft
  obtain ⟨hop, hr⟩ := operator_eq_ok h
  cases hr
  obtain ⟨htexts, hwhole⟩ := isOp_split hop
  refine ⟨hleft, fun _ => ⟨rfl, _, (List.take_append_drop _ _).symm, hwhole, ?_, ?_⟩⟩
  · have hlength : text.length ≤ (c.tokens.take text.length).length := by
      have := congrArg List.length htexts
      simp only [List.length_map, String.length_toList] at this
      omega
    rw [texts_eq_lexemes, lexemes_respaced hlength, operatorLexemes_texts]
    exact htexts.symm
  · rw [texts_operator]
    exact htexts

/-- An operator of one character is read from that character. -/
theorem spends_mark (char : Char) {text : String} (h : text.toList = [char]) :
    Spends c (operator text) fun _ ts => ∃ spacing span, ts = [⟨.punct char spacing, span⟩] := by
  have hlength : text.length = 1 := by
    rw [← String.length_toList, h]
    rfl
  intro a d hread hleft
  obtain ⟨hop, hr⟩ := operator_eq_ok hread
  cases hr
  obtain ⟨spacing, span, us, htokens⟩ := isOp_eq_cons h hop
  refine ⟨hleft, fun _ => ⟨rfl, [⟨.punct char spacing, span⟩], ?_, Whole.leaf _ (by simp) rfl,
    spacing, span, rfl⟩⟩
  simp [htokens, hlength]

theorem spends_keyword (text : String) :
    Spends c (keyword text) fun a ts => a = ts ∧ texts ts = [text] := by
  intro a c' h hleft
  obtain ⟨span, rest, htokens, hr⟩ := keyword_eq_ok h
  cases hr
  exact ⟨hleft, fun _ => ⟨rfl, _, htokens, Whole.leaf _ (by simp) rfl, rfl, rfl⟩⟩

theorem spends_anyWord : Spends c anyWord fun a ts => a = ts ∧ ∃ t, ts = [t] := by
  intro a c' h hleft
  obtain ⟨word, span, rest, htokens, hr⟩ := anyWord_eq_ok h
  cases hr
  exact ⟨hleft, fun _ => ⟨rfl, _, htokens, Whole.leaf _ (by simp) rfl, rfl, _, rfl⟩⟩

theorem spends_identifier : Spends c identifier fun a ts => a = ts ∧ ∃ t, ts = [t] := by
  intro a c' h hleft
  obtain ⟨word, span, rest, -, htokens, hr⟩ := identifier_eq_ok h
  cases hr
  exact ⟨hleft, fun _ => ⟨rfl, _, htokens, Whole.leaf _ (by simp) rfl, rfl, _, rfl⟩⟩

theorem spends_lifetime : Spends c lifetime fun a ts => a = ts := by
  intro a c' h hleft
  obtain ⟨mark, word, span, rest, htokens, hr⟩ := lifetime_eq_ok h
  cases hr
  refine ⟨hleft, fun _ => ⟨rfl, _, htokens, ?_, rfl⟩⟩
  exact (Whole.leaf ⟨.punct '\x27' .joint, mark⟩ (by simp) rfl).append
    (Whole.leaf ⟨.ident word, span⟩ (by simp) rfl)

theorem texts_ofTokens (t : Token) : texts (Name.ofTokens [t]).tokens = texts [t] := by
  obtain ⟨l, span⟩ := t
  rfl

theorem spends_anyName : Spends c anyName fun n ts => texts n.tokens = texts ts := by
  refine spends_anyWord.bind_pure ?_
  rintro _ ts ⟨rfl, t, rfl⟩
  exact texts_ofTokens t

theorem spends_name : Spends c name fun n ts => texts n.tokens = texts ts := by
  refine spends_identifier.bind_pure ?_
  rintro _ ts ⟨rfl, t, rfl⟩
  exact texts_ofTokens t

theorem spends_itemKeyword (text : String) :
    Spends c (itemKeyword text) fun n ts => texts n.tokens = texts ts := by
  refine (spends_keyword text).bind_pure ?_
  rintro ts _ ⟨rfl, htext⟩
  match ts, htext with
  | [t], _ => exact texts_ofTokens t

end Terminals

/-! ## Groups -/

/-- Nothing is left in a group that ends. -/
theorem atEnd_of_leftIn {d : Delimiter} {c : Cursor} (h : leftIn d c = none) :
    atEnd c.tokens = true := by
  rw [leftIn] at h
  split at h
  · next hend => exact hend
  · cases h

/-- At the end of a group in a closed stream stands the bracket that closes it. -/
theorem closing_of_atEnd {d : Delimiter} {groups : List Delimiter} {ts : List Token}
    (hend : atEnd ts = true) (h : openAfter (d :: groups) (lexemes ts) = some []) :
    ∃ last rest, ts = ⟨.closing d, last⟩ :: rest := by
  cases ts with
  | nil => simp [openAfter] at h
  | cons t rest =>
    obtain ⟨l, last⟩ := t
    cases l with
    | closing e =>
      by_cases he : d = e
      · exact ⟨last, rest, by rw [he]⟩
      · simp [openAfter, he] at h
    | ident | punct | literal | opening => simp [atEnd, Lexeme.isClosing] at hend

/-- A group is read with its brackets, up to the one that closes it. -/
theorem Spends.bracketed {d : Delimiter} (hp : ∀ c, Spends c p Q) :
    Spends c (bracketed d p) fun r ts => ∃ first last us, r.1 = ⟨.opening d, first⟩
      ∧ r.2.2 = ⟨.closing d, last⟩ ∧ Q r.2.1 us
      ∧ ts = ⟨.opening d, first⟩ :: us ++ [⟨.closing d, last⟩] := by
  obtain ⟨ts, left, limit⟩ := c
  intro r c' h hleft
  obtain ⟨first, us, a, c₁, htokens, ha, rfl, rfl⟩ := bracketed_eq_ok h
  obtain ⟨hleft₁, hin⟩ : c₁.leftover = none ∧ leftIn d c₁ = none := Option.or_eq_none_iff.1 hleft
  obtain ⟨hnone, hcontent⟩ := hp _ a c₁ ha hleft₁
  refine ⟨hnone, ?_⟩
  rintro ⟨groups, hclosed⟩
  simp only at htokens hclosed hcontent ⊢
  subst htokens
  obtain ⟨hlimit, ts, rfl, hwhole, hQ⟩ := hcontent ⟨d :: groups, hclosed⟩
  have hrest : openAfter (d :: groups) (lexemes c₁.tokens) = some [] := by
    simpa [openAfter_append, hwhole.openAfter, openAfter] using hclosed
  obtain ⟨last, rest, hlast⟩ := closing_of_atEnd (atEnd_of_leftIn hin) hrest
  have hsplit : splitGroup 0 c₁.tokens = ([⟨.closing d, last⟩], rest) := by
    rw [hlast]
    rfl
  refine ⟨hlimit, ⟨.opening d, first⟩ :: ts ++ [⟨.closing d, last⟩], ?_, hwhole.group d first last,
    first, last, ts, rfl, ?_, hQ, rfl⟩
  · rw [hsplit, hlast]
    simp
  · simp [hsplit]

/-- A group is read for the value of its contents. -/
theorem Spends.inside {d : Delimiter} (hp : ∀ c, Spends c p Q) :
    Spends c (inside d p) fun a ts => ∃ first last us, Q a us
      ∧ ts = ⟨.opening d, first⟩ :: us ++ [⟨.closing d, last⟩] := by
  refine (Spends.bracketed hp).bind_pure ?_
  rintro _ _ ⟨first, last, us, -, -, hQ, rfl⟩
  exact ⟨first, last, us, hQ, rfl⟩

theorem texts_group (d : Delimiter) (first last : Span) (ts : List Token) :
    texts (⟨.opening d, first⟩ :: ts ++ [⟨.closing d, last⟩]) = texts (Generated.group d ts) := by
  simp [Generated.group, Token.text]

end Parser

/-! ## Lists -/

namespace Parser

variable {α : Type} {c : Cursor} {item : Parser α} {f : α → List Token}

/-- Items that keep their texts, each if it is as it has to be. -/
theorem spends_repeatUntil (Good : α → Prop) (stop : List Token → Bool)
    (hitem : ∀ c, Spends c item fun a ts => Good a → texts (f a) = texts ts) :
    Spends c (repeatUntil stop item) fun as ts =>
      (∀ a ∈ as, Good a) → texts (as.flatMap f) = texts ts := by
  refine Spends.loop (fun items ts =>
    (∀ a ∈ items, Good a) → texts (items.reverse.flatMap f) = texts ts) ?_ (fun _ => rfl)
  intro items d
  refine Spends.ahead (Spends.ite (fun _ => ?_) fun _ => ?_)
  · refine Spends.pure fun ts hts hgood => ?_
    simpa using hts (by simpa using hgood)
  · refine (hitem d).bind_pure fun a us ha ts hts hgood => ?_
    have hfirst := hts fun b hb => hgood b (by simp [hb])
    simp [hfirst, ha (hgood a (by simp))]

/-- A list with separators keeps its texts, the last separator included. -/
theorem spends_list (Good : α → Prop) (stop done : List Token → Bool) (text : String)
    (hitem : ∀ c, Spends c item fun a ts => Good a → texts (f a) = texts ts) :
    Spends c (loop (listRound stop done text item) []) fun l ts =>
      (∀ a ∈ l.items, Good a) → texts (l.tokens (Generated.operator text) f) = texts ts := by
  refine Spends.loop (fun items ts => (∀ a ∈ items, Good a) →
    texts (items.reverse.flatMap fun a => f a ++ Generated.operator text) = texts ts) ?_
    (fun _ => rfl)
  intro items d
  refine Spends.ahead (Spends.ite (fun _ => ?_) fun _ => ?_)
  · refine Spends.pure fun ts hts hgood => ?_
    have htrailing := Listed.tokens_trailing (Generated.operator text) f items.reverse
    rw [List.isEmpty_reverse] at htrailing
    rw [htrailing, hts (by simpa using hgood), List.append_nil]
  · refine (hitem d).bind fun a e => Spends.ahead (Spends.ite (fun _ => ?_) fun _ => ?_)
    · refine Spends.pure fun us ha ts hts hgood => ?_
      have hfirst := hts fun b hb => hgood b (by simp [hb])
      rw [List.reverse_cons, Listed.tokens_concat, texts_append, hfirst,
        ha (hgood a (by simp))]
      simp
    · refine (spends_operator text).bind_pure fun _ ws hws us ha ts hts hgood => ?_
      have hfirst := hts fun b hb => hgood b (by simp [hb])
      simp [hfirst, ha (hgood a (by simp)), hws.2]

end Parser

end Memberwise
