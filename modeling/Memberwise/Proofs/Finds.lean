import Mathlib.Data.List.Forall2
import Memberwise.Proofs.Gives
import Memberwise.Proofs.Passes

/-!
# What a parser finds in its place

A parser that reads whole trees finds its result in certain tokens of the stream, in front of certain
others. Where a parser is put together from others, those tokens are put together from what each of
the others found, in the same order and each in front of what was found later. So a successful reading
of a whole stream tells how the stream is made up.

## Main definitions

* `Finds`: a parser finds a result in some tokens in front of others
* `Spread`: items with separators between them and, perhaps, after the last

## Main statements

* `Finds.bind`, `Finds.ite`, `Finds.inside`, `Finds.loop`: sequences, choices, groups and repetition
* `Finds.separated`, `Finds.joined`, `Finds.repeatUntil`: where the items of a list stand
-/

namespace Memberwise

theorem Closed.of_opening {d : Delimiter} {first : Span} {us : List Token}
    (h : Closed (⟨.opening d, first⟩ :: us)) : Closed us := by
  obtain ⟨groups, h⟩ := h
  exact ⟨d :: groups, h⟩

theorem Whole.append_closed {ts rest : List Token} (h : Whole ts) (hrest : Closed rest) :
    Closed (ts ++ rest) := by
  obtain ⟨groups, hgroups⟩ := hrest
  refine ⟨groups, ?_⟩
  rw [lexemes_append, openAfter_append, h.openAfter]
  exact hgroups

namespace Parser

variable {α β σ : Type}

/-- The parser finds `a` in the whole trees `ts` in front of `rest`, with nothing left over. -/
structure Finds (p : Parser α) (ts rest : List Token) (a : α) : Prop where
  whole : Whole ts
  closed : Closed rest
  read : ∃ limit, p ⟨ts ++ rest, none, limit⟩ = .ok (a, ⟨rest, none, limit⟩)

namespace Finds

variable {p : Parser α} {Q : α → List Token → Prop} {ts us rest : List Token} {a : α} {b : β}

/-- What is read at `c` with nothing left over is found in front of what is left. -/
theorem of_eq_ok {c d : Cursor} (hp : Spends c p Q) (h : p c = .ok (a, d))
    (hleft : d.leftover = none) (hclosed : Closed c.tokens) :
    ∃ ts, c.tokens = ts ++ d.tokens ∧ Q a ts ∧ Finds p ts d.tokens a := by
  obtain ⟨ts, left, limit⟩ := c
  obtain ⟨rest, left', limit'⟩ := d
  obtain ⟨hnone, hspent⟩ := hp a _ h hleft
  obtain ⟨hlimit, us, hus, hwhole, hQ⟩ := hspent hclosed
  simp only at hus hleft hnone hlimit hclosed
  subst hus hleft hnone hlimit
  exact ⟨us, rfl, hQ, hwhole, hclosed.of_append hwhole, limit', h⟩

/-- A whole stream that is read to its end. -/
theorem of_parseAll [Passes p] {limit : Span} (hts : Whole ts) (h : parseAll p ts limit = .ok a) :
    Finds p ts [] a := by
  obtain ⟨c, hread, hleft, hend⟩ := parseAll_eq_ok.1 h
  obtain ⟨us, hsplit, -, hfinds⟩ := of_eq_ok (Passes.spends _) hread hleft hts.closed
  have hsplit : ts = us ++ c.tokens := hsplit
  have hnil : c.tokens = [] := (hfinds.whole.of_append (hsplit ▸ hts)).eq_nil_of_atEnd hend
  rw [hnil, List.append_nil] at hsplit
  rw [hnil, ← hsplit] at hfinds
  exact hfinds

/-- A statement about the result and the tokens that are read for it. -/
theorem spends (h : Finds p ts rest a) (hp : ∀ c, Spends c p Q) : Q a ts := by
  obtain ⟨limit, hread⟩ := h.read
  obtain ⟨-, hspent⟩ := hp _ a _ hread rfl
  obtain ⟨-, us, hus, -, hQ⟩ := hspent (h.whole.append_closed h.closed)
  rw [List.append_cancel_right hus]
  exact hQ

/-- A statement about the result alone. -/
theorem gives {Q : α → Prop} (h : Finds p ts rest a) (hp : ∀ c, Gives c p Q) : Q a := by
  obtain ⟨limit, hread⟩ := h.read
  exact hp _ _ _ hread

theorem pure {b : α} (h : Finds (pure b) ts rest a) : ts = [] ∧ a = b := by
  obtain ⟨limit, hread⟩ := h.read
  have hresult : b = a ∧ ts ++ rest = rest := by simpa using hread
  exact ⟨by simpa using hresult.2, hresult.1.symm⟩

/-- What is found for a sequence is found for its parts, one after the other. -/
theorem bind_of {f : α → Parser β} (hp : ∀ limit, Spends ⟨ts ++ rest, none, limit⟩ p Q)
    (hf : ∀ a, Passes (f a)) (h : Finds (p >>= f) ts rest b) :
    ∃ a us vs, ts = us ++ vs ∧ Q a us ∧ Finds p us (vs ++ rest) a ∧ Finds (f a) vs rest b := by
  obtain ⟨limit, hread⟩ := h.read
  obtain ⟨a, d, hfirst, hsecond⟩ := bind_eq_ok.1 hread
  have hclosed := h.whole.append_closed h.closed
  obtain ⟨hdleft, -⟩ := (hf a).spends d b _ hsecond rfl
  obtain ⟨us, hus, hQ, hfound⟩ := of_eq_ok (hp limit) hfirst hdleft hclosed
  obtain ⟨vs, hvs, -, hlater⟩ := of_eq_ok ((hf a).spends d) hsecond rfl hfound.closed
  rw [hvs] at hfound
  refine ⟨a, us, vs, ?_, hQ, hfound, hlater⟩
  refine (List.append_left_inj rest).1 ?_
  rw [List.append_assoc, ← hvs]
  exact hus

theorem bind {f : α → Parser β} [Passes p] [∀ a, Passes (f a)] (h : Finds (p >>= f) ts rest b) :
    ∃ a us vs, ts = us ++ vs ∧ Finds p us (vs ++ rest) a ∧ Finds (f a) vs rest b := by
  obtain ⟨a, us, vs, hts, -, hfirst, hsecond⟩ := bind_of (fun _ => Passes.spends _) inferInstance h
  exact ⟨a, us, vs, hts, hfirst, hsecond⟩

/-- A pair is taken apart by what follows. -/
theorem bind_pair {γ : Type} {p : Parser (α × γ)} {f : α × γ → Parser β} [Passes p]
    [∀ a b, Passes (f (a, b))] (h : Finds (p >>= f) ts rest b) :
    ∃ a c us vs, ts = us ++ vs ∧ Finds p us (vs ++ rest) (a, c) ∧ Finds (f (a, c)) vs rest b := by
  have hf (r : α × γ) : Passes (f r) := inferInstanceAs (Passes (f (r.1, r.2)))
  obtain ⟨⟨a, c⟩, us, vs, hts, hfirst, hsecond⟩ := h.bind
  exact ⟨a, c, us, vs, hts, hfirst, hsecond⟩

/-- So are three parts. -/
theorem bind_triple {γ δ : Type} {p : Parser (α × γ × δ)} {f : α × γ × δ → Parser β} [Passes p]
    [∀ a b c, Passes (f (a, b, c))] (h : Finds (p >>= f) ts rest b) :
    ∃ a c d us vs, ts = us ++ vs ∧ Finds p us (vs ++ rest) (a, c, d)
      ∧ Finds (f (a, c, d)) vs rest b := by
  have hf (r : α × γ × δ) : Passes (f r) := inferInstanceAs (Passes (f (r.1, r.2.1, r.2.2)))
  obtain ⟨⟨a, c, d⟩, us, vs, hts, hfirst, hsecond⟩ := h.bind
  exact ⟨a, c, d, us, vs, hts, hfirst, hsecond⟩

theorem bind_pure {f : α → β} [Passes p] (h : Finds (p >>= fun a => Pure.pure (f a)) ts rest b) :
    ∃ a, b = f a ∧ Finds p ts rest a := by
  obtain ⟨a, us, vs, rfl, hfirst, hsecond⟩ := bind h
  obtain ⟨rfl, rfl⟩ := hsecond.pure
  rw [List.append_nil]
  exact ⟨a, rfl, hfirst⟩

theorem map {f : α → β} [Passes p] (h : Finds (f <$> p) ts rest b) :
    ∃ a, b = f a ∧ Finds p ts rest a := by
  rw [← bind_pure_comp] at h
  exact bind_pure h

/-- Looking ahead shows the tokens that are found and what follows them. -/
theorem ahead {f : List Token → Parser β} (h : Finds (ahead >>= f) ts rest b) :
    Finds (f (ts ++ rest)) ts rest b := ⟨h.whole, h.closed, h.read⟩

theorem here {f : Span → Parser β} (h : Finds (here >>= f) ts rest b) :
    ∃ span, Finds (f span) ts rest b := by
  obtain ⟨limit, hread⟩ := h.read
  exact ⟨_, h.whole, h.closed, limit, hread⟩

/-- What is found for a choice is found for the branch that is taken. -/
theorem ite {b : Prop} [Decidable b] {q : Parser α} (h : Finds (if b then p else q) ts rest a) :
    b ∧ Finds p ts rest a ∨ ¬ b ∧ Finds q ts rest a := by
  by_cases hb : b
  · rw [if_pos hb] at h
    exact .inl ⟨hb, h⟩
  · rw [if_neg hb] at h
    exact .inr ⟨hb, h⟩

/-- What was read before is kept as it is. -/
theorem since {read us vs : List Token} (h : Finds (since (read ++ rest)) us rest vs) :
    us = [] ∧ vs = read := by
  obtain ⟨rfl, rfl⟩ := h.ahead.pure
  simp

theorem verbatim [Passes p] {us : List Token} (h : Finds (verbatim p) ts rest us) :
    us = ts ∧ ∃ a, Finds p ts rest a := by
  obtain ⟨a, vs, ws, rfl, hp, hsince⟩ := h.ahead.bind
  obtain ⟨rfl, rfl⟩ := hsince.since
  rw [List.append_nil]
  exact ⟨rfl, a, hp⟩

theorem keyword {text : String} {us : List Token} (h : Finds (keyword text) ts rest us) :
    us = ts ∧ ∃ span, ts = [⟨.ident text, span⟩] := by
  obtain ⟨limit, hread⟩ := h.read
  obtain ⟨span, after, htokens, hr⟩ := keyword_eq_ok hread
  cases hr
  have hts : ts = [⟨.ident text, span⟩] := (List.append_left_inj rest).1 htokens
  exact ⟨hts.symm, span, hts⟩

/-- Tokens that are counted are read as they are. -/
theorem take {n : Nat} {us : List Token} (h : Finds (take n) ts rest us) : us = ts := by
  obtain ⟨limit, hread⟩ := h.read
  simp only [take_apply, Except.ok.injEq, Prod.mk.injEq, Cursor.mk.injEq] at hread
  obtain ⟨rfl, hrest, -⟩ := hread
  have hsplit := List.take_append_drop n (ts ++ rest)
  rw [hrest] at hsplit
  exact (List.append_left_inj rest).1 hsplit

theorem not_expected {choices : List Terminal} (h : Finds (expected choices) ts rest a) : False := by
  obtain ⟨limit, hread⟩ := h.read
  exact expected_ne_ok _ _ _ hread

theorem not_expectedAt {place : List Token} {choices : List Terminal}
    (h : Finds (expectedAt place choices) ts rest a) : False :=
  h.gives (Q := fun _ => False) fun _ => Gives.expectedAt _ _

theorem not_reject {cause : Cause} (h : Finds (reject cause) ts rest a) : False := by
  obtain ⟨limit, hread⟩ := h.read
  cases hread

theorem not_rejectAt {cause : Cause} {span : Span} (h : Finds (rejectAt cause span) ts rest a) :
    False := by
  obtain ⟨limit, hread⟩ := h.read
  cases hread

/-! ## Groups -/

/-- What is found in a group is found in front of the bracket that closes it. -/
theorem bracketed {d : Delimiter} {r : Token × α × Token} [Passes p]
    (h : Finds (bracketed d p) ts rest r) :
    ∃ first last us a, ts = ⟨.opening d, first⟩ :: us ++ [⟨.closing d, last⟩]
      ∧ r = (⟨.opening d, first⟩, a, ⟨.closing d, last⟩)
      ∧ Finds p us (⟨.closing d, last⟩ :: rest) a := by
  obtain ⟨limit, hread⟩ := h.read
  obtain ⟨first, us, a, c, hopening, hcontent, rfl, hafter⟩ := bracketed_eq_ok hread
  simp only [Cursor.mk.injEq] at hafter hopening
  obtain ⟨hrest, hleft, -⟩ := hafter
  obtain ⟨hnone, hin⟩ := Option.or_eq_none_iff.1 hleft.symm
  have hclosed : Closed (⟨.opening d, first⟩ :: us) := hopening ▸ h.whole.append_closed h.closed
  obtain ⟨vs, hvs, -, hfound⟩ := of_eq_ok (Passes.spends _) hcontent hnone hclosed.of_opening
  have hvs : us = vs ++ c.tokens := hvs
  obtain ⟨groups, hgroups⟩ := hclosed
  have hopen : openAfter (d :: groups) (lexemes c.tokens) = some [] := by
    simpa [hvs, openAfter_append, hfound.whole.openAfter, openAfter] using hgroups
  obtain ⟨last, after, hlast⟩ := closing_of_atEnd (atEnd_of_leftIn hin) hopen
  have hsplit : splitGroup 0 c.tokens = ([⟨.closing d, last⟩], after) := by
    rw [hlast]
    rfl
  rw [hsplit] at hrest ⊢
  obtain rfl : rest = after := hrest
  rw [hlast] at hfound hvs
  refine ⟨first, last, vs, a, ?_, rfl, hfound⟩
  refine (List.append_left_inj rest).1 ?_
  simp [hopening, hvs]

/-- What is found for a group and what follows it is found for one after the other. -/
theorem bracketedThen {d : Delimiter} {next : Token → α → Token → Parser β}
    (h : Finds (bracketedThen d p next) ts rest b) :
    Finds (Parser.bracketed d p >>= fun r => next r.1 r.2.1 r.2.2) ts rest b := by
  obtain ⟨limit, hread⟩ := h.read
  exact ⟨h.whole, h.closed, limit, bracketedThen_eq_ok hread rfl⟩

theorem inside {d : Delimiter} [Passes p] (h : Finds (inside d p) ts rest a) :
    ∃ first last us, ts = ⟨.opening d, first⟩ :: us ++ [⟨.closing d, last⟩]
      ∧ Finds p us (⟨.closing d, last⟩ :: rest) a := by
  obtain ⟨r, rfl, hbracketed⟩ := bind_pure h
  obtain ⟨first, last, us, a, hts, rfl, hfound⟩ := bracketed hbracketed
  exact ⟨first, last, us, hts, hfound⟩

/-! ## Repetition -/

/-- A loop ends in the first round, or it goes on after a round in which something is read. -/
theorem loop {step : σ → Parser (σ ⊕ α)} {s : σ} [∀ s, Passes (step s)]
    (h : Finds (loop step s) ts rest a) :
    Finds (step s) ts rest (.inr a)
      ∨ ∃ next us vs, ts = us ++ vs ∧ us ≠ [] ∧ Finds (step s) us (vs ++ rest) (.inl next)
        ∧ Finds (Parser.loop step next) vs rest a := by
  obtain ⟨limit, hread⟩ := h.read
  have hclosed := h.whole.append_closed h.closed
  rw [loop_eq] at hread
  split at hread
  · next b d hround =>
    cases hread
    obtain ⟨us, hus, -, hfound⟩ := of_eq_ok (Passes.spends _) hround rfl hclosed
    obtain rfl : ts = us := List.append_cancel_right hus
    exact .inl hfound
  · next next d hround =>
    split at hread
    · next hless =>
      obtain ⟨hdleft, -⟩ := (Passes.loop step next).spends d a _ hread rfl
      obtain ⟨us, hus, -, hfound⟩ := of_eq_ok (Passes.spends _) hround hdleft hclosed
      obtain ⟨vs, hvs, -, hlater⟩ := of_eq_ok (Passes.spends d) hread rfl hfound.closed
      have hus : ts ++ rest = us ++ d.tokens := hus
      have hvs : d.tokens = vs ++ rest := hvs
      rw [hvs] at hfound hus
      refine .inr ⟨next, us, vs, ?_, ?_, hfound, hlater⟩
      · refine (List.append_left_inj rest).1 ?_
        rw [List.append_assoc]
        exact hus
      · rintro rfl
        rw [hus, hvs] at hless
        simp at hless
    · cases hread
  · cases hread

end Finds

/-! ## Lists -/

/-- Items with a separator between any two and, perhaps, one after the last: each stands in front of
what follows it, up to `rest`. -/
inductive Spread (R : List Token → List Token → α → Prop) (text : String) (rest : List Token) :
    List α → List Token → Prop
  | nil : Spread R text rest [] []
  | last {a : α} {ts : List Token} (item : R ts rest a) : Spread R text rest [a] ts
  | cons {a : α} {as : List α} {ts separator us : List Token}
      (item : R ts (separator ++ us ++ rest) a)
      (separated : texts separator = texts (Generated.operator text))
      (others : Spread R text rest as us) :
      Spread R text rest (a :: as) (ts ++ separator ++ us)

theorem Spread.mono {R R' : List Token → List Token → α → Prop} {text : String} {rest ts : List Token}
    {as : List α} (h : Spread R text rest as ts) (hR : ∀ ts us a, R ts us a → R' ts us a) :
    Spread R' text rest as ts := by
  induction h with
  | nil => exact .nil
  | last item => exact .last (hR _ _ _ item)
  | cons item separated others ih => exact .cons (hR _ _ _ item) separated ih

/-- Every item stands somewhere. -/
theorem Spread.mem {R : List Token → List Token → α → Prop} {text : String} {rest ts : List Token}
    {a : α} {as : List α} (h : Spread R text rest as ts) (ha : a ∈ as) : ∃ us vs, R us vs a := by
  induction h with
  | nil => cases ha
  | last item =>
    obtain rfl := List.mem_singleton.1 ha
    exact ⟨_, _, item⟩
  | cons item separated others ih =>
    rcases List.mem_cons.1 ha with rfl | ha
    · exact ⟨_, _, item⟩
    · exact ih ha

/-- The first item stands in front. -/
theorem Spread.head {R : List Token → List Token → α → Prop} {text : String} {rest ts : List Token}
    {a : α} {as : List α} (h : Spread R text rest (a :: as) ts) :
    ∃ us vs, ts = us ++ vs ∧ R us (vs ++ rest) a := by
  cases h with
  | last item => exact ⟨ts, [], by simp, item⟩
  | cons item separated others => exact ⟨_, _, List.append_assoc _ _ _, item⟩

section Lists

variable {item : Parser α} {stop done : List Token → Bool} {text : String} {ts rest : List Token}
  [Passes item]

instance (items : List α) : Passes (listRound stop done text item items) := by
  unfold listRound
  infer_instance

/-- A round ends the list, reads the last item, or reads an item and a separator. -/
theorem Finds.listRound {acc : List α} {r : List α ⊕ Listed α}
    (h : Finds (listRound stop done text item acc) ts rest r) :
    (ts = [] ∧ stop rest = true ∧ r = .inr ⟨acc.reverse, !acc.isEmpty⟩)
      ∨ (∃ a, r = .inr ⟨(a :: acc).reverse, false⟩ ∧ Finds item ts rest a)
      ∨ ∃ a us separator, r = .inl (a :: acc) ∧ ts = us ++ separator
        ∧ Finds item us (separator ++ rest) a
        ∧ texts separator = texts (Generated.operator text) := by
  have h := h.ahead
  split at h
  · next hstop =>
    obtain ⟨rfl, rfl⟩ := h.pure
    exact .inl ⟨rfl, hstop, rfl⟩
  · obtain ⟨a, us, vs, rfl, hitem, h⟩ := h.bind
    have h := h.ahead
    split at h
    · obtain ⟨rfl, rfl⟩ := h.pure
      rw [List.append_nil]
      exact .inr (.inl ⟨a, rfl, hitem⟩)
    · obtain ⟨_, rfl, hseparator⟩ := h.bind_pure
      have htexts := hseparator.spends fun _ => spends_operator text
      exact .inr (.inr ⟨a, us, vs, rfl, rfl, hitem, htexts.2⟩)

/-- The items of a list stand where they were read, with the separators between them. -/
theorem Finds.list {l : Listed α} {acc : List α}
    (h : Finds (Parser.loop (Parser.listRound stop done text item) acc) ts rest l) :
    ∃ items, l.items = acc.reverse ++ items ∧ Spread (Finds item) text rest items ts := by
  -- Induction on the tokens of the items that are left.
  generalize hlength : ts.length = n
  induction n using Nat.strongRecOn generalizing acc ts with
  | ind n ih =>
    subst hlength
    obtain hlast | ⟨next, us, vs, rfl, hne, hround, hmore⟩ := h.loop
    · obtain ⟨rfl, -, hl⟩ | ⟨a, hl, hitem⟩ | ⟨a, _, _, hl, -⟩ := hlast.listRound
      · cases hl
        exact ⟨[], by simp, .nil⟩
      · cases hl
        exact ⟨[a], by simp, .last hitem⟩
      · cases hl
    · obtain ⟨-, -, hl⟩ | ⟨_, hl, -⟩ | ⟨a, ws, separator, hl, rfl, hitem, hseparator⟩ := hround.listRound
      · cases hl
      · cases hl
      · cases hl
        have hless : vs.length < (ws ++ separator ++ vs).length := by
          have hpos := List.length_pos_iff.2 hne
          simp only [List.length_append] at hpos ⊢
          omega
        obtain ⟨items, hitems, hspread⟩ := ih _ hless hmore rfl
        rw [← List.append_assoc] at hitem
        exact ⟨a :: items, by simp [hitems], .cons hitem hseparator hspread⟩

/-- A list without items stands in nothing, in front of what stops it. -/
theorem Finds.list_nil {l : Listed α} (hnil : l.isEmpty = true)
    (h : Finds (Parser.loop (Parser.listRound stop done text item) []) ts rest l) :
    ts = [] ∧ stop rest = true := by
  have hitems : l.items = [] := List.isEmpty_iff.1 hnil
  obtain ⟨items, hl, hspread⟩ := h.list
  obtain rfl : items = [] := by simpa [hl] using hitems
  obtain rfl : ts = [] := by
    cases hspread
    rfl
  obtain hlast | ⟨next, us, vs, hsplit, hne, -⟩ := h.loop
  · obtain ⟨-, hstop, -⟩ | ⟨a, hlast, -⟩ | ⟨a, _, _, hlast, -⟩ := hlast.listRound
    · exact ⟨rfl, hstop⟩
    · cases hlast
      simp at hitems
    · cases hlast
  · exact absurd (List.append_eq_nil_iff.1 hsplit.symm).1 hne

theorem Finds.separated {l : Listed α}
    (h : Finds (Parser.separated stop text item) ts rest l) :
    Spread (Finds item) text rest l.items ts := by
  rw [separated_eq] at h
  obtain ⟨items, hitems, hspread⟩ := h.list
  rwa [hitems]

theorem Finds.joined {l : Listed α} (h : Finds (Parser.joined stop text item) ts rest l) :
    Spread (Finds item) text rest l.items ts := by
  rw [joined_eq] at h
  obtain ⟨items, hitems, hspread⟩ := h.list
  rwa [hitems]

/-- The items that are read one after the other stand one after the other. -/
theorem Finds.repeatUntil {as : List α} (h : Finds (Parser.repeatUntil stop item) ts rest as) :
    ∃ parts, ts = parts.flatten ∧ List.Forall₂ (fun us a => ∃ vs, Finds item us vs a) parts as := by
  -- The accumulator holds the items read so far, the last of them first.
  suffices general : ∀ (n : Nat) (ts : List Token) (acc as : List α), ts.length = n →
      Finds (Parser.loop (repeatRound stop item) acc) ts rest as →
      ∃ parts items, ts = parts.flatten ∧ as = acc.reverse ++ items
        ∧ List.Forall₂ (fun us a => ∃ vs, Finds item us vs a) parts items by
    obtain ⟨parts, items, hts, rfl, hparts⟩ := general _ ts [] as rfl h
    exact ⟨parts, hts, hparts⟩
  intro n
  induction n using Nat.strongRecOn with
  | ind n ih =>
    rintro ts acc as rfl h
    have _ (acc : List α) : Passes (repeatRound stop item acc) := by
      unfold repeatRound
      infer_instance
    obtain hlast | ⟨next, us, vs, rfl, hne, hround, hmore⟩ := h.loop
    · have hlast := hlast.ahead
      split at hlast
      · obtain ⟨rfl, has⟩ := hlast.pure
        cases has
        exact ⟨[], [], rfl, by simp, .nil⟩
      · obtain ⟨a, ha, -⟩ := hlast.bind_pure
        cases ha
    · have hround := hround.ahead
      split at hround
      · obtain ⟨-, hnext⟩ := hround.pure
        cases hnext
      · obtain ⟨a, hnext, hitem⟩ := hround.bind_pure
        cases hnext
        have hless : vs.length < (us ++ vs).length := by
          simpa using List.length_pos_iff.2 hne
        obtain ⟨parts, items, rfl, rfl, hparts⟩ := ih _ hless vs _ as rfl hmore
        exact ⟨us :: parts, a :: items, rfl, by simp, .cons ⟨_, hitem⟩ hparts⟩

end Lists

/-! ## Phrases -/

instance (count : Nat) (phrase : Phrase) : Passes (phrases.below count phrase) := by
  refine ⟨fun c a d h hleft => ?_⟩
  unfold Phrases.below at h
  split at h
  · exact (passes_phrases phrase).spends c a d h hleft
  · cases h

/-- What is found by a reader for what is shorter is found by the reader for anything. -/
theorem Finds.of_below {count : Nat} {phrase : Phrase} {ts rest : List Token} {f : Fragment}
    (h : Finds (phrases.below count phrase) ts rest f) : Finds (phrases phrase) ts rest f := by
  obtain ⟨limit, hread⟩ := h.read
  refine ⟨h.whole, h.closed, limit, ?_⟩
  unfold Phrases.below at hread
  split at hread
  · exact hread
  · cases hread

/-- A phrase is found by means of a reader for what is shorter. -/
theorem Finds.body {phrase : Phrase} {ts rest : List Token} {f : Fragment}
    (h : Finds (phrases phrase) ts rest f) :
    Finds ((phrases.below (ts ++ rest).length).body phrase) ts rest f := by
  obtain ⟨limit, hread⟩ := h.read
  rw [phrases_eq] at hread
  exact ⟨h.whole, h.closed, limit, hread⟩

end Parser

end Memberwise
