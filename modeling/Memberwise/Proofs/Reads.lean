import Mathlib.Data.List.Forall2
import Memberwise.Proofs.Run

/-!
# Reading what is written

A parser `Reads` some tokens in front of others if it passes over exactly those, remembers nothing as
left over and gives a result of the stated kind. Since the rule for a sequence only cuts the tokens in
two, what is written piece by piece is read piece by piece.

## Main definitions

* `Reads`: a parser reads the tokens in front of the rest
* `PartsRead`: so are the parts of a list, each in front of the others

## Main statements

* `Reads.bind`: tokens read one after the other
* `Reads.bracketed`: a group whose contents are read
* `Reads.loop_between`, `reads_repeatUntil`: repetition
* `reads_list`, `reads_listed`: lists of items, with what may follow one of them
-/

namespace Memberwise.Parser

variable {α β σ : Type}

/-! ## Reading tokens in front of others -/

/-- The parser reads `ts` in front of `rest`, with a result of which `Q` holds. -/
def Reads (p : Parser α) (ts rest : List Token) (Q : α → Prop) : Prop :=
  ∀ left limit, ∃ a, p ⟨ts ++ rest, left, limit⟩ = .ok (a, ⟨rest, left, limit⟩) ∧ Q a

namespace Reads

variable {p : Parser α} {ts us rest : List Token} {Q : α → Prop} {Q' : β → Prop}

theorem mono {R : α → Prop} (h : Reads p ts rest Q) (hQ : ∀ a, Q a → R a) : Reads p ts rest R := by
  intro left limit
  obtain ⟨a, hp, ha⟩ := h left limit
  exact ⟨a, hp, hQ a ha⟩

theorem pure {a : α} (h : Q a) : Reads (pure a) [] rest Q := fun _ _ => ⟨a, rfl, h⟩

/-- There is only one result, so all that is known of it holds of the same. -/
theorem of_all {ι : Type} {P : ι → Prop} {R : ι → α → Prop} (i : ι) (hi : P i)
    (h : ∀ i, P i → Reads p ts rest (R i)) : Reads p ts rest fun a => ∀ i, P i → R i a := by
  intro left limit
  obtain ⟨a, ha, -⟩ := h i hi left limit
  refine ⟨a, ha, fun j hj => ?_⟩
  obtain ⟨b, hb, hR⟩ := h j hj left limit
  cases ha.symm.trans hb
  exact hR

/-- Tokens are read one after the other. -/
theorem bind {f : α → Parser β} (hp : Reads p ts (us ++ rest) Q)
    (hf : ∀ a, Q a → Reads (f a) us rest Q') : Reads (p >>= f) (ts ++ us) rest Q' := by
  intro left limit
  obtain ⟨a, ha, hQ⟩ := hp left limit
  obtain ⟨b, hb, hQ'⟩ := hf a hQ left limit
  refine ⟨b, ?_, hQ'⟩
  rw [bind_apply, List.append_assoc, ha]
  exact hb

/-- A parser that reads nothing, then another. -/
theorem bind_nil {f : α → Parser β} (hp : Reads p [] (ts ++ rest) Q)
    (hf : ∀ a, Q a → Reads (f a) ts rest Q') : Reads (p >>= f) ts rest Q' := by
  simpa using bind hp hf

/-- A parser, then another that reads nothing. -/
theorem bind_last {f : α → Parser β} (hp : Reads p ts rest Q)
    (hf : ∀ a, Q a → Reads (f a) [] rest Q') : Reads (p >>= f) ts rest Q' := by
  rw [← List.append_nil ts]
  exact hp.bind hf

/-- A result that is made into another. -/
theorem bind_pure {f : α → β} (hp : Reads p ts rest Q) (hf : ∀ a, Q a → Q' (f a)) :
    Reads (p >>= fun a => Pure.pure (f a)) ts rest Q' :=
  hp.bind_last fun a ha => pure (hf a ha)

theorem map {f : α → β} (hp : Reads p ts rest Q) (hf : ∀ a, Q a → Q' (f a)) :
    Reads (f <$> p) ts rest Q' := by
  rw [← bind_pure_comp]
  exact bind_pure hp hf

/-- One token, then others. -/
theorem bind_cons {t : Token} {f : α → Parser β} (hp : Reads p [t] (us ++ rest) Q)
    (hf : ∀ a, Q a → Reads (f a) us rest Q') : Reads (p >>= f) (t :: us) rest Q' :=
  bind hp hf

theorem ite_pos {b : Prop} [Decidable b] {q : Parser α} (hb : b) (h : Reads p ts rest Q) :
    Reads (if b then p else q) ts rest Q := by
  rwa [if_pos hb]

theorem ite_neg {b : Prop} [Decidable b] {q : Parser α} (hb : ¬ b) (h : Reads p ts rest Q) :
    Reads (if b then q else p) ts rest Q := by
  rwa [if_neg hb]

/-- What follows a choice is the same for both. -/
theorem ite_bind {b : Prop} [Decidable b] {q : Parser α} {f : α → Parser β}
    (h : Reads ((if b then p else q) >>= f) ts rest Q') :
    Reads (if b then p >>= f else q >>= f) ts rest Q' := by
  split
  · next hb => rwa [if_pos hb] at h
  · next hb => rwa [if_neg hb] at h

/-- Looking ahead shows the tokens to be read and what follows them. -/
theorem ahead {f : List Token → Parser β} (hf : Reads (f (ts ++ rest)) ts rest Q') :
    Reads (ahead >>= f) ts rest Q' :=
  bind_nil (Q := (· = ts ++ rest)) (fun _ _ => ⟨_, rfl, rfl⟩) fun _ h => h ▸ hf

theorem ended {f : Bool → Parser β} (hf : Reads (f (atEnd (ts ++ rest))) ts rest Q') :
    Reads (ended >>= f) ts rest Q' :=
  fun left limit => hf left limit

/-- The state is what is to be read, with anything remembered before. -/
theorem get {f : Cursor → Parser β}
    (hf : ∀ left limit, Reads (f ⟨ts ++ rest, left, limit⟩) ts rest Q') :
    Reads (get >>= f) ts rest Q' :=
  fun left limit => hf left limit left limit

/-- The place of the next token may be anything. -/
theorem here {f : Span → Parser β} (hf : ∀ span, Reads (f span) ts rest Q') :
    Reads (here >>= f) ts rest Q' :=
  fun left limit => hf _ left limit

/-- Tokens that are counted are read as they are. -/
theorem take (ts rest : List Token) : Reads (take ts.length) ts rest (· = ts) :=
  fun _ _ => ⟨_, by simp, rfl⟩

/-- A whole stream is read if it is read in front of nothing. -/
theorem parseAll (h : Reads p ts [] Q) (limit : Span) : ∃ a, parseAll p ts limit = .ok a ∧ Q a := by
  obtain ⟨a, hread, ha⟩ := h none limit
  rw [List.append_nil] at hread
  exact ⟨a, parseAll_eq_ok.2 ⟨_, hread, rfl, rfl⟩, ha⟩

end Reads

/-! ## Terminals -/

section Terminals

variable {ts rest : List Token}

theorem reads_operator {text : String} (hne : text ≠ "")
    (h : lexemes ts = operatorLexemes text.toList) :
    Reads (operator text) ts rest fun a => lexemes a = lexemes ts := by
  intro left limit
  have hlength : ts.length = text.length := by
    simpa [String.length_toList] using congrArg List.length h
  refine ⟨respaced text ts, ?_, (lexemes_respaced (Nat.le_of_eq hlength.symm)).trans h.symm⟩
  simp [operator_apply, isOp_append hne h, ← hlength]

/-- An operator that comes next is read. -/
theorem reads_operator?_some {text : String} (hne : text ≠ "")
    (h : lexemes ts = operatorLexemes text.toList) :
    Reads (operator? text) ts rest fun a => lexemes a = lexemes ts :=
  Reads.ahead (Reads.ite_pos (isOp_append hne h rest) (reads_operator hne h))

/-- An operator that does not come next is not read. -/
theorem reads_operator?_none {text : String} (h : isOp text rest = false) :
    Reads (operator? text) [] rest (· = []) := by
  refine Reads.ahead ?_
  rw [List.nil_append, if_neg (by simp [h])]
  exact Reads.pure rfl

/-- A word that does not come next is not read. -/
theorem reads_keyword?_none {text : String} (h : isWord text rest = false) :
    Reads (keyword? text) [] rest (· = []) := by
  refine Reads.ahead ?_
  rw [List.nil_append, if_neg (by simp [h])]
  exact Reads.pure rfl

theorem reads_keyword (text : String) (span : Span) :
    Reads (keyword text) [⟨.ident text, span⟩] rest (· = [⟨.ident text, span⟩]) := by
  intro left limit
  exact ⟨_, by simp [keyword, bind_apply, isWord, Terminal.starts], rfl⟩

theorem reads_anyWord (text : String) (span : Span) :
    Reads anyWord [⟨.ident text, span⟩] rest (· = [⟨.ident text, span⟩]) := by
  intro left limit
  exact ⟨_, by simp [anyWord, bind_apply, Terminal.starts], rfl⟩

theorem reads_lifetime (word : String) (mark span : Span) :
    Reads lifetime [⟨.punct '\x27' .joint, mark⟩, ⟨.ident word, span⟩] rest
      (· = [⟨.punct '\x27' .joint, mark⟩, ⟨.ident word, span⟩]) := by
  intro left limit
  exact ⟨_, by simp [lifetime, bind_apply, isLifetime, Terminal.starts], rfl⟩

theorem reads_identifier {text : String} (h : isReserved text = false) (span : Span) :
    Reads identifier [⟨.ident text, span⟩] rest (· = [⟨.ident text, span⟩]) := by
  intro left limit
  exact ⟨_, by simp [identifier, bind_apply, h], rfl⟩

theorem reads_name {n : Name} (h : isReserved n.text = false) :
    Reads name n.tokens rest (· = n) := by
  intro left limit
  exact ⟨_, by simp [name, identifier, bind_apply, h, Name.tokens, Name.ofTokens, Lexeme.text], rfl⟩

end Terminals

/-! ## Sequences -/

theorem Reads.seq_nil {rest : List Token} : Reads (seq []) [] rest (· = []) := Reads.pure rfl

/-- A parser that reads nothing, then others. -/
theorem Reads.seq_none {p : Parser (List Token)} {ps : List (Parser (List Token))}
    {ts rest : List Token} {Q : List Token → Prop} (hp : Reads p [] (ts ++ rest) (· = []))
    (hps : Reads (seq ps) ts rest Q) : Reads (seq (p :: ps)) ts rest Q := by
  refine Reads.bind_nil hp ?_
  rintro _ rfl
  exact hps.bind_pure fun a ha => by simpa using ha

/-- A single parser. -/
theorem Reads.seq_single {p : Parser (List Token)} {ts us rest : List Token}
    (hp : Reads p ts rest fun a => lexemes a = lexemes us) :
    Reads (seq [p]) ts rest fun a => lexemes a = lexemes us := by
  refine hp.bind_last fun a ha => Reads.seq_nil.bind_pure ?_
  rintro _ rfl
  rw [List.append_nil, ha]

/-- A parser that reads some tokens, then others. -/
theorem Reads.seq_cons {p : Parser (List Token)} {ps : List (Parser (List Token))}
    {ts us vs ws rest : List Token} (hp : Reads p ts (us ++ rest) fun a => lexemes a = lexemes vs)
    (hps : Reads (seq ps) us rest fun a => lexemes a = lexemes ws) :
    Reads (seq (p :: ps)) (ts ++ us) rest fun a => lexemes a = lexemes (vs ++ ws) := by
  refine hp.bind fun a ha => hps.bind_pure fun b hb => ?_
  rw [lexemes_append, lexemes_append, ha, hb]

/-! ## Groups -/

section Groups

variable {p : Parser α} {ts rest : List Token} {Q : α → Prop}

/-- A group is read by reading its contents up to the bracket that closes it, and then what follows. -/
theorem Reads.bracketedThen {d : Delimiter} {first last : Span} {us : List Token}
    {next : Token → α → Token → Parser β} {Q' : β → Prop}
    (h : Reads p ts (⟨.closing d, last⟩ :: (us ++ rest)) Q)
    (hnext : ∀ a, Q a → Reads (next ⟨.opening d, first⟩ a ⟨.closing d, last⟩) us rest Q') :
    Reads (bracketedThen d p next) (⟨.opening d, first⟩ :: ts ++ ⟨.closing d, last⟩ :: us) rest
      Q' := by
  intro left limit
  obtain ⟨a, hp, ha⟩ := h left limit
  obtain ⟨b, hb, hQ'⟩ := hnext a ha left limit
  refine ⟨b, ?_, hQ'⟩
  simp [Parser.bracketedThen, bind_apply, map_apply, hp, hb, splitGroup, leftIn, atEnd,
    Lexeme.isClosing]

/-- A group is read with its brackets. -/
theorem Reads.bracketed {d : Delimiter} {first last : Span}
    (h : Reads p ts (⟨.closing d, last⟩ :: rest) Q) :
    Reads (bracketed d p) (⟨.opening d, first⟩ :: ts ++ [⟨.closing d, last⟩]) rest
      fun r => r.1 = ⟨.opening d, first⟩ ∧ Q r.2.1 ∧ r.2.2 = ⟨.closing d, last⟩ :=
  Reads.bracketedThen h fun _ ha => Reads.pure ⟨rfl, ha, rfl⟩

theorem Reads.inside {d : Delimiter} {first last : Span}
    (h : Reads p ts (⟨.closing d, last⟩ :: rest) Q) :
    Reads (inside d p) (⟨.opening d, first⟩ :: ts ++ [⟨.closing d, last⟩]) rest Q := by
  exact (Reads.bracketed h).bind_pure fun r hr => hr.2.1

/-- A group is read for the tokens that it is written with. -/
theorem Reads.group {d : Delimiter} {p : Parser (List Token)} {us : List Token}
    (h : Reads p ts (⟨.closing d, .outside⟩ :: rest) fun a => lexemes a = lexemes us) :
    Reads (group d p) (Generated.group d ts) rest
      fun a => lexemes a = lexemes (Generated.group d us) := by
  refine (Reads.bracketed h).bind_pure fun r hr => ?_
  obtain ⟨hopening, hcontent, hclosing⟩ := hr
  simp [Generated.group, hopening, hcontent, hclosing]

end Groups

/-! ## Repetition -/

section Repetition

variable {item : Parser α} {stop : List Token → Bool} {sep : List Token}

theorem Reads.loop_done {step : σ → Parser (σ ⊕ α)} {s : σ} {ts rest : List Token} {Q : α → Prop}
    (h : Reads (step s) ts rest fun r => ∃ a, r = .inr a ∧ Q a) : Reads (loop step s) ts rest Q := by
  intro left limit
  obtain ⟨_, hstep, a, rfl, ha⟩ := h left limit
  exact ⟨a, by rw [loop_eq, hstep], ha⟩

theorem Reads.loop_next {step : σ → Parser (σ ⊕ α)} {s : σ} {ts us rest : List Token}
    {Q : α → Prop} (Inv : σ → Prop) (hne : ts ≠ [])
    (h : Reads (step s) ts (us ++ rest) fun r => ∃ next, r = .inl next ∧ Inv next)
    (hnext : ∀ next, Inv next → Reads (loop step next) us rest Q) :
    Reads (loop step s) (ts ++ us) rest Q := by
  intro left limit
  obtain ⟨_, hstep, next, rfl, hinv⟩ := h left limit
  obtain ⟨a, hloop, ha⟩ := hnext next hinv left limit
  refine ⟨a, ?_, ha⟩
  have hlength : 0 < ts.length := List.length_pos_iff.2 hne
  rw [loop_eq, List.append_assoc, hstep]
  simp only [List.length_append]
  rw [if_pos (by omega), hloop]

/-- A loop that reads an item in each round, and the separator after it if there is another item.
The invariant holds of the items read so far, and no stream is longer than `n`. -/
theorem Reads.loop_between {γ : Type} {step : σ → Parser (σ ⊕ α)} {bs : List γ}
    {f : γ → List Token} {rest : List Token} {Q : List γ → α → Prop} (n : Nat)
    (Inv : List γ → σ → Prop) (hne : sep ≠ [])
    (hlength : (Listed.between sep (bs.map f) ++ rest).length ≤ n)
    (hnext : ∀ before b us s, b ∈ bs → (f b ++ (sep ++ us)).length ≤ n → Inv before s →
      Reads (step s) (f b ++ sep) us fun r => ∃ next, r = .inl next ∧ Inv (before ++ [b]) next)
    (hlast : ∀ before b s, b ∈ bs → (f b ++ rest).length ≤ n → Inv before s →
      Reads (step s) (f b) rest fun r => ∃ a, r = .inr a ∧ Q (before ++ [b]) a)
    (hnil : ∀ s, Inv [] s → Reads (step s) [] rest fun r => ∃ a, r = .inr a ∧ Q [] a)
    {s : σ} (hs : Inv [] s) :
    Reads (loop step s) (Listed.between sep (bs.map f)) rest (Q bs) := by
  cases bs with
  | nil => exact Reads.loop_done (hnil s hs)
  | cons b bs =>
    suffices general : ∀ before s, Inv before s →
        Reads (loop step s) (Listed.between sep ((b :: bs).map f)) rest (Q (before ++ b :: bs)) from
      general [] s hs
    clear hnil hs s
    induction bs generalizing b with
    | nil => exact fun before s hs => Reads.loop_done (hlast before b s (by simp) hlength hs)
    | cons b' bs ih =>
      intro before s hs
      simp only [List.map_cons, Listed.between, List.append_assoc] at hlength ⊢
      rw [← List.append_assoc]
      refine Reads.loop_next (fun next => Inv (before ++ [b]) next) (by simp [hne])
        (hnext before b _ s (by simp) ?_ hs) fun next hinv => ?_
      · exact hlength
      · have hmore := ih b' (by simp only [List.map_cons, List.length_append] at hlength ⊢; omega)
          (fun before c us s hc => hnext before c us s (by simp_all))
          (fun before c s hc => hlast before c s (by simp_all)) (before ++ [b]) next hinv
        simpa using hmore

/-- Items that are read one after the other, each in front of anything. -/
theorem reads_repeatUntil {Q : List Token → α → Prop} {parts : List (List Token)}
    {rest : List Token} (hstop : stop rest = true)
    (hparts : ∀ ts ∈ parts, ts ≠ [] ∧ ∀ us, stop (ts ++ us) = false ∧ Reads item ts us (Q ts)) :
    Reads (repeatUntil stop item) parts.flatten rest fun as => List.Forall₂ Q parts as := by
  -- The accumulator holds the items read so far, the last of them first.
  suffices general : ∀ acc : List α,
      Reads (loop (repeatRound stop item) acc) parts.flatten rest
        fun as => ∃ bs, List.Forall₂ Q parts bs ∧ as = acc.reverse ++ bs by
    refine (general []).mono ?_
    rintro _ ⟨bs, hbs, rfl⟩
    simpa using hbs
  induction parts with
  | nil =>
    intro acc
    refine Reads.loop_done (Reads.ahead ?_)
    simp only [List.flatten_nil, List.nil_append, hstop, if_true]
    refine Reads.pure ?_
    exact ⟨_, rfl, [], .nil, by simp⟩
  | cons ts parts ih =>
    intro acc
    obtain ⟨hne, hread⟩ := hparts ts (by simp)
    obtain ⟨hgo, hitem⟩ := hread (parts.flatten ++ rest)
    refine Reads.loop_next (fun next => ∃ a, Q ts a ∧ next = a :: acc) hne ?_ ?_
    · refine Reads.ahead ?_
      simp only [hgo, Bool.false_eq_true, if_false]
      exact hitem.bind_pure fun a ha => ⟨_, rfl, a, ha, rfl⟩
    · rintro _ ⟨a, ha, rfl⟩
      refine (ih (fun us hus => hparts us (by simp [hus])) (a :: acc)).mono ?_
      rintro _ ⟨bs, hbs, rfl⟩
      exact ⟨a :: bs, .cons ha hbs, by simp⟩

/-- Each of the parts begins an item and is read as one in front of the separator and the parts
after it, and the last of them in front of `rest`. -/
def PartsRead (stop : List Token → Bool) (item : Parser α) (sep : List Token)
    (Q : List Token → α → Prop) (rest : List Token) : List (List Token) → Prop
  | [] => True
  | [ts] => ts ≠ [] ∧ stop (ts ++ rest) = false ∧ Reads item ts rest (Q ts)
  | ts :: us :: parts =>
    let after := sep ++ (Listed.between sep (us :: parts) ++ rest)
    (ts ≠ [] ∧ stop (ts ++ after) = false ∧ Reads item ts after (Q ts))
      ∧ PartsRead stop item sep Q rest (us :: parts)

section Lists

variable {done : List Token → Bool} {text : String} {Q : List Token → α → Prop}
  {rest : List Token}

/-- A round that reads an item and a separator. -/
theorem reads_listRound_next {ts after : List Token} (hne : text ≠ "")
    (hsep : lexemes sep = operatorLexemes text.toList) (hgo : done (sep ++ after) = false)
    (hstart : stop (ts ++ (sep ++ after)) = false) (hitem : Reads item ts (sep ++ after) (Q ts))
    (acc : List α) :
    Reads (listRound stop done text item acc) (ts ++ sep) after
      fun r => ∃ next, r = .inl next ∧ ∃ a, Q ts a ∧ next = a :: acc := by
  refine Reads.ahead ?_
  rw [List.append_assoc, hstart]
  refine hitem.bind fun a ha => Reads.ahead ?_
  rw [hgo]
  exact (reads_operator hne hsep).bind_pure fun _ _ => ⟨_, rfl, a, ha, rfl⟩

/-- A round that reads the last item, with no separator after it. -/
theorem reads_listRound_last {ts : List Token} (hdone : done rest = true)
    (hstart : stop (ts ++ rest) = false) (hitem : Reads item ts rest (Q ts)) (acc : List α) :
    Reads (listRound stop done text item acc) ts rest
      fun r => ∃ l, r = .inr l ∧ ∃ a, Q ts a ∧ l = ⟨(a :: acc).reverse, false⟩ := by
  refine Reads.ahead ?_
  rw [hstart]
  refine hitem.bind_last fun a ha => Reads.ahead ?_
  rw [List.nil_append, hdone]
  exact Reads.pure ⟨_, rfl, a, ha, rfl⟩

/-- The round after which nothing is left of the list. -/
theorem reads_listRound_stop (hstop : stop rest = true) (acc : List α) :
    Reads (listRound stop done text item acc) [] rest
      fun r => ∃ l, r = .inr l ∧ l = ⟨acc.reverse, !acc.isEmpty⟩ := by
  refine Reads.ahead ?_
  rw [List.nil_append, hstop]
  exact Reads.pure ⟨_, rfl, rfl⟩

/-- The separator after the last item of a list, if there is one. -/
abbrev trailer (sep : List Token) (trailing : Bool) (parts : List (List Token)) : List Token :=
  if trailing && !parts.isEmpty then sep else []

theorem separator_ne_nil (hne : text ≠ "") (hsep : lexemes sep = operatorLexemes text.toList) :
    sep ≠ [] := by
  rintro rfl
  have hlength := congrArg List.length hsep
  rw [length_operatorLexemes] at hlength
  exact hne (String.toList_eq_nil_iff.1 (List.length_eq_zero_iff.1 hlength.symm))

/-- The accumulator holds the items read so far, the last of them first. -/
theorem reads_list_from {ts : List Token} {parts : List (List Token)} {trailing : Bool}
    (hne : text ≠ "") (hsep : lexemes sep = operatorLexemes text.toList) (hstop : stop rest = true)
    (hdone : done rest = true) (hgo : ∀ us, done (sep ++ us) = false)
    (hparts : PartsRead stop item sep Q ((if trailing then sep else []) ++ rest) (ts :: parts))
    (acc : List α) :
    Reads (loop (listRound stop done text item) acc)
      (Listed.between sep (ts :: parts) ++ if trailing then sep else []) rest
      fun l => ∃ bs, List.Forall₂ Q (ts :: parts) bs ∧ l = ⟨acc.reverse ++ bs, trailing⟩ := by
  have hpart (us : List Token) : us ++ sep ≠ [] := by simp [separator_ne_nil hne hsep]
  induction parts generalizing ts acc with
  | nil =>
    obtain ⟨hts, hstart, hitem⟩ := hparts
    cases trailing with
    | false =>
      simp only [Listed.between, Bool.false_eq_true, if_false, List.append_nil,
        List.nil_append] at *
      refine Reads.loop_done ((reads_listRound_last hdone hstart hitem acc).mono ?_)
      rintro _ ⟨l, rfl, a, ha, rfl⟩
      exact ⟨_, rfl, [a], .cons ha .nil, by simp⟩
    | true =>
      simp only [Listed.between, if_true] at *
      rw [← List.append_nil (ts ++ sep)]
      refine Reads.loop_next (fun next => ∃ a, Q ts a ∧ next = a :: acc) (hpart ts)
        (reads_listRound_next hne hsep (hgo _) hstart hitem acc) ?_
      rintro _ ⟨a, ha, rfl⟩
      refine Reads.loop_done ((reads_listRound_stop hstop (a :: acc)).mono ?_)
      rintro _ ⟨l, rfl, rfl⟩
      exact ⟨_, rfl, [a], .cons ha .nil, by simp⟩
  | cons us parts ih =>
    obtain ⟨⟨hts, hstart, hitem⟩, hmore⟩ := hparts
    simp only [Listed.between, List.append_assoc] at *
    rw [← List.append_assoc]
    refine Reads.loop_next (fun next => ∃ a, Q ts a ∧ next = a :: acc) (hpart ts) ?_ ?_
    · refine reads_listRound_next hne hsep (hgo _) ?_ ?_ acc
      · simpa using hstart
      · simpa using hitem
    · rintro _ ⟨a, ha, rfl⟩
      refine (ih (by simpa using hmore) (a :: acc)).mono ?_
      rintro _ ⟨bs, hbs, rfl⟩
      exact ⟨a :: bs, .cons ha hbs, by simp⟩

/-- A list is read with the parts and the last separator that it was written with. -/
theorem reads_list {parts : List (List Token)} {trailing : Bool} (hne : text ≠ "")
    (hsep : lexemes sep = operatorLexemes text.toList) (hstop : stop rest = true)
    (hdone : done rest = true) (hgo : ∀ us, done (sep ++ us) = false)
    (hparts : PartsRead stop item sep Q (trailer sep trailing parts ++ rest) parts) :
    Reads (loop (listRound stop done text item) [])
      (Listed.between sep parts ++ trailer sep trailing parts) rest
      fun l => List.Forall₂ Q parts l.items ∧ l.trailing = (trailing && !parts.isEmpty) := by
  cases parts with
  | nil =>
    simp only [Listed.between, trailer, List.isEmpty_nil, Bool.not_true, Bool.and_false,
      Bool.false_eq_true, if_false, List.append_nil]
    refine Reads.loop_done ((reads_listRound_stop hstop []).mono ?_)
    rintro _ ⟨l, rfl, rfl⟩
    exact ⟨_, rfl, .nil, rfl⟩
  | cons ts parts =>
    simp only [trailer, List.isEmpty_cons, Bool.not_false, Bool.and_true] at hparts ⊢
    refine (reads_list_from hne hsep hstop hdone hgo hparts []).mono ?_
    rintro _ ⟨bs, hbs, rfl⟩
    exact ⟨hbs, rfl⟩

/-- Each part is read in front of the separator and of `rest` if it is read in front of all such
streams that are no longer than the list. -/
theorem partsRead {follows : List Token → Prop} {parts : List (List Token)}
    (hsep : ∀ us, (sep ++ us).length ≤ (Listed.between sep parts ++ rest).length →
      follows (sep ++ us))
    (hrest : follows rest)
    (h : ∀ ts ∈ parts, ts ≠ []
      ∧ ∀ us, follows us → stop (ts ++ us) = false ∧ Reads item ts us (Q ts)) :
    PartsRead stop item sep Q rest parts := by
  induction parts with
  | nil => trivial
  | cons ts parts ih =>
    obtain ⟨hne, hread⟩ := h ts (by simp)
    cases parts with
    | nil => exact ⟨hne, hread _ hrest⟩
    | cons us parts =>
      simp only [Listed.between, List.append_assoc, List.length_append] at hsep
      have hmore := ih (fun vs hvs => hsep vs (by simp only [List.length_append] at hvs; omega))
        fun vs hvs => h vs (by simp [hvs])
      exact ⟨⟨hne, hread _ (hsep _ (by simp only [List.length_append]; omega))⟩, hmore⟩

end Lists

end Repetition

/-! ## Lists as they are written -/

theorem lexemes_between (sep : List Token) {parts parts' : List (List Token)}
    (h : parts.map lexemes = parts'.map lexemes) :
    lexemes (Listed.between sep parts) = lexemes (Listed.between sep parts') := by
  induction parts generalizing parts' with
  | nil =>
    have hnil : parts' = [] := by simpa using h.symm
    rw [hnil]
  | cons ts parts ih =>
    cases parts' with
    | nil => simp at h
    | cons ts' parts' =>
      obtain ⟨hts, hparts⟩ := List.cons.inj h
      have hmore := ih hparts
      cases parts with
      | nil =>
        have hnil : parts' = [] := by simpa using hparts.symm
        rw [hnil]
        exact hts
      | cons us parts =>
        cases parts' with
        | nil => simp at hparts
        | cons us' parts' => simp [Listed.between, hts, hmore]

theorem isEmpty_eq_of_length_eq {γ : Type} {m : Listed α} {l : Listed γ}
    (h : m.items.length = l.items.length) : m.isEmpty = l.isEmpty := by
  rw [Listed.isEmpty, Listed.isEmpty, Bool.eq_iff_iff, List.isEmpty_iff_length_eq_zero,
    List.isEmpty_iff_length_eq_zero, h]

/-- A list that was read has the items that another was written with. -/
structure SameItems {γ : Type} (g : α → List Token) (m : Listed α) (f : γ → List Token)
    (l : Listed γ) : Prop where
  items : m.items.map (fun a => lexemes (g a)) = l.items.map fun b => lexemes (f b)
  trailing : (m.trailing && !m.isEmpty) = (l.trailing && !l.isEmpty)

namespace SameItems

variable {γ : Type} {g : α → List Token} {m : Listed α} {f : γ → List Token} {l : Listed γ}

theorem isEmpty_eq (h : SameItems g m f l) : m.isEmpty = l.isEmpty :=
  isEmpty_eq_of_length_eq (by simpa using congrArg List.length h.items)

theorem of_forall₂ (hitems : List.Forall₂ (fun b a => lexemes (g a) = lexemes (f b)) l.items m.items)
    (htrailing : m.trailing = (l.trailing && !l.isEmpty)) : SameItems g m f l := by
  have hequal : List.Forall₂ Eq (l.items.map fun b => lexemes (f b))
      (m.items.map fun a => lexemes (g a)) := by
    simpa only [List.forall₂_map_left_iff, List.forall₂_map_right_iff, eq_comm] using hitems
  rw [List.forall₂_eq_eq_eq] at hequal
  refine ⟨hequal.symm, ?_⟩
  rw [isEmpty_eq_of_length_eq hitems.length_eq.symm, htrailing]
  simp

theorem lexemes_tokens (h : SameItems g m f l) (sep : List Token) :
    lexemes (m.tokens sep g) = lexemes (l.tokens sep f) := by
  have hbetween := @lexemes_between sep (m.items.map g) (l.items.map f)
    (by simpa [Function.comp_def] using h.items)
  rw [Listed.tokens, Listed.tokens, lexemes_append, lexemes_append, hbetween, h.trailing]

end SameItems

section Listed

variable {γ : Type} {l : Listed γ} {f : γ → List Token} {g : α → List Token}
  {item : Parser α} {stop done : List Token → Bool} {text : String} {rest : List Token}

/-- What has been written as a list is read as one, each item in the way its tokens are. -/
theorem reads_parts {Q : List Token → α → Prop} (follows : List Token → Prop) (hne : text ≠ "")
    (hstop : stop rest = true) (hdone : done rest = true)
    (hgo : ∀ us, done (Generated.operator text ++ us) = false)
    (hsep : ∀ us, (Generated.operator text ++ us).length
      ≤ (l.tokens (Generated.operator text) f ++ rest).length →
      follows (Generated.operator text ++ us))
    (hrest : follows rest)
    (hitem : ∀ b ∈ l.items, f b ≠ []
      ∧ ∀ us, follows us → stop (f b ++ us) = false ∧ Reads item (f b) us (Q (f b))) :
    Reads (loop (listRound stop done text item) []) (l.tokens (Generated.operator text) f) rest
      fun m => List.Forall₂ Q (l.items.map f) m.items
        ∧ m.trailing = (l.trailing && !l.isEmpty) := by
  have hempty : (l.items.map f).isEmpty = l.isEmpty := by simp [Listed.isEmpty]
  have htokens : l.tokens (Generated.operator text) f = Listed.between (Generated.operator text)
      (l.items.map f) ++ trailer (Generated.operator text) l.trailing (l.items.map f) := by
    rw [Listed.tokens, trailer, hempty]
  rw [htokens] at hsep ⊢
  have hfollows : follows
      (trailer (Generated.operator text) l.trailing (l.items.map f) ++ rest) := by
    by_cases htrailing : (l.trailing && !(l.items.map f).isEmpty) = true
    · rw [trailer, if_pos htrailing] at hsep ⊢
      exact hsep rest (by simp only [List.length_append]; omega)
    · rw [trailer, if_neg htrailing]
      exact hrest
  have hsame : lexemes (Generated.operator text) = operatorLexemes text.toList := by
    simp [Generated.operator, lexemes, Function.comp_def]
  have hparts := @partsRead _ item stop (Generated.operator text) Q
    (trailer (Generated.operator text) l.trailing (l.items.map f) ++ rest) follows (l.items.map f)
    (by simpa only [List.append_assoc] using hsep) hfollows (by simpa using hitem)
  rw [← hempty]
  exact reads_list hne hsame hstop hdone hgo hparts

/-- What has been written as a list is read as one, each item in its own way. -/
theorem reads_items {R : γ → α → Prop} (follows : List Token → Prop) (hne : text ≠ "")
    (hstop : stop rest = true) (hdone : done rest = true)
    (hgo : ∀ us, done (Generated.operator text ++ us) = false)
    (hsep : ∀ us, follows (Generated.operator text ++ us)) (hrest : follows rest)
    (hitem : ∀ b ∈ l.items, f b ≠ [] ∧ ∀ us, follows us → stop (f b ++ us) = false
      ∧ Reads item (f b) us (R b)) :
    Reads (loop (listRound stop done text item) []) (l.tokens (Generated.operator text) f) rest
      fun m => List.Forall₂ R l.items m.items ∧ m.trailing = (l.trailing && !l.isEmpty) := by
  -- What is read depends on the tokens alone, so it suits every item that is written with them.
  have hpart : ∀ b ∈ l.items, f b ≠ [] ∧ ∀ us, follows us → stop (f b ++ us) = false
      ∧ Reads item (f b) us fun a => ∀ c, c ∈ l.items ∧ f c = f b → R c a := by
    intro b hb
    refine ⟨(hitem b hb).1, fun us hus => ⟨((hitem b hb).2 us hus).1, ?_⟩⟩
    refine Reads.of_all b ⟨hb, rfl⟩ fun c ⟨hc, hsame⟩ => ?_
    rw [← hsame]
    exact ((hitem c hc).2 us hus).2
  refine (reads_parts (Q := fun ts a => ∀ c, c ∈ l.items ∧ f c = ts → R c a) follows hne hstop hdone
    hgo (fun us _ => hsep us) hrest hpart).mono fun m ⟨hitems, htrailing⟩ => ⟨?_, htrailing⟩
  rw [List.forall₂_map_left_iff, List.forall₂_iff_zip] at hitems
  rw [List.forall₂_iff_zip]
  exact ⟨hitems.1, fun h => hitems.2 h _ ⟨(List.of_mem_zip h).1, rfl⟩⟩

/-- What has been written as a list is read as one with the same items. -/
theorem reads_listed (follows : List Token → Prop) (hne : text ≠ "") (hstop : stop rest = true)
    (hdone : done rest = true) (hgo : ∀ us, done (Generated.operator text ++ us) = false)
    (hsep : ∀ us, follows (Generated.operator text ++ us)) (hrest : follows rest)
    (hitem : ∀ b ∈ l.items, f b ≠ [] ∧ ∀ us, follows us → stop (f b ++ us) = false
      ∧ Reads item (f b) us fun a => lexemes (g a) = lexemes (f b)) :
    Reads (loop (listRound stop done text item) []) (l.tokens (Generated.operator text) f) rest
      fun m => SameItems g m f l :=
  (reads_items follows hne hstop hdone hgo hsep hrest hitem).mono fun _ h => .of_forall₂ h.1 h.2

end Listed

end Memberwise.Parser
