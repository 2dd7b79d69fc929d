import Memberwise.Proofs.Header

/-!
# What is written again

What is read of an item is written again in the order of the source. The texts are the same, with few
exceptions: parts without content are left out, lifetimes are written before other parameters, and the
grammar may write a phrase in its own way. Each exception has its place, so the rules for them ask what
the tokens are followed by, and what is around them.

## Main definitions

* `Setting`: what tokens are among
* `Rewritten`: what is written for tokens of the source, in front of others
* `Rewrites`: what is written for all that a parser finds
* `Writes`: what is written after a parser has gone on in a stream

## Main statements

* `Writes.bind`, `Rewrites.bind`, `Writes.ite`: sequences and choices
* `Writes.loop`, `Rewrites.separated`, `Rewrites.repeatUntil`: repetition
* `Rewrites.inside`, `Rewrites.group`: groups
-/

namespace Memberwise

/-- A phrase of which items consist beside their own parts. It is written as the grammar writes it. -/
def Phrase.isLeaf : Phrase → Bool
  | .type _ | .bound _ _ | .expression _ | .pattern => true
  | _ => false

/-- What tokens are among, outside of any group in there. -/
inductive Setting where
  | plain
  /-- The variants of an enum. -/
  | variants
  /-- The arguments of a function. -/
  | arguments

/-- The keyword in front of a group with such parts, and the brackets of the group. -/
def Setting.introduction : Setting → Option (String × Delimiter)
  | plain => none
  | variants => some ("enum", .brace)
  | arguments => some ("fn", .parenthesis)

/-- What is written for tokens of the source, in front of the tokens that follow them. -/
inductive Rewritten : Setting → List Token → List Token → List Token → Prop
  /-- The texts are kept. -/
  | same {setting : Setting} {ts rest us : List Token} (h : texts us = texts ts) :
    Rewritten setting ts rest us
  /-- Whole trees are written one after the other. -/
  | append {setting : Setting} {ts ts' rest us us' : List Token} (hts : Whole ts) (hts' : Whole ts')
    (first : Rewritten setting ts (ts' ++ rest) us) (second : Rewritten setting ts' rest us') :
    Rewritten setting (ts ++ ts') rest (us ++ us')
  /-- A group is written with its brackets. -/
  | group {setting : Setting} {d : Delimiter} {first last first' last' : Span} {ts rest us : List Token}
    (content : Rewritten .plain ts (⟨.closing d, last⟩ :: rest) us) :
    Rewritten setting (⟨.opening d, first⟩ :: ts ++ [⟨.closing d, last⟩]) rest
      (⟨.opening d, first'⟩ :: us ++ [⟨.closing d, last'⟩])
  /-- Behind a keyword and what belongs to it, a group is written with the parts that it has there. -/
  | introduced {setting inner : Setting} {word : String} {d : Delimiter} {span first last first' last' : Span}
    {head content rest us vs : List Token} (h : inner.introduction = some (word, d))
    (before : Rewritten .plain (⟨.ident word, span⟩ :: head)
      (⟨.opening d, first⟩ :: content ++ [⟨.closing d, last⟩] ++ rest) us)
    (inside : Rewritten inner content (⟨.closing d, last⟩ :: rest) vs) :
    Rewritten setting
      (⟨.ident word, span⟩ :: head ++ (⟨.opening d, first⟩ :: content ++ [⟨.closing d, last⟩])) rest
      (us ++ (⟨.opening d, first'⟩ :: vs ++ [⟨.closing d, last'⟩]))
  /-- A block is written with its attributes and with its statements as the grammar writes them. -/
  | block {setting : Setting} {first last first' last' : Span} {attributes ts rest us : List Token}
    {f : Fragment}
    (before : Rewritten .plain attributes (ts ++ ⟨.closing .brace, last⟩ :: rest) us)
    (found : Parser.Finds (phrases .statements) ts (⟨.closing .brace, last⟩ :: rest) f) :
    Rewritten setting (⟨.opening .brace, first⟩ :: (attributes ++ ts) ++ [⟨.closing .brace, last⟩]) rest
      (⟨.opening .brace, first'⟩ :: (us ++ f.tokens) ++ [⟨.closing .brace, last'⟩])
  /-- A phrase is written as the grammar writes it. -/
  | phrase {setting : Setting} {phrase : Phrase} {ts rest : List Token} {f : Fragment}
    (leaf : phrase.isLeaf = true) (found : Parser.Finds (phrases phrase) ts rest f) :
    Rewritten setting ts rest f.tokens
  /-- A colon in front of no bounds is left out. -/
  | colon {setting : Setting} {ts rest : List Token} (h : texts ts = [":"])
    (ends : Parser.endsTypeBounds rest = true ∨ isBrace rest = true) : Rewritten setting ts rest []
  /-- A `where` in front of no predicates is left out. -/
  | clause {setting : Setting} {ts rest : List Token} (h : texts ts = ["where"])
    (ends : Parser.endsPredicate rest = true) : Rewritten setting ts rest []
  /-- A parameter is written with its parts. -/
  | param {setting : Setting} {ts rest : List Token} {p : GenericParam} (stands : p.Stands ts rest)
    (headed : p.Headed) : Rewritten setting ts rest p.tokens
  /-- Parameters in angle brackets are written with the lifetimes first. -/
  | params {setting : Setting} {ts rest us : List Token} {g : Generics}
    (stands : ParamsStand ts rest g.params.items)
    (list : AngleList (g.inOrder.map GenericParam.tokens) us) (headed : ∀ p ∈ g.inOrder, p.Headed) :
    Rewritten setting ts rest us
  /-- A visibility in front of a variant is left out. -/
  | visibility {ts rest : List Token} {v : Visibility}
    (found : Parser.Finds Parser.visibility ts rest v) : Rewritten .variants ts rest []
  /-- An argument that is a type alone, a path with arguments of its own, gets a name. -/
  | argument {ts rest : List Token} {f : Fragment}
    (found : Parser.Finds (phrases (.type true)) ts rest f)
    (path : (isIdent (ts ++ rest) && isOp "<" (afterTree (ts ++ rest))) = true) :
    Rewritten .arguments ts rest (Generated.word "_" ++ Generated.operator ":" ++ f.tokens)

namespace Parser

variable {α β σ : Type}

/-- For all that the parser finds, `write` is written. -/
def Rewrites (setting : Setting) (p : Parser α) (write : α → List Token) : Prop :=
  ∀ ts rest a, Finds p ts rest a → Rewritten setting ts rest (write a)

/-- The parser goes on in the stream `start`, of which `written` has been written. Then `Q` holds of its
result and of all that has been written. -/
def Writes (setting : Setting) (start written : List Token) (p : Parser α)
    (Q : α → List Token → Prop) : Prop :=
  ∀ read ts rest a, start = read ++ (ts ++ rest) → Whole read →
    Rewritten setting read (ts ++ rest) written → Finds p ts rest a →
    ∃ us, Q a us ∧ Rewritten setting (read ++ ts) rest us

variable {setting : Setting} {start written : List Token} {p : Parser α} {write : α → List Token}
  {Q : α → List Token → Prop} {R : β → List Token → Prop}

/-! ## One parser after another -/

namespace Writes

theorem mono {Q' : α → List Token → Prop} (h : Writes setting start written p Q)
    (hQ : ∀ a us, Q a us → Q' a us) : Writes setting start written p Q' := by
  intro read ts rest a hstart hread hwritten hfound
  obtain ⟨us, ha, hus⟩ := h read ts rest a hstart hread hwritten hfound
  exact ⟨us, hQ a us ha, hus⟩

theorem pure {a : α} (h : Q a written) : Writes setting start written (Pure.pure a) Q := by
  intro read ts rest b _ _ hwritten hfound
  obtain ⟨rfl, rfl⟩ := hfound.pure
  rw [List.append_nil]
  exact ⟨written, h, hwritten⟩

/-- A value that is not read is handed on. -/
theorem pure_bind {a : α} {f : α → Parser β} (h : Writes setting start written (f a) R) :
    Writes setting start written (Pure.pure a >>= f) R := by
  rwa [LawfulMonad.pure_bind]

theorem bind {f : α → Parser β} [Passes p] [∀ a, Passes (f a)]
    (hp : Writes setting start written p Q)
    (hf : ∀ a us, Q a us → Writes setting start us (f a) R) :
    Writes setting start written (p >>= f) R := by
  intro read ts rest b hstart hread hwritten hfound
  obtain ⟨a, us, vs, rfl, hfirst, hsecond⟩ := hfound.bind
  rw [List.append_assoc] at hstart hwritten
  obtain ⟨ws, hQ, hws⟩ := hp read us (vs ++ rest) a hstart hread hwritten hfirst
  rw [← List.append_assoc read] at hstart ⊢
  exact hf a ws hQ (read ++ us) vs rest b hstart (hread.append hfirst.whole) hws hsecond

/-- A pair is taken apart by what follows. -/
theorem bind_pair {γ : Type} {p : Parser (α × γ)} {f : α × γ → Parser β} [Passes p]
    [∀ a c, Passes (f (a, c))] {Q : α × γ → List Token → Prop}
    (hp : Writes setting start written p Q)
    (hf : ∀ a c us, Q (a, c) us → Writes setting start us (f (a, c)) R) :
    Writes setting start written (p >>= f) R := by
  have hpasses (r : α × γ) : Passes (f r) := inferInstanceAs (Passes (f (r.1, r.2)))
  exact hp.bind fun r us h => hf r.1 r.2 us h

/-- So is what may be missing. -/
theorem bind_option {p : Parser (Option α)} {f : Option α → Parser β} [Passes p]
    [∀ a, Passes (f (some a))] [Passes (f none)] {Q : Option α → List Token → Prop}
    (hp : Writes setting start written p Q)
    (hsome : ∀ a us, Q (some a) us → Writes setting start us (f (some a)) R)
    (hnone : ∀ us, Q none us → Writes setting start us (f none) R) :
    Writes setting start written (p >>= f) R := by
  have hpasses (r : Option α) : Passes (f r) := by cases r <;> infer_instance
  refine hp.bind fun r us h => ?_
  cases r with
  | some a => exact hsome a us h
  | none => exact hnone us h

theorem map {f : α → β} [Passes p] (hp : Writes setting start written p Q)
    (hf : ∀ a us, Q a us → R (f a) us) : Writes setting start written (f <$> p) R := by
  rw [← bind_pure_comp]
  exact hp.bind fun a us ha => pure (hf a us ha)

theorem ahead {f : List Token → Parser β} (hf : ∀ ts, Writes setting start written (f ts) R) :
    Writes setting start written (Parser.ahead >>= f) R :=
  fun read ts rest b hstart hread hwritten hfound =>
    hf _ read ts rest b hstart hread hwritten hfound.ahead

theorem here {f : Span → Parser β} (hf : ∀ span, Writes setting start written (f span) R) :
    Writes setting start written (Parser.here >>= f) R := by
  intro read ts rest b hstart hread hwritten hfound
  obtain ⟨span, hfound⟩ := hfound.here
  exact hf span read ts rest b hstart hread hwritten hfound

theorem ended {f : Bool → Parser β} (hf : ∀ last, Writes setting start written (f last) R) :
    Writes setting start written (Parser.ended >>= f) R :=
  ahead fun ts => hf (atEnd ts)

theorem ite {b : Prop} [Decidable b] {q : Parser α} (hp : b → Writes setting start written p Q)
    (hq : ¬ b → Writes setting start written q Q) :
    Writes setting start written (if b then p else q) Q := by
  split
  · next hb => exact hp hb
  · next hb => exact hq hb

/-- What is written for a parser may depend on what comes after it. -/
theorem choose {test : List Token → Bool} {f g : α → Parser β}
    (hf : Writes setting start written (p >>= f) R) (hg : Writes setting start written (p >>= g) R) :
    Writes setting start written (do
      let a ← p
      if test (← Parser.ahead) then f a else g a) R := by
  intro read ts rest b hstart hread hwritten hfound
  obtain ⟨limit, hread'⟩ := hfound.read
  obtain ⟨a, d, ha, hb⟩ := bind_eq_ok.1 hread'
  have hb : (if test d.tokens then f a else g a) d = .ok (b, ⟨rest, none, limit⟩) := hb
  split at hb
  · exact hf read ts rest b hstart hread hwritten
      ⟨hfound.whole, hfound.closed, limit, bind_eq_ok.2 ⟨a, d, ha, hb⟩⟩
  · exact hg read ts rest b hstart hread hwritten
      ⟨hfound.whole, hfound.closed, limit, bind_eq_ok.2 ⟨a, d, ha, hb⟩⟩

/-- A parser that always fails gives nothing that could be written. -/
theorem of_not_finds (h : ∀ ts rest a, ¬ Finds p ts rest a) : Writes setting start written p Q :=
  fun _ ts rest a _ _ _ hfound => absurd hfound (h ts rest a)

theorem expected (choices : List Terminal) : Writes setting start written (expected choices) Q :=
  of_not_finds fun _ _ _ h => h.not_expected

theorem expectedAt (place : List Token) (choices : List Terminal) :
    Writes setting start written (expectedAt place choices) Q :=
  of_not_finds fun _ _ _ h => h.not_expectedAt

theorem reject (cause : Cause) : Writes setting start written (reject cause) Q :=
  of_not_finds fun _ _ _ h => h.not_reject

theorem rejectAt (cause : Cause) (span : Span) : Writes setting start written (rejectAt cause span) Q :=
  of_not_finds fun _ _ _ h => h.not_rejectAt

/-- What keeps the spacing of its source is written as it was read. -/
theorem since : Writes setting start written (since start) fun a us => us = a := by
  intro read ts rest a hstart _ _ hfound
  rw [hstart, ← List.append_assoc] at hfound
  obtain ⟨rfl, rfl⟩ := hfound.since
  exact ⟨_, rfl, .same (by simp)⟩

/-- So is a result that consists of it. -/
theorem kept {f : List Token → α} (h : ∀ ts, write (f ts) = ts) :
    Writes setting start written (do return f (← Parser.since start)) fun a us => us = write a :=
  since.bind fun ts _ hts => pure (hts.trans (h ts).symm)

/-- What is read before that may be anything. -/
theorem any : Writes setting start written p fun _ _ => True :=
  fun read ts _ _ _ _ _ _ => ⟨read ++ ts, trivial, .same rfl⟩

/-- A statement about the result alone. -/
theorem gives {G : α → Prop} (h : Writes setting start written p Q) (hp : ∀ c, Gives c p G) :
    Writes setting start written p fun a us => Q a us ∧ G a := by
  intro read ts rest a hstart hread hwritten hfound
  obtain ⟨us, ha, hus⟩ := h read ts rest a hstart hread hwritten hfound
  exact ⟨us, ⟨ha, hfound.gives hp⟩, hus⟩

/-- A loop whose rounds keep an invariant of the state and of all that has been written. -/
theorem loop {step : σ → Parser (σ ⊕ α)} [∀ s, Passes (step s)] (Inv : σ → List Token → Prop)
    (hstep : ∀ s us, Inv s us → Writes setting start us (step s) fun r vs =>
      match r with
      | .inl next => Inv next vs
      | .inr a => Q a vs)
    {s : σ} (hs : Inv s written) : Writes setting start written (loop step s) Q := by
  intro read ts rest a hstart hread hwritten hfound
  -- Induction on the tokens that are left for the loop.
  generalize hlength : ts.length = n
  induction n using Nat.strongRecOn generalizing s written read ts with
  | ind n ih =>
    subst hlength
    obtain hlast | ⟨next, us, vs, rfl, hne, hround, hmore⟩ := hfound.loop
    · exact hstep s written hs read ts rest _ hstart hread hwritten hlast
    · rw [List.append_assoc] at hstart hwritten
      obtain ⟨ws, hnext, hws⟩ := hstep s written hs read us _ _ hstart hread hwritten hround
      rw [← List.append_assoc read] at hstart ⊢
      have hless : vs.length < (us ++ vs).length := by
        simpa using List.length_pos_iff.2 hne
      exact ih _ hless hnext (read ++ us) vs hstart (hread.append hround.whole) hws hmore rfl

end Writes

/-! ## All that a parser finds -/

namespace Rewrites

variable {γ : Type} {item : Parser α}

/-- Parsers that keep the texts of what they read. -/
theorem of_spends (h : ∀ c, Spends c p fun a ts => texts (write a) = texts ts) : Rewrites setting p write :=
  fun _ _ _ hfound => .same (hfound.spends h)

theorem of_writes (h : ∀ start, Writes setting start [] p fun a us => us = write a) :
    Rewrites setting p write := by
  intro ts rest a hfound
  obtain ⟨_, rfl, hus⟩ := h (ts ++ rest) [] ts rest a rfl .nil (.same rfl) hfound
  exact hus

/-- A parser that keeps the start of the stream, for parts that keep their spacing. -/
theorem of_ahead {f : List Token → Parser α}
    (h : ∀ start, Writes setting start [] (f start) fun a us => us = write a) :
    Rewrites setting (Parser.ahead >>= f) write := by
  intro ts rest a hfound
  obtain ⟨_, rfl, hus⟩ := h (ts ++ rest) [] ts rest a rfl .nil (.same rfl) hfound.ahead
  exact hus

theorem writes (hp : Rewrites setting p write) (start written : List Token) :
    Writes setting start written p fun a us => us = written ++ write a := by
  intro read ts rest a _ hread hwritten hfound
  exact ⟨_, rfl, .append hread hfound.whole hwritten (hp _ _ _ hfound)⟩

/-- What is written for one parser, and then for another. -/
theorem bind {f : α → Parser β} [Passes p] [∀ a, Passes (f a)] (hp : Rewrites setting p write)
    (hf : ∀ a, Writes setting start (written ++ write a) (f a) R) :
    Writes setting start written (p >>= f) R :=
  (hp.writes start written).bind fun a _ h => h ▸ hf a

theorem bind_pure {f : α → β} {write' : β → List Token} [Passes p] (hp : Rewrites setting p write)
    (h : ∀ a, write' (f a) = write a) : Rewrites setting (do return f (← p)) write' := by
  intro ts rest b hfound
  obtain ⟨a, rfl, ha⟩ := hfound.bind_pure
  rw [h]
  exact hp _ _ _ ha

theorem map {f : α → β} {write' : β → List Token} [Passes p] (hp : Rewrites setting p write)
    (h : ∀ a, write' (f a) = write a) : Rewrites setting (f <$> p) write' := by
  rw [← bind_pure_comp]
  exact hp.bind_pure h

theorem ite {b : Prop} [Decidable b] {q : Parser α} (hp : Rewrites setting p write)
    (hq : Rewrites setting q write) :
    Rewrites setting (if b then p else q) write := by
  split
  · exact hp
  · exact hq

theorem pure {a : α} (h : write a = []) : Rewrites setting (Pure.pure a) write := by
  intro ts rest b hfound
  obtain ⟨rfl, rfl⟩ := hfound.pure
  rw [h]
  exact .same rfl

/-- What is read on a condition only, with a value for nothing otherwise. -/
theorem provided {b : Prop} [Decidable b] {nothing : α} {f : α → Parser β} [Passes p]
    [∀ a, Passes (f a)] (hp : Rewrites setting p write) (hnothing : write nothing = [])
    (hf : ∀ a, (¬ b → a = nothing) → Writes setting start (written ++ write a) (f a) R) :
    Writes setting start written (if b then p >>= f else Pure.pure nothing >>= f) R := by
  refine Writes.ite (fun hb => hp.bind fun a => hf a fun h => absurd hb h) fun _ => Writes.pure_bind ?_
  simpa only [hnothing, List.append_nil] using hf nothing fun _ => rfl

/-- What is read in one of two ways. -/
theorem either {b : Prop} [Decidable b] {q : Parser α} {f : α → Parser β} [Passes p] [Passes q]
    [∀ a, Passes (f a)] (hp : Rewrites setting p write) (hq : Rewrites setting q write)
    (hf : ∀ a, Writes setting start (written ++ write a) (f a) R) :
    Writes setting start written (if b then p >>= f else q >>= f) R :=
  Writes.ite (fun _ => hp.bind hf) fun _ => hq.bind hf

/-- What is not read on a condition. -/
theorem otherwise {b : Prop} [Decidable b] {nothing : α} {f : α → Parser β} [Passes p]
    [∀ a, Passes (f a)] (hp : Rewrites setting p write) (hnothing : write nothing = [])
    (hf : ∀ a, (b → a = nothing) → Writes setting start (written ++ write a) (f a) R) :
    Writes setting start written (if b then Pure.pure nothing >>= f else p >>= f) R := by
  refine Writes.ite (fun _ => Writes.pure_bind ?_) fun hb => hp.bind fun a => hf a fun h => absurd h hb
  simpa only [hnothing, List.append_nil] using hf nothing fun _ => rfl

theorem expected (choices : List Terminal) : Rewrites setting (expected choices) write :=
  fun _ _ _ hfound => hfound.not_expected.elim

theorem seq_nil : Rewrites setting (seq []) id := pure rfl

theorem seq_cons {p : Parser (List Token)} {ps : List (Parser (List Token))} [Passes p]
    [Passes (seq ps)] (hp : Rewrites setting p id) (hps : Rewrites setting (seq ps) id) :
    Rewrites setting (seq (p :: ps)) id :=
  of_writes fun _ => hp.bind fun _ => hps.bind fun _ => Writes.pure rfl

theorem when? {test : List Token → Bool} {p : Parser (List Token)} (hp : Rewrites setting p id) :
    Rewrites setting (when? test p) id :=
  of_writes fun _ => Writes.ahead fun _ => Writes.ite (fun _ => hp.writes _ _) fun _ =>
    Writes.pure rfl

/-! ### Groups -/

/-- A group is written with brackets of its own. -/
theorem bracketed {d : Delimiter} [Passes p] (hp : Rewrites .plain p write) :
    Rewrites setting (bracketed d p) fun r => Generated.group d (write r.2.1) := by
  intro ts rest r hfound
  obtain ⟨first, last, us, a, rfl, rfl, hcontent⟩ := hfound.bracketed
  exact .group (hp _ _ _ hcontent)

theorem inside {d : Delimiter} [Passes p] (hp : Rewrites .plain p write) :
    Rewrites setting (inside d p) fun a => Generated.group d (write a) :=
  hp.bracketed.bind_pure fun _ => rfl

/-- A group that is kept is written with the brackets of the source. -/
theorem brackets {d : Delimiter} [Passes p] (hp : Rewrites .plain p write) :
    Rewrites setting (Parser.bracketed d p) fun r => r.1 :: write r.2.1 ++ [r.2.2] := by
  intro ts rest r hfound
  obtain ⟨first, last, us, a, rfl, rfl, hcontent⟩ := hfound.bracketed
  exact .group (hp _ _ _ hcontent)

theorem group {d : Delimiter} {p : Parser (List Token)} [Passes p] (hp : Rewrites .plain p id) :
    Rewrites setting (group d p) id :=
  hp.brackets.bind_pure fun _ => rfl

/-! ### Lists -/

theorem repeatUntil {stop : List Token → Bool} [Passes item] (hitem : Rewrites setting item write) :
    Rewrites setting (repeatUntil stop item) fun as => as.flatMap write := by
  have _ (acc : List α) : Passes (repeatRound stop item acc) := by
    unfold repeatRound
    infer_instance
  rw [repeatUntil_eq]
  refine of_writes fun start => Writes.loop
    (fun acc us => us = acc.reverse.flatMap write) ?_ rfl
  rintro acc _ rfl
  refine Writes.ahead fun _ => Writes.ite (fun _ => Writes.pure rfl) fun _ => ?_
  exact hitem.bind fun a => Writes.pure (by simp)

theorem concatUntil {stop : List Token → Bool} {item : Parser (List Token)} [Passes item]
    (hitem : Rewrites setting item id) : Rewrites setting (concatUntil stop item) id :=
  hitem.repeatUntil.bind_pure fun _ => List.flatMap_id.symm

/-- A list is written with its separators, the last one if it stands in the source. -/
theorem list {stop done : List Token → Bool} {text : String} [Passes item]
    (hitem : Rewrites setting item write) :
    Rewrites setting (loop (listRound stop done text item) []) fun l =>
      l.tokens (Generated.operator text) write := by
  refine of_writes fun start => Writes.loop
    (fun acc us => us = acc.reverse.flatMap fun a => write a ++ Generated.operator text) ?_ rfl
  rintro acc _ rfl
  refine Writes.ahead fun _ => Writes.ite (fun _ => Writes.pure ?_) fun _ => hitem.bind fun a =>
    Writes.ahead fun _ => Writes.ite (fun _ => Writes.pure ?_) fun _ =>
    (of_spends fun _ => (spends_operator text).mono fun _ _ h => h.2.symm).bind fun _ => Writes.pure ?_
  · have htrailing := Listed.tokens_trailing (Generated.operator text) write acc.reverse
    rwa [List.isEmpty_reverse, eq_comm] at htrailing
  · dsimp only
    rw [List.reverse_cons, Listed.tokens_concat]
  · simp

theorem separated {stop : List Token → Bool} {text : String} [Passes item]
    (hitem : Rewrites setting item write) :
    Rewrites setting (separated stop text item) fun l => l.tokens (Generated.operator text) write :=
  hitem.list

theorem joined {stop : List Token → Bool} {text : String} [Passes item]
    (hitem : Rewrites setting item write) :
    Rewrites setting (joined stop text item) fun l => l.tokens (Generated.operator text) write :=
  hitem.list

end Rewrites

/-! ## Terminals -/

theorem rewrites_operator (text : String) : Rewrites setting (operator text) id :=
  .of_spends fun _ => (spends_operator text).mono fun _ _ h => h.1

/-- An operator that is not kept is written anew. -/
theorem rewrites_mark (text : String) : Rewrites setting (operator text) fun _ => Generated.operator text :=
  .of_spends fun _ => (spends_operator text).mono fun _ _ h => h.2.symm

theorem rewrites_operator? (text : String) : Rewrites setting (operator? text) id :=
  .of_writes fun _ => Writes.ahead fun _ => Writes.ite (fun _ => (rewrites_operator text).writes _ _)
    fun _ => Writes.pure rfl

/-- So is one that need not be there. -/
theorem rewrites_mark? {text : String} (htext : text ≠ "") : Rewrites setting (operator? text) fun us =>
    if us.isEmpty then [] else Generated.operator text := by
  intro ts rest us hfound
  dsimp only
  obtain ⟨hempty, rfl⟩ | ⟨hsome, htexts⟩ := stands_operator? htext hfound
  · rw [if_pos hempty]
    exact .same rfl
  · rw [hsome, if_neg Bool.false_ne_true]
    exact .same (by rw [htexts, texts_operator])

theorem rewrites_keyword (text : String) : Rewrites setting (keyword text) id :=
  .of_spends fun _ => (spends_keyword text).mono fun _ _ h => by rw [h.1, id]

/-- A word that is not kept is written anew. -/
theorem rewrites_word (text : String) : Rewrites setting (keyword text) fun _ => Generated.word text :=
  .of_spends fun _ => (spends_keyword text).mono fun _ _ h => h.2.symm

theorem rewrites_take (n : Nat) : Rewrites setting (take n) id := by
  intro ts rest us hfound
  obtain rfl := hfound.take
  exact .same rfl

theorem rewrites_keyword? (text : String) : Rewrites setting (keyword? text) id :=
  .of_writes fun _ => Writes.ahead fun _ => Writes.ite (fun _ => (rewrites_take 1).writes _ _)
    fun _ => Writes.pure rfl

theorem rewrites_itemKeyword (text : String) : Rewrites setting (itemKeyword text) Name.tokens :=
  .of_spends fun _ => spends_itemKeyword text

theorem rewrites_name : Rewrites setting name Name.tokens := .of_spends fun _ => spends_name

theorem rewrites_anyName : Rewrites setting anyName Name.tokens := .of_spends fun _ => spends_anyName

theorem rewrites_identifier : Rewrites setting identifier id :=
  .of_spends fun _ => spends_identifier.mono fun _ _ h => by rw [h.1, id]

theorem rewrites_anyWord : Rewrites setting anyWord id :=
  .of_spends fun _ => spends_anyWord.mono fun _ _ h => by rw [h.1, id]

theorem rewrites_lifetime : Rewrites setting lifetime id :=
  .of_spends fun _ => spends_lifetime.mono fun _ _ h => by rw [h, id]

theorem rewrites_literal : Rewrites setting literal id := .of_spends fun _ => spends_literal

theorem rewrites_modPath : Rewrites setting modPath id := .of_spends fun _ => spends_modPath

theorem rewrites_anyGroup : Rewrites setting anyGroup id :=
  .of_spends fun _ => spends_anyGroup.mono fun _ _ h => by rw [h.1, id]

theorem rewrites_visibility : Rewrites setting visibility Visibility.tokens :=
  .of_spends fun _ => spends_visibility

end Parser

end Memberwise
