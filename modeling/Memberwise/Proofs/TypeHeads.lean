import Memberwise.Proofs.Heads

/-!
# What types begin with

The tokens of a type begin as the type began in the source, as far as the grammar ever asks: a type
in parentheses was in parentheses, one with a self type had one, and one that begins with a binder
began with a binder.

## Main definitions

* `InParentheses`: what was read in the parentheses of a type
* `TypeFound`: what is found of a type that was read

## Main statements

* `finds_type`: every type that is read is like this
* `finds_parenthesisedContent`: what stands in the parentheses of a type
-/

namespace Memberwise.Parser

variable {ph : Phrases} {c : Cursor} {ts us rest : List Token}

/-! ## Marks -/

/-- The mark in front of a type tells its kind, which is not one of those that are told apart. -/
def marksKind : Lexeme → Bool
  | .ident word => ["dyn", "extern", "fn", "impl", "unsafe"].contains word
  | .punct char _ => ['!', '&', '*'].contains char
  | .opening delimiter => delimiter == .bracket
  | _ => false

/-- The tokens begin with a mark that tells the kind of a type. -/
def BeginsKind (ts : List Token) : Prop := ∃ t us, ts = t :: us ∧ marksKind t.lexeme = true

theorem BeginsKind.append (h : BeginsKind ts) (us : List Token) : BeginsKind (ts ++ us) := by
  obtain ⟨t, vs, rfl, ht⟩ := h
  exact ⟨t, vs ++ us, rfl, ht⟩

/-- What was read in the parentheses of a type. Only to a bound with a mark may others be added. -/
inductive InParentheses (ph : Phrases) : List Token → Fragment → Bool → Prop
  | nothing : InParentheses ph [] ⟨[], .plain⟩ false
  | lifetime {ts : List Token} {content : Fragment} (h : LifetimeSum content.tokens)
    (hshape : content.shape = .parenthesised) : InParentheses ph ts content false
  | bound {ts : List Token} {content : Fragment} (h : isOp "?" content.tokens = true)
    (hshape : content.shape = .soleBound content.tokens) : InParentheses ph ts content true
  | type {ts after : List Token} {first content : Fragment}
    (h : Finds (ph (.type true)) ts after first) (htokens : content.tokens = first.tokens)
    (hcore : ∀ core, content.shape = .soleBound core →
      core = first.tokens ∨ first.shape = .soleBound core) : InParentheses ph ts content false
  | tuple {us vs after others : List Token} {first content : Fragment}
    (h : Finds (ph (.type true)) us after first) (htokens : content.tokens = first.tokens ++ others)
    (hcomma : isOp "," others = true) (hshape : content.shape = .plain) :
    InParentheses ph (us ++ vs) content false

/-- A type in parentheses had parentheses. In them is what was read there, or what that is a bound
of. -/
inductive ParenthesisedStart (ph : Phrases) (f : Fragment) : List Token → Prop
  | intro {first last : Span} {us vs inner more : List Token} {content : Fragment} {sum : Bool}
    (hcontent : InParentheses ph us content sum)
    (htokens : f.tokens
      = ⟨.opening .parenthesis, first⟩ :: (inner ++ ⟨.closing .parenthesis, last⟩ :: more))
    (hinner : inner = content.tokens ∨ content.shape = .soleBound inner)
    (hcore : ∀ core, f.shape = .soleBound core → sum = true ∧ content.shape = .soleBound core) :
    ParenthesisedStart ph f
      (⟨.opening .parenthesis, first⟩ :: (us ++ ⟨.closing .parenthesis, last⟩ :: vs))

/-- What is found of a type that was read from `ts`. -/
structure TypeFound (ph : Phrases) (ts : List Token) (f : Fragment) : Prop where
  start : TypeStart f.tokens ts
  core : ∀ core, f.shape = .soleBound core → isWord "for" core = true ∨ isOp "?" core = true
  binder : isWord "for" f.tokens = true → isWord "for" ts = true
  paren : isParen f.tokens = true → ParenthesisedStart ph f ts
  angle : isOp "<" f.tokens = true → QualifiedStart ph f.tokens ts

namespace TypeFound

variable {f : Fragment}

theorem of_kind (hshape : f.shape = .plain) (hkind : BeginsKind f.tokens) : TypeFound ph ts f := by
  obtain ⟨tokens, shape⟩ := f
  obtain ⟨⟨l, span⟩, us, rfl, ht⟩ := hkind
  obtain rfl : shape = .plain := hshape
  have hguards : isWord "for" (⟨l, span⟩ :: us) = false ∧ isParen (⟨l, span⟩ :: us) = false
      ∧ isOp "<" (⟨l, span⟩ :: us) = false ∧ marksType l = true := by
    cases l with
    | ident word =>
      simp [marksKind] at ht
      rcases ht with rfl | rfl | rfl | rfl | rfl <;> simp [isParen, Terminal.starts, marksType]
    | punct char spacing =>
      simp [marksKind] at ht
      rcases ht with rfl | rfl | rfl <;> exact ⟨rfl, rfl, rfl, rfl⟩
    | opening d =>
      cases d with
      | bracket => exact ⟨rfl, rfl, rfl, rfl⟩
      | parenthesis | brace => cases ht
    | literal | closing => cases ht
  obtain ⟨hfor, hparen, hangle, hmark⟩ := hguards
  exact ⟨.marked hmark, by simp, by simp [hfor], by simp [hparen], by simp [hangle]⟩

/-- A type that begins with a word or with `::`. -/
theorem of_path (hshape : ∀ core, f.shape ≠ .soleBound core) (hstart : TypeStart f.tokens ts)
    {a us : List Token} (ha : PathStart a us) (hbegins : ∃ more, f.tokens = a ++ more) :
    TypeFound ph ts f := by
  obtain ⟨more, hmore⟩ := hbegins
  have hguards : isWord "for" f.tokens = false ∧ isParen f.tokens = false
      ∧ isOp "<" f.tokens = false := by
    rw [hmore]
    cases ha with
    | word h | more h =>
      simp [isOpenWord] at h
      simp [h, isParen, Terminal.starts]
    | rooted h =>
      obtain ⟨spacing, span, vs, rfl⟩ := isOp_eq_cons rfl h
      exact ⟨rfl, rfl, rfl⟩
  obtain ⟨hfor, hparen, hangle⟩ := hguards
  refine ⟨hstart, fun core h => absurd h (hshape core), ?_, ?_, ?_⟩
  · simp [hfor]
  · simp [hparen]
  · simp [hangle]

/-- What the compiler has built in is told by a word and the mark after it. -/
theorem of_builtin {span : Span} {us : List Token} (hus : isOp "#" us = true) :
    TypeFound ph (⟨.ident "builtin", span⟩ :: us) ⟨⟨.ident "builtin", span⟩ :: us, .plain⟩ := by
  refine ⟨.path rfl (by simp [goesOn, hus]), by simp, by simp, ?_, by simp⟩
  rintro ⟨⟩

theorem of_underscore {span : Span} :
    TypeFound ph [⟨.ident "_", span⟩] ⟨[⟨.ident "_", span⟩], .plain⟩ := by
  refine ⟨.word rfl, by simp, by simp, ?_, by simp⟩
  rintro ⟨⟩

theorem of_lifetime {bounds : List Token} (h : LifetimeSum bounds) :
    TypeFound ph ts ⟨bounds, .plain⟩ := by
  obtain ⟨mark, word, span, vs, rfl, hplus⟩ := h
  refine ⟨.lifetime hplus, by simp, ?_, ?_, ?_⟩
  all_goals rintro ⟨⟩

/-- A path with a self type begins with the bracket in front of it. -/
theorem of_qualified (hshape : f.shape = .plain) (h : QualifiedStart ph f.tokens ts) :
    TypeFound ph ts f := by
  have hangle := h
  obtain ⟨_, _, span, _, _, _, type, xs, -, htokens, -⟩ := h
  refine ⟨?_, by simp [hshape], ?_, ?_, fun _ => hangle⟩
  all_goals rw [htokens]
  · exact .marked rfl
  · rintro ⟨⟩
  · rintro ⟨⟩

/-- A type that begins with a binder, as it did before. -/
theorem of_binder (hcore : ∀ core, f.shape = .soleBound core → isWord "for" core = true)
    (hfor : isWord "for" f.tokens = true) (hts : isWord "for" ts = true) : TypeFound ph ts f := by
  obtain ⟨span, us, hus⟩ := isWord_iff.1 hfor
  refine ⟨?_, fun core h => .inl (hcore core h), fun _ => hts, ?_, ?_⟩
  · rw [hus]
    exact .marked rfl
  · rw [hus]
    rintro ⟨⟩
  · rw [hus]
    simp

theorem of_parenthesised (h : ParenthesisedStart ph f ts) : TypeFound ph ts f := by
  have hstart := h
  obtain ⟨hcontent, htokens, -, hcore⟩ := h
  refine ⟨?_, fun core hshape => .inr ?_, ?_, fun _ => hstart, ?_⟩
  · rw [htokens]
    exact .marked rfl
  · obtain ⟨hsum, hbound⟩ := hcore core hshape
    cases hcontent with
    | bound hmark hsole =>
      rw [hbound] at hsole
      cases hsole
      exact hmark
    | nothing | lifetime | type | tuple => cases hsum
  · rw [htokens]
    rintro ⟨⟩
  · rw [htokens]
    simp

end TypeFound

theorem PathStart.goesOn {a us : List Token} (h : PathStart a ts) (hus : goesOn us = true)
    (vs : List Token) : TypeStart (a ++ us) vs := by
  have hstart := TypeStart.of_path h
  cases hstart with
  | word hword => exact .path hword hus
  | path hword hmore => exact .path hword (goesOn_append hmore us)
  | lifetime hplus => exact .lifetime (isOp_append_right hplus us)
  | marked hmark => exact .marked hmark

/-! ## Types without a path in front -/

theorem gives_binder : Gives c (binder ph) (isWord "for" · = true) := by
  refine Gives.map (gives_binderParts.mono fun b hb => ?_)
  obtain ⟨span, bracket, hopening, -⟩ := hb.opening
  rw [Binder.tokens, hopening]
  rfl

/-- The first in a sequence may be left out. -/
theorem gives_seq_kind {p : Parser (List Token)} {ps : List (Parser (List Token))}
    (hp : Gives c p fun a => a = [] ∨ BeginsKind a) (hps : ∀ d, Gives d (seq ps) BeginsKind) :
    Gives c (seq (p :: ps)) BeginsKind := by
  refine hp.bind fun a d ha => (hps d).bind fun b _ hb => Gives.pure ?_
  rcases ha with rfl | ha
  · exact hb
  · exact ha.append b

theorem gives_keyword_kind {text : String} (h : marksKind (.ident text) = true) :
    Gives c (keyword text) BeginsKind :=
  (gives_keyword text).mono fun _ ⟨span, hts⟩ => ⟨⟨.ident text, span⟩, [], hts, h⟩

/-- What stands between a binder and the arguments of a function type. -/
theorem gives_functionWords : Gives c (seq [keyword? "unsafe", abi?, keyword "fn"]) BeginsKind := by
  refine gives_seq_kind ?_ fun _ => gives_seq_kind ?_ fun _ => ?_
  · refine Gives.ahead (Gives.ite (fun hword => ?_) fun _ => Gives.pure (.inl rfl))
    obtain ⟨span, us, htokens⟩ := isWord_iff.1 hword
    exact (gives_take_word htokens).mono fun _ h => .inr ⟨_, [], h, rfl⟩
  · refine Gives.ahead (Gives.ite (fun _ => ?_) fun _ => Gives.pure (.inl rfl))
    exact (gives_keyword_kind rfl).bind fun _ _ h => Gives.then_ fun _ _ =>
      Gives.pure (.inr (h.append _))
  · exact (gives_keyword_kind rfl).bind fun _ _ h => Gives.then_ fun _ _ => Gives.pure (h.append _)

theorem gives_pointerType : Gives c (pointerType ph) BeginsKind := by
  refine (gives_mark '*' rfl).bind fun star d hstar => Gives.ahead ?_
  obtain ⟨span, rfl⟩ := hstar
  refine Gives.ite (fun _ => ?_) fun _ => ?_
  all_goals exact Gives.then_ fun _ _ => Gives.then_ fun _ _ => Gives.pure ⟨_, _, rfl, rfl⟩

theorem Path.shape_ne_soleBound (p : Path) (core : List Token) : p.shape ≠ .soleBound core := by
  unfold Path.shape
  split
  · simp
  · split <;> simp

section

variable [∀ phrase, Passes (ph phrase)]

/-- A binder was a binder before. -/
theorem finds_binder {us : List Token} (h : Finds (binder ph) ts rest us) :
    isWord "for" ts = true := by
  obtain ⟨b, -, hb⟩ := h.map
  obtain ⟨opening, vs, ws, rfl, hopening, -⟩ := hb.bind
  obtain ⟨word, xs, ys, rfl, hword, -⟩ := hopening.bind
  obtain ⟨-, span, rfl⟩ := hword.keyword
  rfl

/-- A function type without a binder begins with one of three words. -/
theorem finds_functionType {us : List Token} (hfor : isWord "for" (ts ++ rest) = false)
    (h : Finds (functionType ph) ts rest us) : BeginsKind us := by
  obtain ⟨head, vs, ws, rfl, hhead, h₁⟩ := h.bind
  obtain ⟨r, xs, ys, rfl, -, h₂⟩ := h₁.bracketedThen.bind
  obtain ⟨type, rfl, -⟩ := h₂.bind_pure
  obtain ⟨binder, us, vs, rfl, hbinder, h₃⟩ := hhead.bind
  obtain ⟨others, rfl, hothers⟩ := h₃.bind_pure
  have hkind := hothers.gives fun _ => gives_functionWords
  rcases hbinder.ahead.ite with ⟨hword, -⟩ | ⟨-, hnone⟩
  · rw [List.append_assoc, List.append_assoc] at hfor
    rw [hfor] at hword
    cases hword
  · obtain ⟨-, rfl⟩ := hnone.pure
    rw [List.append_assoc]
    exact hkind.append _

theorem finds_builtin {us : List Token} (h : Finds (verbatim builtin) ts rest us) :
    us = ts ∧ ∃ span vs, ts = ⟨.ident "builtin", span⟩ :: vs ∧ isOp "#" vs = true := by
  obtain ⟨rfl, a, h⟩ := h.verbatim
  obtain ⟨word, vs, ws, rfl, hword, h₁⟩ := h.bind
  obtain ⟨others, rfl, h₂⟩ := h₁.bind_pure
  obtain ⟨hash, xs, ys, rfl, hhash, -⟩ := h₂.bind
  obtain ⟨rfl, span, rfl⟩ := hword.keyword
  obtain ⟨-, spacing, place, rfl⟩ := hhash.spends fun _ => spends_mark '#' rfl
  exact ⟨rfl, span, _, rfl, rfl⟩

theorem TypeFound.of_pathType {plus : Bool} {lifetimes us : List Token} {f : Fragment}
    (hlifetimes : lifetimes = [] ∧ us = [] ∨ isWord "for" lifetimes = true ∧ isWord "for" us = true)
    (h : Finds (pathType ph plus lifetimes) ts rest f) : TypeFound ph (us ++ ts) f := by
  obtain ⟨p, vs, ws, rfl, hpath, htype⟩ := finds_pathType h
  have hpath := finds_qualifiedPath hpath
  have hstart (hp : p.qualified = false) : PathStart p.tokens vs := by
    rcases hpath with ⟨-, hstart⟩ | ⟨hqualified, -⟩
    · exact hstart
    · rw [hp] at hqualified
      cases hqualified
  cases htype with
  | qualified hp =>
    rcases hlifetimes with ⟨rfl, rfl⟩ | ⟨hfor, hus⟩
    · rcases hpath with ⟨hplain, -⟩ | ⟨-, hangle⟩
      · rw [hp] at hplain
        cases hplain
      · exact .of_qualified rfl (hangle.append ws)
    · exact .of_binder (by simp) (isWord_append_right hfor _) (isWord_append_right hus _)
  | @call _ xs hp hbang =>
    have hgoes : goesOn xs = true := by simp [goesOn, hbang]
    exact .of_path (by simp) ((hstart hp).goesOn hgoes _) (hstart hp) ⟨xs, rfl⟩
  | @sum _ xs shape hp hshape =>
    rcases hlifetimes with ⟨rfl, rfl⟩ | ⟨hfor, hus⟩
    · obtain ⟨hplus, rfl⟩ : isOp "+" xs = true ∧ shape = .plain := by simpa using hshape
      have hgoes : goesOn xs = true := by simp [goesOn, hplus]
      exact .of_path (by simp) ((hstart hp).goesOn hgoes _) (hstart hp) ⟨xs, rfl⟩
    · refine .of_binder ?_ ?_ (isWord_append_right hus _)
      · intro core hcore
        rcases hshape with ⟨-, -, rfl⟩ | ⟨-, rfl⟩
        · cases hcore
          exact isWord_append_right hfor _
        · cases hcore
      · rw [List.append_assoc]
        exact isWord_append_right hfor _
  | alone hp hnone =>
    rcases hlifetimes with ⟨-, rfl⟩ | ⟨hfor, -⟩
    · rw [List.append_nil, List.nil_append]
      exact .of_path (Path.shape_ne_soleBound p) (.of_path (hstart hp)) (hstart hp) ⟨[], by simp⟩
    · rw [hnone] at hfor
      cases hfor

theorem finds_traitObject {plus : Bool} {us : List Token}
    (h : Finds (traitObject ph plus) ts rest us) :
    ∃ span vs, us = ⟨.ident "dyn", span⟩ :: vs := by
  obtain ⟨start, h₁⟩ := h.ahead.here
  obtain ⟨word, vs, ws, rfl, hword, h₂⟩ := h₁.bind
  obtain ⟨star, xs, ys, rfl, -, h₃⟩ := h₂.bind
  obtain ⟨bounds, xs', ys, rfl, -, h₄⟩ := h₃.bind
  obtain ⟨rfl, span, rfl⟩ := hword.keyword
  rcases h₄.ite with ⟨-, h₅⟩ | ⟨-, h₅⟩
  · obtain ⟨rfl, rfl⟩ := h₅.pure
    exact ⟨span, bounds, rfl⟩
  · obtain ⟨rfl, rfl⟩ := h₅.since
    exact ⟨span, _, rfl⟩

/-- A trait with a question mark in front keeps it. -/
theorem finds_traitBound {r : List Token × Bool} (hmark : isOp "?" (ts ++ rest) = true)
    (h : Finds (traitBound ph false) ts rest r) : isOp "?" r.1 = true := by
  obtain ⟨spacing, span, xs, hxs⟩ := isOp_eq_cons rfl hmark
  -- Neither lifetimes nor a modifier come in front of the mark.
  obtain ⟨before, us, vs, rfl, hbefore, h₁⟩ := h.bind
  obtain ⟨rfl, rfl⟩ : us = [] ∧ before = [] := by
    rcases hbefore.ahead.ite with ⟨hfor, -⟩ | ⟨-, hnone⟩
    · rw [← List.append_assoc, hxs] at hfor
      cases hfor
    · exact hnone.pure
  rw [List.nil_append] at hxs
  obtain ⟨isConst, us, vs, rfl, hconst, h₂⟩ := h₁.bind
  obtain rfl : us = [] := by
    rcases hconst.ahead.ite with ⟨hopening, -⟩ | ⟨-, hconst'⟩
    · rw [← List.append_assoc, hxs] at hopening
      cases hopening
    · rcases hconst'.ite with ⟨hword, -⟩ | ⟨-, hnone⟩
      · rw [← List.append_assoc, hxs] at hword
        cases hword
      · exact hnone.pure.1
  rw [List.nil_append] at hxs
  obtain ⟨start, h₃⟩ := h₂.here
  obtain ⟨modifier, us, vs, rfl, hmodifier, h₄⟩ := h₃.bind
  have hmodifier : lexemes modifier = lexemes (Generated.operator "?") := by
    rcases hmodifier.ahead.ite with ⟨-, hmodifier⟩ | ⟨hnot, -⟩
    · exact hmodifier.gives fun _ => gives_operator "?"
    · rw [← List.append_assoc, hxs] at hnot
      exact absurd rfl hnot
  obtain ⟨limit, hread⟩ := h₄.read
  refine Gives.of_ok (Q := fun r : List Token × Bool => isOp "?" r.1 = true) ?_ hread
  have hresult (after trait : List Token) (d : Cursor) : Gives d (do
      if !modifier.isEmpty && !(([] : List Token) ++ after).isEmpty then
        rejectAt .binderWithModifier start
      else return (modifier ++ [] ++ trait, isConst)) fun r => isOp "?" r.1 = true := by
    refine Gives.ite (fun _ => Gives.rejectAt _ _) fun _ => Gives.pure ?_
    rw [List.append_nil]
    exact isOp_append (by decide) hmodifier _
  refine Gives.ite (fun _ => ?_) fun _ => ?_
  all_goals exact Gives.then_ fun after _ => Gives.then_ fun trait _ => hresult after trait _

theorem finds_parenthesisedContent {content : Fragment} {sum : Bool}
    (h : Finds (parenthesisedContent ph) ts rest (content, sum)) : InParentheses ph ts content sum := by
  rcases h.ahead.ite with ⟨-, h⟩ | ⟨-, h⟩
  · obtain ⟨rfl, hr⟩ := h.pure
    cases hr
    exact .nothing
  rcases h.ite with ⟨hlifetime, h⟩ | ⟨-, h⟩
  · obtain ⟨start, h₁⟩ := h.here
    obtain ⟨bounds, hr, hbounds⟩ := h₁.bind_pure
    cases hr
    obtain ⟨limit, hread⟩ := hbounds.read
    exact .lifetime (gives_boundsWithTrait hlifetime _ _ hread) rfl
  rcases h.ite with ⟨hmark, h⟩ | ⟨-, h⟩
  · obtain ⟨⟨bound, isConst⟩, us, vs, rfl, hbound, h₁⟩ := h.bind
    obtain ⟨rfl, hr⟩ := h₁.pure
    cases hr
    rw [List.append_nil] at hmark
    exact .bound (finds_traitBound hmark hbound) rfl
  · obtain ⟨first, us, vs, rfl, hfirst, h₁⟩ := h.bind
    rcases h₁.ahead.ite with ⟨-, h₂⟩ | ⟨-, h₂⟩
    · obtain ⟨others, hr, hothers⟩ := h₂.bind_pure
      cases hr
      have hcomma : isOp "," others = true := by
        refine hothers.gives (Q := (isOp "," · = true)) fun _ => ?_
        refine (gives_operator ",").bind fun comma _ hcomma => Gives.then_ fun _ _ => Gives.pure ?_
        exact isOp_append (by decide) hcomma _
      exact .tuple hfirst rfl hcomma rfl
    · obtain ⟨rfl, hr⟩ := h₂.pure
      cases hr
      rw [List.append_nil]
      refine .type hfirst rfl ?_
      -- Parentheses around a bound, or around a type that could be one, leave it a bound.
      intro core hcore
      dsimp only at hcore
      split at hcore
      all_goals simp_all

theorem finds_parenthesisedType {plus : Bool} {f : Fragment}
    (h : Finds (parenthesisedType ph plus) ts rest f) : ParenthesisedStart ph f ts := by
  obtain ⟨⟨opening, ⟨content, sum⟩, closing⟩, us, vs, rfl, -, hbracketed, h₁⟩ :=
    h.bracketedThen.bind_of (fun _ => Passes.spends _) fun r => by
      obtain ⟨opening, ⟨content, sum⟩, closing⟩ := r
      dsimp only
      split <;> infer_instance
  obtain ⟨first, last, us, r, rfl, hr, hinside⟩ := hbracketed.bracketed
  cases hr
  replace hinside := finds_parenthesisedContent hinside
  have hparts {inner more : List Token} {shape : Shape}
      (hinner : inner = content.tokens ∨ content.shape = .soleBound inner)
      (hshape : ∀ core, shape = .soleBound core → sum = true ∧ content.shape = .soleBound core)
      (hf : f = ⟨⟨.opening .parenthesis, first⟩ :: inner ++ [⟨.closing .parenthesis, last⟩] ++ more,
        shape⟩) :
      ParenthesisedStart ph f
        (⟨.opening .parenthesis, first⟩ :: us ++ [⟨.closing .parenthesis, last⟩] ++ vs) := by
    have htokens : f.tokens = ⟨.opening .parenthesis, first⟩
        :: (inner ++ ⟨.closing .parenthesis, last⟩ :: more) := by simp [hf]
    rw [List.append_assoc, List.cons_append, List.singleton_append]
    exact .intro hinside htokens hinner (by simpa [hf] using hshape)
  dsimp only at h₁
  split at h₁
  · next core _ hcore =>
    obtain ⟨others, hf, -⟩ := h₁.bind_pure
    refine hparts (.inr hcore) ?_ hf
    intro core' h
    split at h
    · cases h
      exact ⟨rfl, hcore⟩
    · cases h
  · next core _ hcore =>
    rcases h₁.ahead.ite with ⟨-, h₂⟩ | ⟨-, h₂⟩
    · obtain ⟨others, hf, -⟩ := h₂.bind_pure
      exact hparts (.inr hcore) (by simp) hf
    · obtain ⟨rfl, hf⟩ := h₂.pure
      exact @hparts _ [] .parenthesised (.inl rfl) (by simp) (by simpa using hf)
  · obtain ⟨rfl, hf⟩ := h₁.pure
    exact @hparts _ [] .parenthesised (.inl rfl) (by simp) (by simpa using hf)
  · obtain ⟨rfl, hf⟩ := h₁.pure
    exact @hparts _ [] .plain (.inl rfl) (by simp) (by simpa using hf)

theorem finds_type {plus : Bool} {f : Fragment} (h : Finds (type ph plus) ts rest f) :
    TypeFound ph ts f := by
  rcases h.ahead.ite with ⟨-, h⟩ | ⟨hfor, h⟩
  · obtain ⟨lifetimes, us, vs, rfl, hbinder, h⟩ := h.ahead.bind
    have hlifetimes : isWord "for" lifetimes = true := hbinder.gives fun _ => gives_binder
    have hus := finds_binder hbinder
    rcases h.ahead.ite with ⟨-, h⟩ | ⟨-, h⟩
    · obtain ⟨more, rfl, -⟩ := h.bind_pure
      exact .of_binder (by simp) (isWord_append_right hlifetimes _) (isWord_append_right hus _)
    rcases h.ite with ⟨-, h⟩ | ⟨-, h⟩
    · obtain ⟨_, ws, xs, rfl, -, h₁⟩ := h.bind
      obtain ⟨_, rfl, h₂⟩ := h₁.bind_pure
      obtain ⟨rfl, rfl⟩ := h₂.since
      exact .of_binder (by simp) (isWord_append_right hus _) (isWord_append_right hus _)
    rcases h.ite with ⟨-, h⟩ | ⟨-, h⟩
    · exact .of_pathType (.inr ⟨hlifetimes, hus⟩) h
    · exact h.not_expected.elim
  · obtain ⟨start, h⟩ := h.ahead.here
    rcases h.ite with ⟨-, h⟩ | ⟨-, h⟩
    · exact .of_parenthesised (finds_parenthesisedType h)
    rcases h.ite with ⟨-, h⟩ | ⟨-, h⟩
    · obtain ⟨more, rfl, hmore⟩ := h.bind_pure
      exact .of_kind rfl (finds_functionType (by simpa using hfor) hmore)
    rcases h.ite with ⟨-, h⟩ | ⟨-, h⟩
    · obtain ⟨us, rfl, hus⟩ := h.bind_pure
      obtain ⟨rfl, span, vs, rfl, hvs⟩ := finds_builtin hus
      exact .of_builtin hvs
    rcases h.ite with ⟨-, h⟩ | ⟨-, h⟩
    · exact .of_pathType (.inl ⟨rfl, rfl⟩) h
    rcases h.ite with ⟨-, h⟩ | ⟨-, h⟩
    · obtain ⟨us, rfl, hus⟩ := h.bind_pure
      obtain ⟨span, vs, rfl⟩ := finds_traitObject hus
      exact .of_kind rfl ⟨_, _, rfl, rfl⟩
    rcases h.ite with ⟨-, h⟩ | ⟨-, h⟩
    · obtain ⟨us, rfl, hus⟩ := h.bind_pure
      obtain ⟨_, rfl, hgroup⟩ := hus.bind_pure
      obtain ⟨first, last, vs, _, -, rfl, -⟩ := hgroup.bracketed
      exact .of_kind rfl ⟨_, _, rfl, rfl⟩
    rcases h.ite with ⟨-, h⟩ | ⟨-, h⟩
    · obtain ⟨us, rfl, hus⟩ := h.bind_pure
      exact .of_kind rfl (hus.gives fun _ => gives_pointerType)
    rcases h.ite with ⟨-, h⟩ | ⟨-, h⟩
    · obtain ⟨us, rfl, hus⟩ := h.bind_pure
      obtain ⟨mark, vs, ws, rfl, hmark, h₁⟩ := hus.bind
      obtain ⟨others, rfl, -⟩ := h₁.bind_pure
      obtain ⟨span, rfl⟩ := hmark.gives fun _ => gives_mark '&' rfl
      exact .of_kind rfl ⟨_, _, rfl, rfl⟩
    rcases h.ite with ⟨-, h⟩ | ⟨-, h⟩
    · obtain ⟨us, rfl, hus⟩ := h.bind_pure
      obtain ⟨span, rfl⟩ := hus.gives fun _ => gives_mark '!' rfl
      exact .of_kind rfl ⟨_, _, rfl, rfl⟩
    rcases h.ite with ⟨-, h⟩ | ⟨-, h⟩
    · obtain ⟨us, vs, ws, rfl, hword, h₁⟩ := h.bind
      obtain ⟨bounds, rfl, -⟩ := h₁.bind_pure
      obtain ⟨rfl, span, rfl⟩ := hword.keyword
      exact .of_kind rfl ⟨_, _, rfl, rfl⟩
    rcases h.ite with ⟨hword, h⟩ | ⟨-, h⟩
    · obtain ⟨us, rfl, hus⟩ := h.bind_pure
      obtain ⟨rfl, t, rfl⟩ := hus.spends fun _ => spends_anyWord
      obtain ⟨span, vs, hts⟩ := isWord_iff.1 hword
      obtain rfl : t = ⟨.ident "_", span⟩ := (List.cons.inj hts).1
      exact .of_underscore
    rcases h.ite with ⟨hlifetime, h⟩ | ⟨-, h⟩
    · obtain ⟨us, rfl, hus⟩ := h.bind_pure
      obtain ⟨limit, hread⟩ := hus.read
      exact .of_lifetime (gives_boundsWithTrait hlifetime _ _ hread)
    · exact h.not_expected.elim

end

end Memberwise.Parser
