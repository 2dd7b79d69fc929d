import Memberwise.Proofs.Members
import Memberwise.Proofs.Reread
import Memberwise.Proofs.TypeHeads

/-!
# Types in their places

Three places in a struct ask what a type begins with. A type after `pub` may be taken for what the
visibility is restricted to, the first type of a where clause for parameters of the clause, and the
type of a predicate for a binder. A type is not taken for any of these when it is written, because
it was not when it was read. So a where clause is read again wherever one may stand.

## Main definitions

* `KeepsPlace`: a type is taken for something else only if its source was
* `Predicate.Placed`, `WhereClause.Placed`: types in a where clause are taken for types

## Main statements

* `keepsPlace_of_finds`: every type that is read keeps its place
* `placed_struct`: in a struct that was read, every type is taken for a type
* `reads_condition`: a where clause that was read is read again
-/

namespace Memberwise

/-- The type of a predicate is not taken for a binder. -/
def Predicate.Placed : Predicate → Prop
  | .type none subject _ => isWord "for" subject = false
  | _ => True

/-- The first predicate is not taken for parameters, and no type for a binder. -/
structure WhereClause.Placed (w : WhereClause) : Prop where
  predicates : ∀ p ∈ w.predicates.items, p.Placed
  begins : w.predicates.isEmpty = false → ∀ rest, Parser.beginsParams
    (w.predicates.tokens (Generated.operator ",") Predicate.tokens ++ rest) = false

namespace Parser

variable {ts us rest : List Token}

/-! ## Types -/

theorem finds_phrases_type {plus : Bool} {f : Fragment}
    (h : Finds (phrases (.type plus)) ts rest f) : ∃ count, TypeFound (phrases.below count) ts f :=
  ⟨_, finds_type h.body⟩

/-- What is asked of the tokens of a type in places where something else may stand as well is only
true of them if it was true of the source. -/
structure KeepsPlace (a ts : List Token) : Prop where
  binder : isWord "for" a = true → isWord "for" ts = true
  params : ∀ us vs, beginsParams (a ++ us) = true → beginsParams (ts ++ vs) = true
  restriction : ∀ us vs, beginsRestriction (a ++ us) = true → beginsRestriction (ts ++ vs) = true

theorem beginsParams_eq (ts : List Token) :
    beginsParams ts = (isOp "<" ts && beginsParam (afterTree ts)) := rfl

theorem beginsParams_of_qualified {count : Nat} {a : List Token}
    (h : QualifiedStart (phrases.below count) a ts) (us vs : List Token)
    (hparams : beginsParams (a ++ us) = true) : beginsParams (ts ++ vs) = true := by
  obtain ⟨spacing, first, span, self, xs, after, type, ys, rfl, rfl, htype, hnext⟩ := h
  obtain ⟨f, rfl, hself⟩ := htype.bind_pure
  obtain ⟨n, hfound⟩ := finds_phrases_type hself.of_below
  have hparam : beginsParam (f.tokens ++ (ys ++ us)) = true := by
    have h := hparams
    rw [beginsParams_eq, Bool.and_eq_true] at h
    simpa [afterTree, splitTree] using h.2
  obtain ⟨word, place, hopen, htokens, rfl⟩ := hfound.start.eq_of_beginsParam hparam
  have hconst : word ≠ "const" := by
    rintro rfl
    cases hopen
  have hafter (zs : List Token) : afterTree (⟨.ident word, place⟩ :: zs) = zs := rfl
  rw [htokens, List.cons_append, List.nil_append] at hparam
  rcases hnext with ⟨-, hclosing⟩ | hword
  · have hident : isReserved word = false := by
      by_contra hreserved
      simp [beginsParam, hreserved, hconst, isLifetime, Terminal.starts] at hparam
    rw [beginsParams_eq, Bool.and_eq_true]
    refine ⟨rfl, ?_⟩
    change beginsParam (⟨.ident word, place⟩ :: (xs ++ vs)) = true
    simp [beginsParam, hafter, hident, isOp_append_right hclosing vs]
  · obtain ⟨span', zs, rfl⟩ := isWord_iff.1 hword
    simp [beginsParam, hafter, hconst] at hparam

/-- What is in parentheses is one of the words that restrict a visibility, or a path after `in`. -/
def holdsScope (content : List Token) : Bool :=
  (isWord "crate" content || isWord "self" content || isWord "super" content)
    && atEnd (afterTree content) || isWord "in" content

theorem beginsRestriction_group (first : Span) (content : List Token) :
    beginsRestriction (⟨.opening .parenthesis, first⟩ :: content) = holdsScope content := rfl

theorem holdsScope_cases {content : List Token} (h : holdsScope content = true) :
    (∃ word ∈ ["crate", "self", "super"],
        isWord word content = true ∧ atEnd (afterTree content) = true)
      ∨ isWord "in" content = true := by
  simp only [holdsScope, Bool.or_eq_true, Bool.and_eq_true] at h
  simp
  grind

/-- A scope does not begin with a mark. -/
theorem not_holdsScope_of_isOp {text : String} {char : Char} {cs : List Char}
    (htext : text.toList = char :: cs) (h : isOp text ts = true) (us : List Token) :
    holdsScope (ts ++ us) = false := by
  obtain ⟨spacing, span, vs, rfl⟩ := isOp_eq_cons htext h
  rfl

/-- A type that a visibility could be restricted to, with nothing or more types after it, is a word
that stood there before. -/
theorem scope_of_type {ph : Phrases} {f : Fragment} (h : TypeFound ph ts f)
    {others vs us : List Token} {last : Span}
    (hothers : others = [] ∧ vs = [] ∨ isOp "," others = true)
    (hscope : holdsScope (f.tokens ++ (others ++ ⟨.closing .parenthesis, last⟩ :: us)) = true) :
    ∃ word span, word ∈ ["crate", "self", "super"] ∧ ts ++ vs = [⟨.ident word, span⟩] := by
  rcases holdsScope_cases hscope with ⟨word, hmem, hword, hend⟩ | hin
  · obtain ⟨span, hsingle, rfl⟩ := h.start.eq_of_scope hmem hword hend
    refine ⟨word, span, hmem, ?_⟩
    rcases hothers with ⟨-, rfl⟩ | hcomma
    · rfl
    · rw [hsingle] at hend
      have hend : atEnd (others ++ ⟨.closing .parenthesis, last⟩ :: us) = true := hend
      have hnot := isOp_of_atEnd hend ","
      rw [isOp_append_right hcomma] at hnot
      cases hnot
  · rw [h.start.isWord_in] at hin
    cases hin

/-- What a visibility could be restricted to in the parentheses of a type stood there before. -/
theorem scope_of_content {count : Nat} {content : Fragment} {sum : Bool} {inner us : List Token}
    {last : Span} (h : InParentheses (phrases.below count) ts content sum)
    (hinner : inner = content.tokens ∨ content.shape = .soleBound inner)
    (hscope : holdsScope (inner ++ ⟨.closing .parenthesis, last⟩ :: us) = true) :
    ∃ word span, word ∈ ["crate", "self", "super"] ∧ ts = [⟨.ident word, span⟩] := by
  have hmark {core : List Token} (h : isOp "?" core = true) (hcore : inner = core) : False := by
    rw [hcore, not_holdsScope_of_isOp rfl h] at hscope
    cases hscope
  cases h with
  | nothing =>
    obtain rfl : inner = [] := by simpa using hinner
    cases hscope
  | lifetime hsum hshape =>
    obtain rfl : inner = content.tokens := by simpa [hshape] using hinner
    obtain ⟨mark, word, span, ws, htokens, -⟩ := hsum
    rw [htokens] at hscope
    cases hscope
  | bound hop hshape =>
    have hcore : inner = content.tokens := by
      rcases hinner with hinner | hinner
      · exact hinner
      · rw [hshape] at hinner
        exact (Shape.soleBound.inj hinner).symm
    exact (hmark hop hcore).elim
  | @type _ _ first _ htype htokens hcore =>
    obtain ⟨n, hfound⟩ := finds_phrases_type htype.of_below
    have hinner : inner = first.tokens ∨ first.shape = .soleBound inner := by
      rcases hinner with hinner | hinner
      · exact .inl (by rw [hinner, htokens])
      · exact hcore inner hinner
    rcases hinner with rfl | hsole
    · simpa using @scope_of_type _ _ _ hfound [] [] us last (.inl ⟨rfl, rfl⟩) hscope
    · rcases hfound.core inner hsole with hfor | hop
      · obtain ⟨span, ws, rfl⟩ := isWord_iff.1 hfor
        simp [holdsScope] at hscope
      · exact (hmark hop rfl).elim
  | @tuple _ vs _ others first _ htype htokens hcomma hshape =>
    obtain ⟨n, hfound⟩ := finds_phrases_type htype.of_below
    obtain rfl : inner = content.tokens := by simpa [hshape] using hinner
    rw [htokens, List.append_assoc] at hscope
    exact scope_of_type hfound (.inr hcomma) hscope

/-- A type in parentheses is not taken for the restriction of a visibility unless it was before. -/
theorem beginsRestriction_of_parenthesised {count : Nat} {f : Fragment}
    (h : ParenthesisedStart (phrases.below count) f ts) (us vs : List Token)
    (hrestriction : beginsRestriction (f.tokens ++ us) = true) :
    beginsRestriction (ts ++ vs) = true := by
  obtain ⟨hcontent, htokens, hinner, -⟩ := h
  rw [htokens, List.cons_append, beginsRestriction_group, List.append_assoc, List.cons_append]
    at hrestriction
  -- Only one of three words alone may stand in the parentheses, and it did before.
  obtain ⟨word, span, hword, rfl⟩ := scope_of_content hcontent hinner hrestriction
  simp only [List.mem_cons, List.not_mem_nil, or_false] at hword
  rcases hword with rfl | rfl | rfl
  all_goals rfl

theorem keepsPlace_of_finds {plus : Bool} {a : List Token}
    (h : Finds (phrases.tokens (.type plus)) ts rest a) : KeepsPlace a ts := by
  obtain ⟨f, rfl, htype⟩ := h.bind_pure
  obtain ⟨count, hfound⟩ := finds_phrases_type htype
  obtain ⟨⟨l, span⟩, ws, htokens⟩ := List.exists_cons_of_ne_nil hfound.start.ne_nil
  refine ⟨hfound.binder, fun us vs hparams => ?_, fun us vs hrestriction => ?_⟩
  · refine beginsParams_of_qualified (hfound.angle ?_) us vs hparams
    rw [beginsParams_eq, Bool.and_eq_true, htokens] at hparams
    rw [htokens]
    cases l <;> exact hparams.1
  · refine beginsRestriction_of_parenthesised (hfound.paren ?_) us vs hrestriction
    rw [beginsRestriction, Bool.and_eq_true, htokens] at hrestriction
    rw [htokens]
    cases l <;> exact hrestriction.1

/-! ## Fields -/

/-- A visibility that is not restricted is not followed by what would restrict it. -/
theorem not_beginsRestriction (h : Finds visibility ts rest .pub) :
    beginsRestriction rest = false := by
  rcases h.ahead.ite with ⟨-, h⟩ | ⟨-, h⟩
  · obtain ⟨_, us, vs, rfl, -, h₁⟩ := h.bind
    have h₂ := h₁.ahead
    rcases h₂.ite with ⟨-, h₃⟩ | ⟨hsingle, h₃⟩
    · obtain ⟨scope, hscope, -⟩ := h₃.bind_pure
      cases hscope
    rcases h₃.ite with ⟨-, h₄⟩ | ⟨hin, h₄⟩
    · obtain ⟨scope, hscope, -⟩ := h₄.bind_pure
      cases hscope
    · obtain ⟨rfl, -⟩ := h₄.pure
      by_contra hrestriction
      rw [Bool.not_eq_false] at hrestriction
      simp only [beginsRestriction, Bool.and_eq_true, Bool.or_eq_true] at hrestriction
      simp only [List.nil_append, Bool.and_eq_true, Bool.or_eq_true] at hsingle hin
      tauto
  · cases h.pure.2

theorem placed_positionalField {f : PositionalField} (h : Finds (positionalField phrases) ts rest f)
    (hpub : f.visibility = .pub) (us : List Token) : beginsRestriction (f.type ++ us) = false := by
  obtain ⟨attributes, _, vs, rfl, -, h₁⟩ := h.bind
  obtain ⟨visibility, _, ws, rfl, hvisibility, h₂⟩ := h₁.bind
  obtain ⟨type, rfl, htype⟩ := h₂.bind_pure
  obtain rfl : visibility = .pub := hpub
  have hsource := not_beginsRestriction hvisibility
  by_contra hrestriction
  rw [Bool.not_eq_false] at hrestriction
  rw [(keepsPlace_of_finds htype).restriction us rest hrestriction] at hsource
  cases hsource

theorem placed_positionalFields {fields : Listed PositionalField}
    (h : Finds (positionalFields phrases) ts rest fields) : (Fields.positional fields).Placed := by
  obtain ⟨first, last, content, -, hcontent⟩ := h.inside
  intro f hf
  obtain ⟨us, vs, hfield⟩ := hcontent.separated.mem hf
  exact placed_positionalField hfield

/-! ## Where clauses -/

/-- Only what begins with an angle bracket may be taken for parameters. -/
theorem not_beginsParams (h : isOp "<" ts = false) : beginsParams ts = false := by
  rw [beginsParams_eq, h, Bool.false_and]

/-- After its binder, a predicate about a type begins with the type. -/
theorem finds_typePredicate {binder : Option Binder} {p : Predicate} (h : Finds (do
      let subject ← phrases.tokens (.type true)
      let _ ← operator ":"
      return .type binder subject (← bounds endsPredicate (phrases.tokens (.bound false true))))
      ts rest p) :
    ∃ subject bounds us vs, ts = us ++ vs ∧ KeepsPlace subject us
      ∧ p = .type binder subject bounds := by
  obtain ⟨subject, us, vs, rfl, hsubject, h₁⟩ := h.bind
  obtain ⟨_, xs, ys, rfl, -, h₂⟩ := h₁.bind
  obtain ⟨bounds, rfl, -⟩ := h₂.bind_pure
  exact ⟨subject, bounds, us, xs ++ ys, rfl, keepsPlace_of_finds hsubject, rfl⟩

/-- A predicate may be taken for parameters only if its source was. -/
theorem finds_predicate {p : Predicate} (h : Finds (predicate phrases) ts rest p) :
    p.Placed ∧ ∀ us vs, beginsParams (p.tokens ++ us) = true → beginsParams (ts ++ vs) = true := by
  have hmarked {a : List Token} (ha : isOp "<" a = false) (us : List Token)
      (hparams : beginsParams a = true) : beginsParams us = true := by
    rw [not_beginsParams ha] at hparams
    cases hparams
  rcases h.ahead.ite with ⟨-, h⟩ | ⟨-, h⟩
  · obtain ⟨name, xs, ys, rfl, hname, h₁⟩ := h.bind
    obtain ⟨_, ys, zs, rfl, -, h₂⟩ := h₁.bind
    obtain ⟨bounds, rfl, -⟩ := h₂.bind_pure
    obtain ⟨mark, word, span, rfl⟩ := hname.gives fun _ => gives_lifetime
    exact ⟨trivial, fun us vs => hmarked rfl _⟩
  -- A binder begins with a word, so the type is in front or does not matter.
  · rcases h.ite with ⟨-, h⟩ | ⟨hfor, h⟩
    · obtain ⟨binder, xs, ys, rfl, hbinder, h₁⟩ := h.bind
      obtain ⟨b, rfl, hb⟩ := hbinder.map
      obtain ⟨subject, bounds, vs, ws, rfl, -, rfl⟩ := finds_typePredicate h₁
      obtain ⟨span, bracket, hopening, -⟩ := (hb.gives fun _ => gives_binderParts).opening
      refine ⟨trivial, fun us vs => hmarked ?_ _⟩
      rw [Predicate.tokens, Option.map_some, Option.getD_some, Binder.tokens, hopening]
      exact isOp_ident _ _ _ _
    · rw [pure_bind] at h
      obtain ⟨subject, bounds, xs, ys, rfl, hkeeps, rfl⟩ := finds_typePredicate h
      constructor
      · change isWord "for" subject = false
        by_contra hword
        rw [Bool.not_eq_false] at hword
        apply hfor
        simpa using isWord_append_right (hkeeps.binder hword) _
      · intro us vs hparams
        rw [List.append_assoc]
        apply hkeeps.params
        simpa [Predicate.tokens] using hparams

/-- A where clause is not taken for parameters of its own. -/
theorem placed_whereClause {w : WhereClause} (h : Finds (whereClause phrases) ts rest w) :
    w.Placed := by
  obtain ⟨_, us, vs, rfl, -, h₁⟩ := h.bind
  rcases h₁.ahead.ite with ⟨-, h₂⟩ | ⟨hparams, h₂⟩
  · exact h₂.not_reject.elim
  obtain ⟨l, rfl, hl⟩ := h₂.bind_pure
  have hspread := hl.joined
  constructor
  · intro p hp
    obtain ⟨us, vs, hpredicate⟩ := hspread.mem hp
    exact (finds_predicate hpredicate).1
  · intro hne more
    obtain ⟨items, trailing⟩ := l
    cases items with
    | nil => cases hne
    | cons p items =>
      obtain ⟨ws, xs, rfl, hpredicate⟩ := hspread.head
      obtain ⟨others, hothers⟩ := Listed.tokens_cons (Generated.operator ",") Predicate.tokens p items
        trailing
      rw [hothers, List.append_assoc]
      by_contra hwritten
      rw [Bool.not_eq_false] at hwritten
      apply hparams
      rw [List.append_assoc]
      exact (finds_predicate hpredicate).2 _ _ hwritten

theorem placed_whereClause? {condition : Option WhereClause}
    (h : Finds (whereClause? phrases) ts rest condition) : ∀ w ∈ condition, w.Placed := by
  rcases h.ahead.ite with ⟨-, h⟩ | ⟨-, h⟩
  · obtain ⟨w, rfl, hw⟩ := h.bind_pure
    rintro _ ⟨⟩
    exact placed_whereClause hw
  · obtain ⟨-, rfl⟩ := h.pure
    rintro _ ⟨⟩

/-- A predicate is read again if what is in it is, and no type is taken for a binder. -/
theorem readsBefore_predicate {after : List Token → Bool} {p : Predicate} (hnamed : p.Named)
    (hstable : p.Stable after) (hplaced : p.Placed) : p.ReadsBefore after := by
  cases p with
  | lifetime name bounds => trivial
  | type binder subject bounds =>
    obtain ⟨hbinder, hsubject, hbounds⟩ := hstable
    refine ⟨?_, ?_, hsubject, hbounds⟩
    · intro b hb rest _
      exact reads_binderParts (hnamed b hb) (hbinder b hb)
    · rintro rfl
      exact hplaced

/-- A where clause that was read is read again in front of what may follow one. -/
theorem reads_condition {after : List Token → Bool} (hafter : EndsClause after) {g : Generics}
    (hnamed : ∀ p ∈ predicates g.whereClause, p.Named)
    (hstable : ∀ p ∈ predicates g.whereClause, p.Stable after)
    (hplaced : ∀ w ∈ g.whereClause, w.Placed) (hrest : after rest = true) :
    Reads (whereClause? phrases) g.whereTokens rest fun w =>
      lexemes ((w.map WhereClause.tokens).getD []) = lexemes g.whereTokens
        ∧ (predicates w).map (fun p => lexemes p.tokens)
          = (predicates g.whereClause).map fun p => lexemes p.tokens := by
  have hback : ∀ p ∈ predicates g.whereClause, p.ReadsBefore after := by
    intro p hp
    obtain ⟨w, hw, hmem⟩ := mem_predicates.1 hp
    exact readsBefore_predicate (hnamed p hp) (hstable p hp) ((hplaced w hw).predicates p hmem)
  have hbegins : ∀ w ∈ g.whereClause, beginsParams
      (w.predicates.tokens (Generated.operator ",") Predicate.tokens ++ rest) = false := by
    intro w hw
    by_cases hempty : w.predicates.isEmpty
    · -- Nothing is written of a clause without predicates, and what follows it begins otherwise.
      have hitems : w.predicates.items = [] := by simpa [Listed.isEmpty] using hempty
      have hends := endsPhrase_of_follows hafter (.inr hrest)
      have hangle : isOp "<" rest = false := (noPhrase_of_endsPhrase hends).operators "<" (by simp)
      simpa [Listed.tokens, Listed.between, hitems, hempty] using not_beginsParams hangle
    · exact (hplaced w hw).begins (by simpa using hempty) rest
  exact reads_whereTokens hafter hnamed hback hbegins hrest

/-! ## Structs -/

/-- In a struct that was read, no type is taken for anything else. -/
theorem placed_struct {s : StructItem} (h : Finds (attributedStruct phrases) ts rest s) :
    (∀ w ∈ s.generics.whereClause, w.Placed) ∧ s.fields.Placed := by
  obtain ⟨-, -, -, us, -, -, -, -, -, hfound⟩ := finds_struct h
  generalize s.generics.whereClause = condition at hfound ⊢
  generalize s.fields = fields at hfound ⊢
  cases hfound with
  | named _ hcondition _ => exact ⟨placed_whereClause? hcondition, trivial⟩
  | positional _ hfields hcondition =>
    exact ⟨placed_whereClause? hcondition, placed_positionalFields hfields⟩
  | unit _ hcondition => exact ⟨placed_whereClause? hcondition, trivial⟩

end Parser

/-- A struct that was read from a whole stream is found in all of it. -/
theorem finds_of_readItem {item : List Token} {s : StructItem} (hwhole : Whole item)
    (h : readItem item = .ok (.struct s)) :
    Parser.Finds (Parser.attributedStruct phrases) item [] s :=
  .of_parseAll hwhole (Parser.parseAll_item_eq_struct.1 h)

/-- A definition that is read has its names and forms. -/
theorem formed_of_readDefinition {item : List Token} {d : Definition}
    (h : readDefinition item = .ok d) : d.Formed :=
  Parser.gives_of_parseAll (fun _ => Parser.Gives.then_ fun attributes _ =>
    Parser.gives_definition attributes) h

end Memberwise
