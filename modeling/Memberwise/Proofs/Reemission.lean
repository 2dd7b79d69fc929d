import Memberwise.Proofs.Definitions
import Memberwise.Proofs.Lookahead
import Memberwise.Proofs.Outcome
import Memberwise.Proofs.Spends

/-!
# Items that are given back

A struct is given back with the texts it was read from, in their order. Each part of it is read from
some tokens and kept in a form whose tokens have the same texts; what can be written in two ways is
kept in one of them, so a few forms of parameters and of the where clause are put aside.

The phrases inside a struct — types, bounds, constants and the values of attributes — are assumed to
be written as they were read. A reader that checks this of every phrase it reads takes the place of
the plain one in the assumption.

## Main definitions

* `Phrases.checked`: a reader that refuses a phrase that is not written as it was read
* `Generics.Tidy`: parameters and a where clause that have only one form
* `PrintsBack`: the phrases in an item are written as they were read

## Main statements

* `spends_outerAttributes`, `spends_generics`, `spends_structBody`: what is kept of the parts
* `spends_structItem`: what is kept of a struct
* `kept_texts`: a struct is given back with its texts
-/

namespace Memberwise

/-! ## Phrases that are written as they were read -/

/-- The phrase is kept as its reader writes it, and not as it is in the source. -/
def Phrase.isRewritten : Phrase → Bool
  | .namedFields => false
  | _ => true

/-- The reader, for phrases that are read from whole trees at the front of the stream and written
with the texts of what was read. -/
def Phrases.checked (ph : Phrases) : Phrases := fun phrase c =>
  match ph phrase c with
  | .ok (f, d) =>
    let read := c.tokens.take (c.tokens.length - d.tokens.length)
    if c.tokens = read ++ d.tokens ∧ d.leftover = c.leftover ∧ d.limit = c.limit ∧ Whole read
        ∧ (phrase.isRewritten = true → texts f.tokens = texts read) then .ok (f, d)
    else .error (c.surplus none)
  | .error e => .error e

/-- Every phrase is read from whole trees and written with the texts of what was read. -/
def Phrases.Faithful (ph : Phrases) : Prop :=
  ∀ phrase c, Parser.Spends c (ph phrase) fun f ts =>
    phrase.isRewritten = true → texts f.tokens = texts ts

theorem Phrases.checked_faithful (ph : Phrases) : ph.checked.Faithful := by
  intro phrase c f c' h hleft
  simp only [Phrases.checked] at h
  split at h
  · next g d hread =>
    split at h
    · next hcheck =>
      obtain ⟨htokens, hleft', hlimit, hwhole, htexts⟩ := hcheck
      cases h
      exact ⟨hleft'.symm.trans hleft, fun _ => ⟨hlimit, _, htokens, hwhole, htexts⟩⟩
    · cases h
  · cases h

namespace Parser

variable {ph : Phrases} {c : Cursor}

theorem spends_phrase (hph : ph.Faithful) {phrase : Phrase} (h : phrase.isRewritten = true) :
    Spends c (ph.tokens phrase) fun a ts => texts a = texts ts :=
  (hph phrase c).bind_pure fun _ _ hf => hf h

/-! ## Sequences -/

theorem spends_seq_nil : Spends c (seq []) fun a ts => texts a = texts ts := Spends.pure rfl

theorem spends_seq_cons {p : Parser (List Token)} {ps : List (Parser (List Token))}
    (hp : Spends c p fun a ts => texts a = texts ts)
    (hps : ∀ d, Spends d (seq ps) fun a ts => texts a = texts ts) :
    Spends c (seq (p :: ps)) fun a ts => texts a = texts ts :=
  hp.bind fun a d => (hps d).bind_pure fun b us hb ts ha => by simp [ha, hb]

/-! ## Attributes -/

theorem spends_operator? (text : String) :
    Spends c (operator? text) fun a ts => texts a = texts ts
      ∧ (a = [] ∨ texts a = texts (Generated.operator text)) := by
  refine Spends.ahead (Spends.ite (fun _ => ?_) fun _ => Spends.pure ⟨rfl, .inl rfl⟩)
  exact (spends_operator text).mono fun a ts h => ⟨h.1, .inr (h.1.trans h.2)⟩

/-- What an operator keeps of its tokens, a path of words keeps of them. -/
theorem spends_modPath_of {α : Type} {f : Token → α}
    (hoperator : ∀ d text, Spends d (operator text) fun a ts => a.map f = ts.map f) :
    Spends c modPath fun a ts => a.map f = ts.map f := by
  have hleading : Spends c (operator? "::") fun a ts => a.map f = ts.map f :=
    Spends.ahead (Spends.ite (fun _ => hoperator _ _) fun _ => Spends.pure rfl)
  refine hleading.bind fun leading d => ?_
  refine Spends.bind_pure (Q := fun segments us => segments.map f = us.map f)
    (Spends.loop (fun read ts => read.map f = ts.map f) ?_ rfl)
    fun segments us hus ts hts => by simp [hus, hts]
  intro read e
  refine Spends.ahead (Spends.ite (fun hword => ?_) fun _ => Spends.ite (fun hempty => ?_)
    fun _ => Spends.reject _)
  · obtain ⟨word, span, rest, htokens⟩ := isPathWord_eq_cons hword
    refine (spends_take_word htokens).bind fun w _ => Spends.ahead (Spends.ite (fun _ => ?_) fun _ => ?_)
    · refine (hoperator _ "::").bind_pure fun colons us hus ws hws ts hts => ?_
      simp [hus, hws, hts]
    · exact Spends.pure fun ws hws ts hts => by simp [hws, hts]
  · refine spends_identifier.bind_pure fun a us ha ts hts => ?_
    rw [List.isEmpty_iff] at hempty
    subst hempty
    simp [ha.1, ← hts]

theorem spends_modPath : Spends c modPath fun a ts => texts a = texts ts :=
  spends_modPath_of fun _ text => (spends_operator text).mono fun _ _ h => h.1

/-- A group is read as it is, with its brackets. -/
theorem spends_anyGroup :
    Spends c anyGroup fun a ts => a = ts ∧ ∃ first content last, ts = first :: content ++ [last] := by
  refine Spends.ahead (Spends.ite (fun hgroup => ?_) fun _ => Spends.reject _)
  obtain ⟨d, first, us, htokens⟩ : ∃ d first us, c.tokens = ⟨.opening d, first⟩ :: us := by
    simp only [isParen, isBracket, isBrace, Bool.or_eq_true, groupStarts_iff] at hgroup
    obtain (⟨first, us, h⟩ | ⟨first, us, h⟩) | ⟨first, us, h⟩ := hgroup <;> exact ⟨_, first, us, h⟩
  rintro a c' ⟨⟩ hleft
  refine ⟨hleft, fun hclosed => ?_⟩
  rw [htokens] at hclosed ⊢
  obtain ⟨content, last, after, rfl, hwhole, hsplit⟩ := hclosed.splitTree_opening
  refine ⟨rfl, ⟨.opening d, first⟩ :: content ++ [⟨.closing d, last⟩], ?_, hwhole.group d first last,
    ?_, _, content, _, rfl⟩
  · simp [hsplit]
  · rw [take_splitTree, hsplit]

theorem spends_attributeContent (hph : ph.Faithful) :
    Spends c (attributeContent ph) fun a ts => texts a.tokens = texts ts := by
  refine Spends.ahead (Spends.ite (fun _ => ?_) fun _ => Spends.ite (fun _ => ?_) fun _ => ?_)
  · refine spends_anyGroup.bind fun a d => ?_
    split
    · next opening rest =>
      refine Spends.pure ?_
      rintro ts ⟨rfl, first, content, last, hts⟩
      obtain ⟨rfl, rfl⟩ := List.cons.inj hts
      simp [Attribute.Content.tokens]
    · refine Spends.pure ?_
      rintro ts ⟨rfl, first, content, last, hts⟩
      cases hts
  · refine Spends.here fun equals => (spends_operator "=").bind fun _ d => Spends.ahead ?_
    refine Spends.ite (fun _ => Spends.reject _) fun _ => ?_
    refine (spends_phrase hph rfl).bind_pure fun a us ha ts hts => ?_
    simp [Attribute.Content.tokens, ha, hts.2]
  · exact Spends.pure rfl

/-- An attribute is kept with its texts, after what introduces it. -/
theorem spends_attributeBody (hph : ph.Faithful) (inner : Bool) (start : Span) :
    Spends c (attributeBody ph inner start) fun a ts => texts a.tokens
      = texts (Generated.operator "#" ++ if inner then Generated.operator "!" else [])
        ++ texts ts := by
  refine Spends.bind_pure (Spends.bracketed (Q := fun r ts => texts (r.1 ++ r.2.tokens) = texts ts)
    fun d => ?_) ?_
  · have hcontent (path : List Token) (e : Cursor) :
        Spends e (do return (path, ← attributeContent ph)) fun r us =>
          ∀ ts, texts path = texts ts → texts (r.1 ++ r.2.tokens) = texts (ts ++ us) :=
      (spends_attributeContent hph).bind_pure fun a us ha ts hts => by simp [ha, hts]
    refine Spends.ahead (Spends.ite (fun hword => ?_) fun _ => spends_modPath.bind hcontent)
    obtain ⟨span, rest, htokens⟩ := isWord_iff.1 hword
    refine Spends.bind (Q := fun a ts => texts a = texts ts) ?_ hcontent
    exact (spends_take_word htokens).mono fun a ts h => by rw [h]
  · rintro ⟨_, ⟨path, content⟩, _⟩ _ ⟨first, last, us, rfl, rfl, hus, rfl⟩
    rw [texts_group]
    simp only [Attribute.tokens, Generated.group, texts_append, texts_cons] at hus ⊢
    simp [hus]

theorem spends_outerAttribute (hph : ph.Faithful) :
    Spends c (outerAttribute ph) fun a ts => texts a.tokens = texts ts := by
  refine Spends.here fun start => (spends_operator "#").bind fun _ d => ?_
  refine (spends_attributeBody hph false start).mono fun a us ha ts hts => ?_
  simp [ha, hts.2]

theorem spends_innerAttribute (hph : ph.Faithful) :
    Spends c (innerAttribute ph) fun a ts => texts a.tokens = texts ts := by
  refine Spends.here fun start => (spends_operator "#").bind fun _ d =>
    (spends_operator "!").bind fun _ e => ?_
  refine (spends_attributeBody hph true start).mono fun a vs ha us hus ts hts => ?_
  simp [ha, hts.2, hus.2]

theorem spends_outerAttributes (hph : ph.Faithful) :
    Spends c (outerAttributes ph) fun as ts => texts (Attribute.listTokens as) = texts ts := by
  refine (spends_repeatUntil (fun _ => True) _ fun d =>
    (spends_outerAttribute hph).mono fun a ts h _ => h).mono fun as ts h => h fun _ _ => trivial

theorem spends_inner (hph : ph.Faithful) : Spends c (inner ph) fun a ts => texts a = texts ts := by
  refine (spends_repeatUntil (fun _ => True) _ fun d =>
    (spends_innerAttribute hph).mono fun a ts h _ => h).bind_pure fun as ts h => h fun _ _ => trivial

/-! ## Visibilities -/

/-- The contents of parentheses are kept between them. -/
theorem spends_inside_parenthesis {p : Parser (List Token)}
    (hp : ∀ c, Spends c p fun a ts => texts a = texts ts) :
    Spends c (inside .parenthesis p) fun a ts =>
      texts (Generated.group .parenthesis a) = texts ts := by
  refine (Spends.inside hp).mono ?_
  rintro a _ ⟨first, last, us, hus, rfl⟩
  rw [texts_group]
  simp [Generated.group, hus]

theorem spends_visibility : Spends c visibility fun v ts => texts v.tokens = texts ts := by
  refine Spends.ahead (Spends.ite (fun _ => ?_) fun _ => Spends.pure rfl)
  refine (spends_keyword "pub").bind fun _ d => Spends.ahead ?_
  refine Spends.ite (fun _ => ?_) fun _ => Spends.ite (fun _ => ?_) fun _ => ?_
  · refine Spends.bind_pure (spends_inside_parenthesis fun e =>
      spends_anyWord.mono fun a ts h => by rw [h.1]) fun scope us hus ts hts => ?_
    simp [Visibility.tokens, Generated.word, Token.text, Lexeme.text, hus, hts.2]
  · refine Spends.bind_pure (spends_inside_parenthesis fun e => spends_seq_cons
      ((spends_keyword "in").mono fun a ts h => by rw [h.1])
      fun e => spends_seq_cons spends_modPath fun e => spends_seq_nil) fun scope us hus ts hts => ?_
    simp [Visibility.tokens, Generated.word, Token.text, Lexeme.text, hus, hts.2]
  · refine Spends.pure fun ts hts => ?_
    simp [Visibility.tokens, Generated.word, Token.text, Lexeme.text, hts.2]

end Parser

/-! ## Parameters -/

/-- The parameter has bounds if it has a colon. -/
def GenericParam.Tidy (p : GenericParam) : Prop :=
  match p.sort with
  | .lifetime _ colon bounds => colon = true → bounds.isEmpty = false
  | .type _ colon bounds _ => colon = true → bounds.isEmpty = false
  | .const .. => True

/-- The parameters after `for`, if there are any, have bounds if they have a colon. -/
def Predicate.Tidy : Predicate → Prop
  | .lifetime .. => True
  | .type binder _ _ => ∀ b ∈ binder, ∀ p ∈ b.params.items, p.Tidy

/-- There are predicates. -/
structure WhereClause.Tidy (w : WhereClause) : Prop where
  nonempty : w.predicates.isEmpty = false
  predicates : ∀ p ∈ w.predicates.items, p.Tidy

/-- The parameters and the where clause have only one form: there are parameters in the angle
brackets, lifetimes first, bounds after each colon and predicates after `where`. -/
structure Generics.Tidy (g : Generics) : Prop where
  nonempty : g.bracketed = true → g.params.isEmpty = false
  lifetimesFirst : g.params.items.Pairwise fun p q => q.isLifetime = true → p.isLifetime = true
  params : ∀ p ∈ g.params.items, p.Tidy
  condition : ∀ w ∈ g.whereClause, w.Tidy

instance (p : GenericParam) : Decidable p.Tidy :=
  match p with
  | ⟨_, .lifetime ..⟩ => inferInstanceAs (Decidable (_ → _))
  | ⟨_, .type ..⟩ => inferInstanceAs (Decidable (_ → _))
  | ⟨_, .const ..⟩ => inferInstanceAs (Decidable True)

instance (p : Predicate) : Decidable p.Tidy :=
  match p with
  | .lifetime .. => inferInstanceAs (Decidable True)
  | .type .. => inferInstanceAs (Decidable (∀ b ∈ _, _))

instance (w : WhereClause) : Decidable w.Tidy :=
  decidable_of_iff (w.predicates.isEmpty = false ∧ ∀ p ∈ w.predicates.items, p.Tidy)
    ⟨fun h => ⟨h.1, h.2⟩, fun h => ⟨h.nonempty, h.predicates⟩⟩

instance (g : Generics) : Decidable g.Tidy :=
  have _ (p q : GenericParam) : Decidable (q.isLifetime = true → p.isLifetime = true) :=
    inferInstanceAs (Decidable (_ → _))
  decidable_of_iff ((g.bracketed = true → g.params.isEmpty = false)
      ∧ (g.params.items.Pairwise fun p q => q.isLifetime = true → p.isLifetime = true)
      ∧ (∀ p ∈ g.params.items, p.Tidy) ∧ ∀ w ∈ g.whereClause, w.Tidy)
    ⟨fun h => ⟨h.1, h.2.1, h.2.2.1, h.2.2.2⟩,
      fun h => ⟨h.nonempty, h.lifetimesFirst, h.params, h.condition⟩⟩

namespace Parser

variable {ph : Phrases} {c : Cursor}

theorem spends_bounds (stop : List Token → Bool) {item : Parser (List Token)}
    (hitem : ∀ c, Spends c item fun a ts => texts a = texts ts) :
    Spends c (bounds stop item) fun l ts =>
      texts (l.tokens (Generated.operator "+") id) = texts ts := by
  refine (spends_list (fun _ => True) _ _ "+" fun d => (hitem d).mono fun a ts h _ => h).mono
    fun l ts h => h fun _ _ => trivial

/-- A sort of parameter keeps its texts if it is tidy, after any attributes. -/
def KeepsSort (sort : GenericParam.Sort) (ts : List Token) : Prop :=
  ∀ attributes, GenericParam.Tidy ⟨attributes, sort⟩ →
    texts (GenericParam.tokens ⟨attributes, sort⟩) = texts (Attribute.listTokens attributes) ++ texts ts

theorem texts_boundTokens {bounds : Listed (List Token)} (h : bounds.isEmpty = false) :
    texts (GenericParam.boundTokens bounds)
      = ":" :: texts (bounds.tokens (Generated.operator "+") id) := by
  simp [GenericParam.boundTokens, h, texts_operator]

theorem spends_lifetimeParam : Spends c lifetimeParam KeepsSort := by
  refine spends_lifetime.bind fun name d => Spends.ahead (Spends.ite (fun _ => ?_) fun _ => ?_)
  · refine (spends_operator ":").bind fun _ e => ?_
    refine (spends_bounds _ fun e => spends_lifetime.mono fun a ts h => by rw [h]).bind_pure
      fun bounds vs hvs us hus ts hts attributes htidy => ?_
    simp [GenericParam.tokens, texts_boundTokens (htidy rfl), hvs, hus.2, hts, texts_operator]
  · refine Spends.pure fun ts hts attributes _ => ?_
    simp [GenericParam.tokens, GenericParam.boundTokens, Listed.empty, Listed.isEmpty, hts]

theorem spends_typeParam (hph : ph.Faithful) : Spends c (typeParam ph) KeepsSort := by
  refine spends_identifier.bind fun name d => (spends_operator? ":").bind fun colon e => ?_
  have hrest (bounds : Listed (List Token)) (e : Cursor) :
      Spends e (do
        let equals ← operator? "="
        if equals.isEmpty then return .type name (!colon.isEmpty) bounds none
        else return .type name (!colon.isEmpty) bounds (some (← ph.tokens (.type true))))
      fun sort us => ∀ ts, (((!colon.isEmpty) = true → bounds.isEmpty = false) →
        texts (name ++ GenericParam.boundTokens bounds) = texts ts) → KeepsSort sort (ts ++ us) := by
    refine (spends_operator? "=").bind fun equals e => Spends.ite (fun hempty => ?_) fun hempty => ?_
    · refine Spends.pure fun us hus ts hts attributes htidy => ?_
      rw [List.isEmpty_iff.1 hempty] at hus
      have hus : texts us = [] := hus.1.symm
      simpa [GenericParam.tokens, GenericParam.defaultTokens, hus] using hts htidy
    · refine (spends_phrase hph rfl).bind_pure fun value vs hvs us hus ts hts attributes htidy => ?_
      have hequals : texts equals = texts (Generated.operator "=") :=
        hus.2.resolve_left fun h => hempty (by simp [h])
      have hts := hts htidy
      simp only [texts_append] at hts
      simp [GenericParam.tokens, GenericParam.defaultTokens, hvs, ← hus.1, hequals, ← hts]
  refine Spends.ite (fun hempty => ?_) fun hempty => ?_
  · refine (hrest .empty e).mono fun sort ws hws us hus ts hts => ?_
    rw [List.isEmpty_iff.1 hempty] at hus
    have hus : texts us = [] := hus.1.symm
    rw [← List.append_assoc]
    refine hws (ts ++ us) fun _ => ?_
    simp [GenericParam.boundTokens, Listed.empty, Listed.isEmpty, hus, hts.1]
  · refine (spends_bounds _ fun e => spends_phrase hph rfl).bind fun bounds e =>
      (hrest bounds e).mono fun sort ws hws vs hvs us hus ts hts => ?_
    rw [← List.append_assoc, ← List.append_assoc]
    refine hws (ts ++ us ++ vs) fun hbounds => ?_
    have hcolon : texts colon = texts (Generated.operator ":") :=
      hus.2.resolve_left fun h => hempty (by simp [h])
    rw [texts_append, texts_boundTokens (hbounds (by simp [hempty])), hvs]
    simp [hts.1, ← hus.1, hcolon, texts_operator]

theorem spends_group {d : Delimiter} {p : Parser (List Token)}
    (hp : ∀ c, Spends c p fun a ts => texts a = texts ts) :
    Spends c (group d p) fun a ts => texts a = texts ts := by
  refine (Spends.bracketed hp).bind_pure ?_
  rintro ⟨_, content, _⟩ _ ⟨first, last, us, rfl, rfl, hus, rfl⟩
  simp [hus]

theorem spends_attributedBlock (hph : ph.Faithful) :
    Spends c (attributedBlock ph) fun a ts => texts a = texts ts :=
  spends_group fun _ => spends_seq_cons (spends_inner hph) fun _ =>
    spends_seq_cons (spends_phrase hph rfl) fun _ => spends_seq_nil

theorem spends_literal : Spends c literal fun a ts => texts a = texts ts := by
  refine Spends.ahead (Spends.ite (fun hliteral => ?_) fun _ => Spends.reject _)
  obtain ⟨text, span, rest, htokens⟩ | ⟨word, span, rest, htokens⟩
    | ⟨spacing, span, text, place, rest, htokens⟩ := literal_begins hliteral
  · rw [htokens]
    exact (spends_take_leaf htokens (by simp) rfl).mono fun a ts h => by rw [h.1, h.2]
  · rw [htokens]
    exact (spends_take_word htokens).mono fun a ts h => by rw [h]
  · rintro a c' h hleft
    rw [htokens] at h
    simp only [bind_apply, take_apply, pure_apply, htokens] at h
    cases h
    refine ⟨hleft, fun _ =>
      ⟨rfl, [⟨.punct '-' spacing, span⟩, ⟨.literal text, place⟩], htokens, ?_, rfl⟩⟩
    exact (Whole.leaf ⟨.punct '-' spacing, span⟩ (by simp) rfl).append
      (Whole.leaf ⟨.literal text, place⟩ (by simp) rfl)

theorem spends_constArgument (hph : ph.Faithful) :
    Spends c (constArgument ph) fun a ts => texts a = texts ts := by
  refine Spends.ahead (Spends.ite (fun _ => spends_literal) fun _ => Spends.ite (fun _ => ?_)
    fun _ => Spends.ite (fun _ => spends_attributedBlock hph) fun _ => Spends.expected _)
  exact spends_identifier.mono fun a ts h => by rw [h.1]

theorem spends_constParam (hph : ph.Faithful) : Spends c (constParam ph) KeepsSort := by
  refine (spends_keyword "const").bind fun _ d => spends_identifier.bind fun name d =>
    (spends_operator ":").bind fun _ d => (spends_phrase hph rfl).bind fun type d => ?_
  refine Spends.ahead (Spends.ite (fun _ => ?_) fun _ => ?_)
  · refine (spends_operator "=").bind fun _ d => (spends_constArgument hph).bind_pure
      fun value xs hxs ws hws vs hvs us hus name hname ts hts attributes _ => ?_
    simp [GenericParam.tokens, GenericParam.defaultTokens, Generated.word, Token.text, Lexeme.text,
      hxs, hws.2, hvs, hus.2, hname.1, hts.2]
  · refine Spends.pure fun vs hvs us hus name hname ts hts attributes _ => ?_
    simp [GenericParam.tokens, GenericParam.defaultTokens, Generated.word, Token.text, Lexeme.text,
      hvs, hus.2, hname.1, hts.2]

/-- A parameter after its attributes. -/
theorem spends_sort {sort : Parser GenericParam.Sort} (attributes : List Attribute)
    (hsort : Spends c sort KeepsSort) :
    Spends c (do return ⟨attributes, ← sort⟩) fun p us =>
      ∀ ts, texts (Attribute.listTokens attributes) = texts ts →
        GenericParam.Tidy p → texts p.tokens = texts (ts ++ us) :=
  hsort.bind_pure fun sort us hus ts hts htidy => by rw [hus attributes htidy, hts, texts_append]

theorem spends_declaredParam (hph : ph.Faithful) :
    Spends c (declaredParam ph) fun p ts => p.Tidy → texts p.tokens = texts ts := by
  refine (spends_outerAttributes hph).bind fun attributes d => Spends.ahead ?_
  refine Spends.ite (fun _ => spends_sort attributes spends_lifetimeParam) fun _ => Spends.ite
    (fun _ => spends_sort attributes (spends_typeParam hph)) fun _ => Spends.ite
    (fun _ => spends_sort attributes (spends_constParam hph)) fun _ =>
      Spends.ite (fun _ => ?_) fun _ => ?_
  · refine spends_anyWord.bind fun name e => Spends.pure fun us hus ts hts _ => ?_
    simp [GenericParam.tokens, GenericParam.boundTokens, GenericParam.defaultTokens, Listed.empty,
      Listed.isEmpty, hts, hus.1]
  · exact Spends.bind (Q := fun _ _ => False) (Spends.expected _) fun sort e =>
      Spends.pure fun _ h => h.elim

theorem spends_boundParam (hph : ph.Faithful) :
    Spends c (boundParam ph) fun p ts => p.Tidy → texts p.tokens = texts ts := by
  refine (spends_outerAttributes hph).bind fun attributes d => Spends.ahead ?_
  refine Spends.ite (fun _ => spends_sort attributes (spends_typeParam hph)) fun _ => Spends.ite
    (fun _ => spends_sort attributes spends_lifetimeParam) fun _ => Spends.ite
    (fun _ => spends_sort attributes (spends_constParam hph)) fun _ => ?_
  exact Spends.bind (Q := fun _ _ => False) (Spends.expected _) fun sort e =>
    Spends.pure fun _ h => h.elim

/-- The list of parameters, with its brackets and in its order. -/
theorem spends_generics (hph : ph.Faithful) :
    Spends c (generics ph) fun g ts => (g.bracketed = true → g.params.isEmpty = false) →
      (g.params.items.Pairwise fun p q => q.isLifetime = true → p.isLifetime = true) →
      (∀ p ∈ g.params.items, p.Tidy) → texts g.tokens = texts ts := by
  refine Spends.ahead (Spends.ite (fun _ => ?_) fun _ => ?_)
  · refine (spends_operator "<").bind fun _ d => ?_
    refine Spends.bind (spends_list GenericParam.Tidy _ _ "," fun e => spends_declaredParam hph)
      fun params e => (spends_operator ">").bind_pure
        fun _ vs hvs us hus ts hts hnonempty hfirst htidy => ?_
    simp only [Generics.tokens, Generics.ordered, Listed.sortedBy_of_pairwise hfirst,
      Generics.angled]
    rw [if_neg (by simp [hnonempty rfl])]
    simp [hus htidy, hts.2, hvs.2]
  · exact Spends.pure fun _ _ _ => rfl

/-! ## Where clauses -/

theorem spends_binderParts (hph : ph.Faithful) :
    Spends c (binderParts ph) fun b ts =>
      (∀ p ∈ b.params.items, p.Tidy) → texts b.tokens = texts ts := by
  refine Spends.bind (Q := fun a ts => texts a = texts ts) ?_ fun opening d => ?_
  · exact spends_seq_cons ((spends_keyword "for").mono fun a ts h => by rw [h.1]) fun e =>
      spends_seq_cons ((spends_operator "<").mono fun a ts h => h.1) fun e => spends_seq_nil
  · refine (spends_list GenericParam.Tidy _ _ "," fun e => spends_boundParam hph).bind
      fun params e => (spends_operator ">").bind_pure fun closing vs hvs us hus ts hts htidy => ?_
    simp [Binder.tokens, hus htidy, hts, hvs.1]

theorem spends_predicate (hph : ph.Faithful) :
    Spends c (predicate ph) fun p ts => p.Tidy → texts p.tokens = texts ts := by
  refine Spends.ahead (Spends.ite (fun _ => ?_) fun _ => ?_)
  · refine spends_lifetime.bind fun name d => (spends_operator ":").bind fun _ d =>
      (spends_bounds _ fun e => spends_lifetime.mono fun a ts h => by rw [h]).bind_pure
        fun bounds vs hvs us hus ts hts _ => ?_
    simp [Predicate.tokens, hvs, hus.2, hts]
  · have hrest (binder : Option Binder) (e : Cursor) :
        Spends e (do
          let subject ← ph.tokens (.type true)
          let _ ← operator ":"
          return .type binder subject (← bounds endsPredicate (ph.tokens (.bound false true))))
        fun p us => ∀ ts, ((∀ b ∈ binder, ∀ p ∈ b.params.items, p.Tidy) →
          texts ((binder.map Binder.tokens).getD []) = texts ts) →
            Predicate.Tidy p → texts p.tokens = texts (ts ++ us) := by
      refine (spends_phrase hph rfl).bind fun subject e => (spends_operator ":").bind fun _ e =>
        (spends_bounds _ fun e => spends_phrase hph rfl).bind_pure
          fun bounds ws hws vs hvs us hus ts hts htidy => ?_
      simp [Predicate.tokens, hws, hvs.2, hus, hts htidy]
    refine Spends.ite (fun _ => ?_) fun _ => ?_
    · refine Spends.bind (Spends.map (spends_binderParts hph) fun b ts hb htidy => ?_) hrest
      exact hb (htidy b rfl)
    · exact (hrest none c).mono fun p us hus htidy => hus [] (fun _ => rfl) htidy

theorem spends_whereClause (hph : ph.Faithful) :
    Spends c (whereClause ph) fun w ts => w.Tidy → texts w.tokens = texts ts := by
  refine (spends_keyword "where").bind fun _ d => Spends.ahead (Spends.ite
    (fun _ => Spends.reject _) fun _ => ?_)
  refine (spends_list Predicate.Tidy _ _ "," fun e => spends_predicate hph).bind_pure
    fun predicates us hus ts hts htidy => ?_
  rw [WhereClause.tokens, if_neg (by simp [htidy.nonempty])]
  simp [Generated.word, Token.text, Lexeme.text, hus htidy.predicates, hts.2]

theorem spends_whereClause? (hph : ph.Faithful) :
    Spends c (whereClause? ph) fun w ts =>
      (∀ x ∈ w, x.Tidy) → texts ((w.map WhereClause.tokens).getD []) = texts ts := by
  refine Spends.ahead (Spends.ite (fun _ => ?_) fun _ => Spends.pure fun _ => rfl)
  exact (spends_whereClause hph).bind_pure fun w ts hts htidy => hts (htidy w rfl)

/-! ## Fields -/

/-- What is kept as it is in the source has the tokens that were read, whatever its parser makes of
them. -/
theorem Spends.verbatim {α : Type} {p : Parser α} {Q : α → List Token → Prop}
    (hp : Spends c p Q) : Spends c (verbatim p) fun a ts => a = ts := by
  intro a c' h hleft
  rw [Parser.verbatim, bind_apply, ahead_apply] at h
  obtain ⟨b, d, hread, hsince⟩ := bind_eq_ok.1 h
  cases hsince
  obtain ⟨hnone, hclosed⟩ := hp b _ hread hleft
  refine ⟨hnone, fun hc => ?_⟩
  obtain ⟨hlimit, ts, hts, hwhole, -⟩ := hclosed hc
  refine ⟨hlimit, ts, hts, hwhole, ?_⟩
  rw [hts]
  simp

/-- The type of a field without a name of its own may be an unnamed struct or union. -/
theorem spends_anonymousType (hph : ph.Faithful) :
    Spends c (verbatim (seq [anyWord, ph.tokens .namedFields])) fun a ts => texts a = texts ts := by
  have hfields (d : Cursor) : Spends d (ph.tokens .namedFields) fun _ _ => True :=
    (hph .namedFields d).bind_pure fun _ _ _ => trivial
  have hrest (d : Cursor) : Spends d (seq [ph.tokens .namedFields]) fun _ _ => True :=
    (hfields d).bind fun _ _ => Spends.pure fun _ _ => trivial
  have hseq : Spends c (seq [anyWord, ph.tokens .namedFields]) fun _ _ => True :=
    spends_anyWord.bind fun _ d => (hrest d).bind_pure fun _ _ _ _ _ => trivial
  exact hseq.verbatim.mono fun a ts h => by rw [h]

theorem spends_namedField (hph : ph.Faithful) :
    Spends c (namedField ph) fun f ts => texts f.tokens = texts ts := by
  refine (spends_outerAttributes hph).bind fun attributes d => spends_visibility.bind
    fun visibility e => Spends.ahead ?_
  have hfield (name : Name) (type : List Token) :
      texts (NamedField.mk attributes visibility name type).tokens
        = texts (Attribute.listTokens attributes) ++ texts visibility.tokens ++ texts name.tokens
          ++ texts (Generated.operator ":") ++ texts type := by
    simp [NamedField.tokens]
  have hrest (name : Name) (d : Cursor) :
      Spends d (do
        let _ ← operator ":"
        let type ←
          if isWord "_" e.tokens && beginsAnonymous (← ahead) then
            verbatim (seq [anyWord, ph.tokens .namedFields])
          else ph.tokens (.type true)
        return NamedField.mk attributes visibility name type) fun f us =>
      texts f.tokens = texts (Attribute.listTokens attributes) ++ texts visibility.tokens
        ++ texts name.tokens ++ texts us := by
    refine (spends_operator ":").bind fun _ d => Spends.ahead (Spends.ite (fun _ => ?_) fun _ => ?_)
    · refine (spends_anonymousType hph).bind_pure fun type us hus ts hts => ?_
      simp [hfield, hus, hts.2]
    · refine (spends_phrase hph rfl).bind_pure fun type us hus ts hts => ?_
      simp [hfield, hus, hts.2]
  refine Spends.ite (fun _ => ?_) fun _ => ?_
  · refine spends_anyName.bind fun name d => (hrest name d).mono fun f ws hws vs hvs us hus ts hts => ?_
    simp [hws, hvs, hus, hts]
  · refine spends_name.bind fun name d => (hrest name d).mono fun f ws hws vs hvs us hus ts hts => ?_
    simp [hws, hvs, hus, hts]

theorem spends_positionalField (hph : ph.Faithful) :
    Spends c (positionalField ph) fun f ts => texts f.tokens = texts ts := by
  refine (spends_outerAttributes hph).bind fun attributes d => spends_visibility.bind
    fun visibility d => (spends_phrase hph rfl).bind_pure fun type vs hvs us hus ts hts => ?_
  simp [PositionalField.tokens, hvs, hus, hts]

theorem spends_namedFields (hph : ph.Faithful) :
    Spends c (namedFields ph) fun fields ts => texts (namedTokens fields) = texts ts := by
  refine (Spends.inside fun d => spends_list (fun _ => True) _ _ "," fun e =>
    (spends_namedField hph).mono fun a ts h _ => h).mono ?_
  rintro fields _ ⟨first, last, us, hus, rfl⟩
  rw [texts_group, namedTokens]
  simp [Generated.group, hus]

theorem spends_positionalFields (hph : ph.Faithful) :
    Spends c (positionalFields ph) fun fields ts => texts (positionalTokens fields) = texts ts := by
  refine (Spends.inside fun d => spends_list (fun _ => True) _ _ "," fun e =>
    (spends_positionalField hph).mono fun a ts h _ => h).mono ?_
  rintro fields _ ⟨first, last, us, hus, rfl⟩
  rw [texts_group, positionalTokens]
  simp [Generated.group, hus]

/-! ## Bodies -/

/-- The fields of a struct, with the where clause in its place. -/
theorem spends_structBody (hph : ph.Faithful) :
    Spends c (structBody ph) fun r ts => (∀ w ∈ r.1, w.Tidy) →
      texts (r.2.bodyTokens ((r.1.map WhereClause.tokens).getD [])) = texts ts := by
  refine (spends_whereClause? hph).bind fun condition d => Spends.ahead ?_
  refine Spends.ite (fun hparen => ?_) fun _ => Spends.ite (fun _ => ?_) fun _ =>
    Spends.ite (fun _ => ?_) fun _ => Spends.ite (fun _ => Spends.expected _)
      fun _ => Spends.expected _
  · refine (spends_positionalFields hph).bind fun fields d =>
      (spends_whereClause? hph).bind fun after d => Spends.ahead (Spends.ite (fun _ => ?_)
        fun _ => Spends.ite (fun _ => Spends.expected _) fun _ => Spends.expected _)
    refine (spends_operator ";").bind_pure fun _ ws hws vs hvs us hus ts hts htidy => ?_
    obtain rfl : condition = none := by simp_all
    have hts : texts ts = [] := (hts (by simp)).symm
    simp [Fields.bodyTokens, hus, hvs htidy, hws.2, hts]
  · refine (spends_namedFields hph).bind_pure fun fields us hus ts hts htidy => ?_
    simp [Fields.bodyTokens, hus, hts htidy]
  · refine (spends_operator ";").bind_pure fun _ us hus ts hts htidy => ?_
    simp [Fields.bodyTokens, hus.2, hts htidy]

/-- A struct, after its attributes. -/
theorem spends_structItem (hph : ph.Faithful) (attributes : List Attribute) :
    Spends c (structItem ph attributes) fun s us => ∀ ts,
      texts (Attribute.listTokens attributes) = texts ts → s.generics.Tidy →
        texts s.tokens = texts (ts ++ us) := by
  refine spends_visibility.bind fun visibility d => (spends_itemKeyword "struct").bind fun keyword d =>
    spends_name.bind fun name d => (spends_generics hph).bind fun params d =>
      (spends_structBody hph).bind_pure fun r ys hys xs hxs ws hws vs hvs us hus ts hts htidy => ?_
  have hparams : texts params.tokens = texts xs := hxs htidy.nonempty htidy.lifetimesFirst htidy.params
  have hbody : texts (r.2.bodyTokens ((r.1.map WhereClause.tokens).getD [])) = texts ys :=
    hys htidy.condition
  simp only [Generics.tokens, Generics.ordered] at hparams
  simp only [StructItem.tokens, Generics.tokens, Generics.ordered, Generics.whereTokens,
    texts_append, hts, hus, hvs, hws, hparams, hbody, List.append_assoc]

theorem spends_attributedStruct (hph : ph.Faithful) :
    Spends c (attributedStruct ph) fun s ts => s.generics.Tidy → texts s.tokens = texts ts :=
  (spends_outerAttributes hph).bind fun attributes _ =>
    (spends_structItem hph attributes).mono fun _ _ hs ts hts => hs ts hts

end Parser

/-! ## Items -/

open Generated

/-- Each phrase in the item is read from whole trees and written with the texts of what was read: the
item can be read with a reader that refuses other phrases. -/
def PrintsBack (item : List Token) : Prop :=
  (parseAll (Parser.item phrases.checked) item .outside).toOption = (readItem item).toOption

instance (item : List Token) : Decidable (PrintsBack item) := inferInstanceAs (Decidable (_ = _))

theorem PrintsBack.readItem_checked {ts : List Token} {i : Item} (h : PrintsBack ts)
    (hread : readItem ts = .ok i) : parseAll (Parser.item phrases.checked) ts .outside = .ok i := by
  rw [PrintsBack, hread] at h
  cases hchecked : parseAll (Parser.item phrases.checked) ts .outside with
  | error e => simp [hchecked, Except.toOption] at h
  | ok j =>
    rw [hchecked] at h
    exact congrArg Except.ok (Option.some.inj h)

/-- The attribute gives a struct back with its texts, in their order, and adds one thing. -/
theorem kept_texts {item : List Token} {s : StructItem} (hwhole : Whole item)
    (hread : readItem item = .ok (.struct s)) (htidy : s.generics.Tidy) (hprints : PrintsBack item)
    (arguments : List Token) :
    ∃ kept added, (expandAttribute arguments item).tokens = kept ++ added
      ∧ texts kept = texts item ∧ Adds added (.struct s) (readArguments arguments) := by
  have hchecked : parseAll (Parser.attributedStruct phrases.checked) item .outside = .ok s :=
    Parser.parseAll_item_eq_struct.1 (hprints.readItem_checked hread)
  have hkept : texts s.tokens = texts item :=
    Parser.Spends.of_parseAll (Parser.spends_attributedStruct phrases.checked_faithful) hwhole
      hchecked htidy
  have hadds := adds_added (.struct s) (readArguments arguments) (some (.struct s))
  refine ⟨s.tokens, _, ?_, hkept, hadds⟩
  simp only [expandAttribute, hread]
  rfl

/-- For `#[derive(Debug)] pub(crate) struct Grid<'a, T: Clone + 'a = u8, const N: usize,>` with the
clause `where T: for<'b> Fn(&'b u8),` and the fields `#[cfg(test)] pub rows: [T; N], name: &'a str`. -/
theorem kept_texts_grid :
    let lifetime (name : String) : List Token := ⟨.punct '\x27' .joint, .outside⟩ :: word name
    let head := operator "#" ++ group .bracket (word "derive" ++ group .parenthesis (word "Debug"))
      ++ word "pub" ++ group .parenthesis (word "crate") ++ word "struct" ++ word "Grid"
    let params := operator "<" ++ lifetime "a" ++ operator "," ++ word "T" ++ operator ":"
      ++ word "Clone" ++ operator "+" ++ lifetime "a" ++ operator "=" ++ word "u8" ++ operator ","
      ++ word "const" ++ word "N" ++ operator ":" ++ word "usize" ++ operator "," ++ operator ">"
    let condition := word "where" ++ word "T" ++ operator ":" ++ word "for" ++ operator "<"
      ++ lifetime "b" ++ operator ">" ++ word "Fn"
      ++ group .parenthesis (operator "&" ++ lifetime "b" ++ word "u8") ++ operator ","
    let item := head ++ params ++ condition ++ group .brace (operator "#"
      ++ group .bracket (word "cfg" ++ group .parenthesis (word "test")) ++ word "pub" ++ word "rows"
      ++ operator ":" ++ group .bracket (word "T" ++ operator ";" ++ word "N") ++ operator ","
      ++ word "name" ++ operator ":" ++ operator "&" ++ lifetime "a" ++ word "str")
    ∃ s, Whole item ∧ readItem item = .ok (.struct s) ∧ s.generics.Tidy ∧ PrintsBack item
      ∧ ∀ arguments, ∃ kept added, (expandAttribute arguments item).tokens = kept ++ added
        ∧ texts kept = texts item ∧ Adds added (.struct s) (readArguments arguments) := by
  intro lifetime head params condition item
  have hwhole : Whole item := by decide +kernel
  obtain ⟨s, hread, htest⟩ := @readItem_of_any_struct item
    (fun s => decide (s.generics.Tidy ∧ PrintsBack item)) (by decide +kernel)
  obtain ⟨htidy, hprints⟩ := of_decide_eq_true htest
  exact ⟨s, hwhole, hread, htidy, hprints, kept_texts hwhole hread htidy hprints⟩

end Memberwise
