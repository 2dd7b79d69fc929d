import Memberwise.Proofs.Keywords
import Memberwise.Proofs.WrittenParts

/-!
# Items that are written again

Every item that is read is written again in its place, and so is whatever it contains. Some forms have no
parts of their own: they keep the spacing of their source.

## Main definitions

* `TypeItem.WrittenAs`: a type item with its where clause on either side of the type

## Main statements

* `rewrites_item`: what is written of an item, if that is known of the items in it
* `rewrites_phrases_item`: what is written of an item
* `rewritten_of_readItem`: what is written for a whole stream that is an item
-/

namespace Memberwise

namespace Parser

-- A rule counts once for each step that it is nested in, so long parsers need many.
set_option synthInstance.maxSize 2000

variable {ph : Phrases} [∀ phrase, Passes (ph phrase)] [∀ phrase, Extends (ph phrase) (phrases phrase)]
  {start : List Token}

theorem rewrites_afterVisibility (start written : List Token) :
    Writes .plain start written afterVisibility fun _ us => us = written := by
  intro read ts rest r _ _ hwritten hfound
  obtain rfl := stands_afterVisibility hfound
  rw [List.append_nil]
  exact ⟨written, rfl, hwritten⟩

/-! ## Type items, constants and macro calls -/

/-- A type item is written behind `before`, with its where clause in front of the type or behind it. -/
def TypeItem.WrittenAs (t : TypeItem) (place : WherePlace) (before us : List Token) : Prop :=
  (t.colon = false → t.bounds = .empty)
    ∧ (place ≠ .afterType ∧ us = before ++ t.head ++ GenericParam.boundTokens t.bounds
        ++ t.generics.whereTokens ++ t.typeTokens ++ Generated.operator ";"
      ∨ place ≠ .beforeType ∧ us = before ++ t.head ++ GenericParam.boundTokens t.bounds
        ++ t.typeTokens ++ t.generics.whereTokens ++ Generated.operator ";")

/-- A type behind an equals sign, or nothing. -/
theorem writes_equalsType {β : Type} {written : List Token} {R : β → List Token → Prop}
    {k : Option (List Token) → Parser β} [∀ type, Passes (k type)]
    (hk : ∀ type, Writes .plain start (written ++ GenericParam.defaultTokens type) (k type) R) :
    Writes .plain start written (do
      let equals ← operator? "="
      let type ← if equals.isEmpty then pure none else some <$> ph.tokens (.type true)
      k type) R := by
  refine (rewrites_mark? (by decide)).bind fun equals => Writes.ite (fun hnone => ?_) fun hsome => ?_
  · rw [if_pos hnone]
    exact Writes.pure_bind (hk none)
  · rw [if_neg hsome]
    have hboth : Writes .plain start (written ++ Generated.operator "=") (some <$> ph.tokens (.type true))
        fun type us => us = written ++ GenericParam.defaultTokens type :=
      ((rewrites_phrase rfl).writes _ _).map fun _ _ h => h.trans (List.append_assoc _ _ _)
    exact hboth.bind fun type _ h => h ▸ hk type

theorem writes_typeItem (default : Bool) (place : WherePlace) (written : List Token) :
    Writes .plain start written (typeItem ph default place) fun t us => t.WrittenAs place written us := by
  refine rewrites_visibility.bind fun visibility =>
    (rewrites_keyword? "default").provided rfl fun default _ =>
    (rewrites_itemKeyword "type").bind fun word => rewrites_name.bind fun name =>
    rewrites_generics.bind fun params => writes_colonBounds (fun ts h => .inl h) fun colon bounds hbounds =>
    rewrites_whereClause?.otherwise rfl fun before hplace => writes_equalsType fun type => ?_
  have hbounds : (!colon.isEmpty) = false → bounds = .empty := fun h => hbounds (by simpa using h)
  refine Writes.ite (fun hfirst => ?_) fun hlater => ?_
  · have hnot : place ≠ .afterType := by
      rintro rfl
      simp [hplace rfl] at hfirst
    refine Writes.pure_bind ((rewrites_mark ";").bind fun _ => Writes.pure ⟨hbounds, .inl ⟨hnot, ?_⟩⟩)
    simp only [TypeItem.head, id, List.append_assoc]
    rfl
  · have hlater : place ≠ .beforeType ∧ before = none := by simpa using hlater
    obtain ⟨hnot, rfl⟩ := hlater
    refine rewrites_whereClause?.bind fun _ => (rewrites_mark ";").bind fun _ => Writes.pure
      ⟨hbounds, .inr ⟨hnot, ?_⟩⟩
    simp only [TypeItem.head, id, List.append_assoc]
    rfl

theorem rewrites_callEnd (arguments : List Token) : Rewrites .plain (callEnd arguments) id :=
  .ite (.pure rfl) (rewrites_operator ";")

theorem rewrites_innerMacroCall : Rewrites .plain innerMacroCall id := by
  have hcall : Rewrites .plain (seq [modPath, operator "!"]) id :=
    rewrites_modPath.seq_cons ((rewrites_operator "!").seq_cons .seq_nil)
  exact .of_writes fun _ => hcall.bind fun _ => rewrites_anyGroup.bind fun arguments =>
    (rewrites_callEnd arguments).bind fun _ => Writes.pure rfl

theorem rewrites_constName : Rewrites .plain constName Name.tokens :=
  .of_writes fun _ => Writes.ahead fun _ => Writes.ite (fun _ => rewrites_anyName.writes _ _)
    fun _ => Writes.expected _

omit [∀ phrase, Passes (ph phrase)] in
/-- Parameters without brackets are none. -/
theorem writes_generics (written : List Token) : Writes .plain start written (generics ph) fun g us =>
    us = written ++ g.tokens ∧ (g.bracketed = false → g.tokens = []) := by
  have hbrackets (c : Cursor) : Gives c (generics ph) fun g => g.bracketed = false → g.tokens = [] := by
    refine Gives.ahead (Gives.ite (fun _ => ?_) fun _ => Gives.pure fun _ => rfl)
    exact Gives.then_ fun _ _ => Gives.then_ fun _ _ => Gives.then_ fun _ _ => Gives.pure nofun
  exact (rewrites_generics.writes start written).gives hbrackets

/-- A constant without parameters and where clause is written from its name on. -/
theorem writes_constBody (written : List Token) : Writes .plain start written (constBody ph) fun r us =>
    r.2.2.1 = true → us = written ++ r.2.1 := by
  have htype : Rewrites .plain (seq [operator ":", ph.tokens (.type true)]) id :=
    rewrites_marked ":" rfl
  have hvalue : Rewrites .plain (when? (isOp "=") (seq [operator "=", ph.tokens (.expression true)])) id :=
    (rewrites_marked "=" rfl).when?
  refine rewrites_constName.bind fun name => (writes_generics _).bind ?_
  rintro params _ ⟨rfl, hbrackets⟩
  refine htype.bind fun type => hvalue.bind fun value => rewrites_whereClause?.bind fun condition =>
    (rewrites_operator ";").bind fun ending => Writes.pure fun hplain => ?_
  obtain ⟨hparams, hcondition⟩ : params.bracketed = false ∧ condition = none := by simpa using hplain
  simp [hbrackets hparams, hcondition]

/-! ## Traits -/

theorem rewrites_traitFunction : Rewrites .plain (traitFunction ph) id := by
  refine .of_writes fun _ => rewrites_signature.bind fun s => Writes.ahead fun _ =>
    Writes.ite (fun _ => ?_) fun _ => Writes.ite (fun _ => ?_) fun _ => ?_
  · have hbody : Rewrites .plain (Block.tokens <$> functionBody ph) id :=
      rewrites_functionBody.map fun _ => rfl
    exact hbody.bind fun _ => Writes.pure rfl
  · exact (rewrites_operator ";").bind fun _ => Writes.pure rfl
  · exact (Rewrites.expected _).bind fun _ => Writes.pure rfl

theorem rewrites_traitItem : Rewrites .plain (traitItem ph) id := by
  refine .of_ahead fun start => rewrites_outer.bind fun attributes => rewrites_visibility.bind fun visible =>
    (rewrites_keyword? "default").bind fun default => ?_
  extract_lets modified finish
  have _ (tokens : List Token) : Passes (finish tokens) := by
    dsimp only [finish]
    infer_instance
  -- What has a modifier keeps its spacing.
  have hfinish (tokens : List Token) : Writes .plain start
      ([] ++ attributes ++ visible.tokens ++ default ++ tokens) (finish tokens) fun a us => us = id a := by
    refine Writes.ite (fun _ => Writes.since) fun hplain => Writes.pure ?_
    obtain ⟨rfl, rfl⟩ : visible = .inherited ∧ default = [] := by simpa [modified] using hplain
    simp [Visibility.tokens]
  refine Writes.ahead fun ts => Writes.ite (fun _ => rewrites_traitFunction.bind hfinish) fun _ =>
    Writes.ite (fun _ => Writes.ite (fun _ => ?_) fun _ => Writes.ite (fun _ => ?_) fun _ => ?_) fun _ =>
    Writes.ite (fun _ => ?_) fun _ => Writes.ite (fun _ => rewrites_innerMacroCall.bind hfinish) fun _ =>
    Writes.expected _
  · refine (rewrites_keyword "const").bind fun word => (writes_constBody _).bind ?_
    rintro ⟨name, tokens, plain, valued⟩ us hus
    refine Writes.ite (fun hplain => ?_) fun _ => Writes.since
    rw [hus hplain, List.append_assoc]
    exact hfinish (word ++ tokens)
  · exact rewrites_traitFunction.bind hfinish
  · exact (rewrites_keyword "const").bind fun _ => Writes.expected _
  · refine (writes_typeItem false .afterType _).bind ?_
    rintro t us ⟨-, ⟨hplace, -⟩ | ⟨-, rfl⟩⟩
    · exact absurd rfl hplace
    · simpa only [id, List.append_assoc] using hfinish _

/-- A trait is written from its supertraits on. -/
theorem writes_traitBody (head : List Token) (params : Generics) :
    Writes .plain start (head ++ params.tokens) (traitBody ph head params) fun r us => us = r.2 := by
  have hbody : Rewrites .plain (group .brace (seq [inner ph, concatUntil atEnd (traitItem ph)])) id :=
    (rewrites_inner.seq_cons (rewrites_traitItem.concatUntil.seq_cons .seq_nil)).group
  have hstop (ts : List Token) (h : (isWord "where" ts || isBrace ts) = true) :
      endsTypeBounds ts = true ∨ isBrace ts = true := by
    simp only [Bool.or_eq_true] at h
    exact h.imp_left fun hword => by simp [endsTypeBounds, hword]
  unfold traitBody supertraits
  exact writes_colonBounds hstop fun _ _ _ => rewrites_whereClause?.bind fun _ =>
    hbody.bind fun _ => Writes.pure rfl

theorem writes_traitDefinition (attributes : List Token) : Writes .plain start attributes
    (traitDefinition ph attributes) fun i us => us = i.tokens := by
  have hmodifiers : Rewrites .plain (seq [keyword? "unsafe", keyword? "auto"]) id :=
    (rewrites_keyword? "unsafe").seq_cons ((rewrites_keyword? "auto").seq_cons .seq_nil)
  exact rewrites_visibility.bind fun _ => hmodifiers.bind fun _ =>
    (rewrites_itemKeyword "trait").bind fun _ => rewrites_name.bind fun _ =>
    rewrites_generics.bind fun _ => (writes_traitBody _ _).bind fun _ _ h =>
    Writes.pure h

theorem writes_traitOrSum (attributes : List Token) : Writes .plain start attributes
    (traitOrSum ph attributes) fun i us => us = i.tokens := by
  refine rewrites_visibility.bind fun _ => (rewrites_itemKeyword "trait").bind fun _ =>
    rewrites_name.bind fun _ => rewrites_generics.bind fun _ => Writes.ahead fun _ =>
    Writes.ite (fun _ => ?_) fun _ => Writes.ite (fun _ => ?_) fun _ => Writes.expected _
  · exact (writes_traitBody _ _).bind fun _ _ h => Writes.pure h
  · exact (rewrites_operator "=").bind fun _ => (rewrites_phrase rfl).separated.bind fun _ =>
      rewrites_whereClause?.bind fun _ => (rewrites_operator ";").bind fun _ => Writes.pure rfl

/-! ## Foreign items -/

theorem writes_foreignFunction (attributes : List Token) : Writes .plain start attributes
    (foreignFunction ph start attributes) fun a us => us = a := by
  have hmodifiers : Rewrites .plain (seq [keyword? "const", keyword? "async"]) id :=
    (rewrites_keyword? "const").seq_cons ((rewrites_keyword? "async").seq_cons .seq_nil)
  refine rewrites_visibility.bind fun visibility => hmodifiers.bind fun modifiers =>
    (rewrites_keyword? "safe").bind fun safe => rewrites_signature.bind fun s => Writes.ahead fun _ =>
    Writes.ite (fun _ => rewrites_functionBody.bind fun _ => Writes.since) fun _ =>
    (rewrites_operator ";").bind fun ending => Writes.ite (fun hsafe => Writes.pure ?_) fun _ => Writes.since
  simp [List.isEmpty_iff.1 hsafe]

theorem writes_foreignStatic (attributes : List Token) : Writes .plain start attributes
    (foreignStatic ph start attributes) fun a us => us = a := by
  have htokens : Rewrites .plain (seq [keyword "static", keyword? "mut", identifier, operator ":",
      ph.tokens (.type true)]) id :=
    (rewrites_keyword "static").seq_cons ((rewrites_keyword? "mut").seq_cons (rewrites_identifier.seq_cons
      ((rewrites_operator ":").seq_cons ((rewrites_phrase rfl).seq_cons .seq_nil))))
  have hvalue : Rewrites .plain (when? (isOp "=") (seq [operator "=", ph.tokens (.expression true)])) id :=
    (rewrites_marked "=" rfl).when?
  refine rewrites_visibility.bind fun visibility => (rewrites_keyword? "unsafe").bind fun unsafety =>
    (rewrites_keyword? "safe").provided rfl fun safe _ => htokens.bind fun tokens =>
    hvalue.bind fun value => (rewrites_operator ";").bind fun ending =>
    Writes.ite (fun hplain => Writes.pure ?_) fun _ => Writes.since
  obtain ⟨rfl, rfl, rfl⟩ : unsafety = [] ∧ safe = [] ∧ value = [] := by simpa using hplain
  simp

theorem rewrites_foreignItem : Rewrites .plain (foreignItem ph) id := by
  refine .of_ahead fun start => rewrites_outer.bind fun attributes =>
    (rewrites_afterVisibility _ _).bind_pair fun visible ts us hus => ?_
  rw [hus]
  refine Writes.ite (fun _ => writes_foreignFunction attributes) fun _ => Writes.ite (fun _ => ?_) fun _ =>
    Writes.ite (fun _ => ?_) fun _ => Writes.ite (fun _ => ?_) fun _ => Writes.expectedAt _ _
  · exact writes_foreignStatic attributes
  · refine (writes_typeItem false .either _).bind ?_
    rintro t us ⟨hbounds, hus⟩
    refine Writes.ite (fun _ => Writes.since) fun hplain => Writes.pure ?_
    obtain ⟨hcolon, htype⟩ : t.colon = false ∧ t.type = none := by simpa using hplain
    rw [hbounds hcolon, TypeItem.typeTokens, htype] at hus
    obtain ⟨-, rfl⟩ | ⟨-, rfl⟩ := hus <;>
      simp [GenericParam.boundTokens, GenericParam.defaultTokens, Listed.isEmpty, Listed.empty]
  · exact rewrites_innerMacroCall.bind fun _ => Writes.pure rfl

theorem writes_foreignBlock (attributes : List Token) : Writes .plain start attributes
    (foreignBlock ph attributes) fun i us => us = i.tokens := by
  have hconvention : Rewrites .plain (when? Terminal.string.starts literal) id := rewrites_literal.when?
  have hbody : Rewrites .plain (group .brace (seq [inner ph, concatUntil atEnd (foreignItem ph)])) id :=
    (rewrites_inner.seq_cons (rewrites_foreignItem.concatUntil.seq_cons .seq_nil)).group
  exact (rewrites_keyword? "unsafe").bind fun _ => (rewrites_itemKeyword "extern").bind fun _ =>
    hconvention.bind fun _ => hbody.bind fun _ => Writes.pure rfl

/-! ## Imports -/

theorem rewrites_newName : Rewrites .plain newName id :=
  .of_writes fun _ => Writes.ahead fun _ => Writes.ite (fun _ => rewrites_anyWord.writes _ _)
    fun _ => Writes.reject _

section Imports

omit [∀ phrase, Extends (ph phrase) (phrases phrase)]

variable (htrees : ∀ rooted, Rewrites .plain (ph (.useTree rooted)) Fragment.tokens)
include htrees

theorem rewrites_useTrees (rooted : Bool) : Rewrites .plain (useTrees ph rooted) fun r => r.1 := by
  refine .of_writes fun start => Writes.loop (fun s us => us = s.1) ?_ rfl
  rintro ⟨read, anyRoot⟩ _ rfl
  refine Writes.ahead fun _ => Writes.ite (fun _ => Writes.pure rfl) fun _ =>
    (rewrites_operator? "::").provided rfl fun root _ => (htrees _).bind fun tree =>
    Writes.ahead fun _ => Writes.ite (fun _ => Writes.pure rfl) fun _ =>
    (rewrites_operator ",").bind fun _ => Writes.pure rfl

theorem rewrites_useTree (rooted : Bool) : Rewrites .plain (useTree ph rooted) Fragment.tokens := by
  have hrename : Rewrites .plain (seq [keyword "as", newName]) id :=
    (rewrites_keyword "as").seq_cons (rewrites_newName.seq_cons .seq_nil)
  have hpath : Rewrites .plain (ph.tokens (.useTree false)) id := (htrees false).bind_pure fun _ => rfl
  refine .of_writes fun start => Writes.ahead fun _ => Writes.ite (fun _ => ?_) fun _ =>
    Writes.ite (fun _ => ?_) fun _ => Writes.ite (fun _ => ?_) fun _ => Writes.expected _
  · refine rewrites_anyWord.bind fun word => Writes.ahead fun _ => Writes.ite (fun _ => ?_) fun _ =>
      Writes.ite (fun _ => hrename.bind fun _ => Writes.pure rfl) fun _ => Writes.pure rfl
    exact (rewrites_operator "::").bind fun _ => hpath.bind fun _ => Writes.pure rfl
  · exact (rewrites_operator "*").bind fun _ => Writes.pure rfl
  · exact (rewrites_useTrees htrees rooted).brackets.bind fun _ => Writes.pure rfl

theorem writes_useItem (attributes : List Token) : Writes .plain start attributes
    (useItem ph start attributes) fun i us => us = i.tokens :=
  rewrites_visibility.bind fun _ => (rewrites_itemKeyword "use").bind fun _ =>
    (rewrites_operator? "::").bind fun leading => (rewrites_useTree htrees leading.isEmpty).bind fun _ =>
    (rewrites_operator ";").bind fun _ =>
    Writes.ite (fun _ => Writes.kept fun _ => rfl) fun _ => Writes.pure rfl

end Imports

theorem writes_externCrate (attributes : List Token) : Writes .plain start attributes
    (externCrate attributes) fun i us => us = i.tokens := by
  have hrenamed : Rewrites .plain (when? (isWord "as") do
      let word ← keyword "as"
      return word ++ (← if isWord "_" (← ahead) then anyWord else identifier)) id :=
    Rewrites.when? (.of_writes fun _ => (rewrites_keyword "as").bind fun _ => Writes.ahead fun _ =>
      rewrites_anyWord.either rewrites_identifier fun _ => Writes.pure rfl)
  exact rewrites_visibility.bind fun _ => (rewrites_itemKeyword "extern").bind fun _ =>
    (rewrites_keyword "crate").bind fun _ => Writes.ahead fun _ =>
    rewrites_anyWord.either rewrites_identifier fun _ => hrenamed.bind fun _ =>
    (rewrites_operator ";").bind fun _ => Writes.pure rfl

/-! ## Implementations -/

/-- A function with a body is written. -/
theorem writes_implFunction? (attributes : List Attribute) :
    Writes .plain start (Attribute.listTokens attributes) (implFunction? ph attributes) fun r us =>
      ∀ f, r = some f → us = f.tokens := by
  refine rewrites_visibility.bind fun visibility => (rewrites_keyword? "default").bind fun default =>
    rewrites_signature.bind fun s => (rewrites_operator? ";").bind fun ending =>
    Writes.ite (fun hbody => ?_) fun _ => Writes.pure nofun
  obtain rfl := List.isEmpty_iff.1 hbody
  refine rewrites_functionBody.bind fun body => Writes.pure ?_
  rintro _ ⟨⟩
  simp [ImplFunction.tokens]

theorem writes_implConst? (hasDefault : Bool) (written : List Token) :
    Writes .plain start written (implConst? ph hasDefault) fun r us =>
      ∀ tokens, r = some tokens → us = written ++ tokens := by
  refine rewrites_visibility.bind fun visibility =>
    (rewrites_keyword "default").provided rfl fun default _ =>
    (rewrites_keyword "const").bind fun word => (writes_constBody _).bind ?_
  rintro ⟨name, tokens, plain, valued⟩ us hus
  refine Writes.ite (fun h => Writes.pure ?_) fun _ => Writes.pure nofun
  rintro _ ⟨⟩
  rw [hus (Bool.and_eq_true_iff.1 h).1]
  simp

theorem writes_implType? (written : List Token) :
    Writes .plain start written (implType? ph) fun r us =>
      ∀ tokens, r = some tokens → us = written ++ tokens := by
  refine (writes_typeItem true .afterType _).bind ?_
  rintro t us ⟨hbounds, ⟨hplace, -⟩ | ⟨-, rfl⟩⟩
  · exact absurd rfl hplace
  refine Writes.ite (fun _ => Writes.pure nofun) fun hplain => Writes.pure ?_
  rintro _ ⟨⟩
  obtain ⟨hcolon, -⟩ : t.colon = false ∧ t.type ≠ none := by simpa using hplain
  simp [hbounds hcolon, GenericParam.boundTokens, Listed.isEmpty, Listed.empty]

theorem rewrites_implItem : Rewrites .plain (implItem ph) ImplItem.tokens := by
  refine .of_ahead fun start => rewrites_outerAttributes.bind fun attributes => ?_
  extract_lets finish
  have _ (tokens? : Option (List Token)) : Passes (finish tokens?) := by
    cases tokens? <;> dsimp only [finish] <;> infer_instance
  -- What has no tokens of its own keeps its spacing.
  have hfinish (tokens? : Option (List Token)) (us : List Token)
      (h : ∀ tokens, tokens? = some tokens → us = Attribute.listTokens attributes ++ tokens) :
      Writes .plain start us (finish tokens?) fun i us => us = i.tokens := by
    cases tokens? with
    | some tokens => exact Writes.pure (h tokens rfl)
    | none => exact Writes.kept fun _ => rfl
  refine (rewrites_afterVisibility _ _).bind_pair fun visible ts us hus => ?_
  rw [hus]
  refine Writes.ite (fun _ => ?_) fun _ => Writes.ite (fun _ => (writes_implConst? _ _).bind hfinish) fun _ =>
    Writes.ite (fun _ => (writes_implType? _).bind hfinish) fun _ => Writes.ite (fun _ => ?_) fun _ =>
    Writes.expectedAt _ _
  · exact (writes_implFunction? attributes).bind_option (fun f _ h => Writes.pure (h f rfl))
      fun us _ => hfinish none us nofun
  · refine rewrites_innerMacroCall.bind fun tokens => hfinish (some tokens) _ ?_
    rintro _ ⟨⟩
    rfl

/-- Words that make an implementation constant are not kept. -/
theorem writes_implConstness (written : List Token) : Writes .plain start written implConstness
    fun isConst us => isConst = false → us = written :=
  Writes.ahead fun _ => Writes.ite (fun _ => Writes.any.bind fun _ _ _ => Writes.pure nofun)
    fun _ => Writes.pure fun _ => rfl

/-- The trait with `for` after it, and the type. -/
theorem rewrites_implTarget : Rewrites .plain (implTarget ph) fun r =>
    (r.1.map fun trait => trait ++ Generated.word "for").getD [] ++ r.2.1 := by
  refine .of_writes fun start => Writes.ahead fun _ => Writes.here fun _ =>
    (rewrites_operator "!").provided rfl fun mark _ => (rewrites_fragment rfl).bind fun first =>
    Writes.ahead fun _ => Writes.ite (fun _ => ?_) fun _ => Writes.ite (fun hmark => ?_) fun _ =>
    Writes.rejectAt _ _
  · exact (rewrites_word "for").bind fun _ => (rewrites_phrase rfl).bind fun _ => Writes.pure (by simp)
  · exact Writes.pure (by simp [List.isEmpty_iff.1 hmark])

theorem writes_implementation? (attributes : List Attribute) :
    Writes .plain start (Attribute.listTokens attributes) (implementation? ph attributes) fun r us =>
      ∀ i, r = some i → us = i.tokens := by
  have hmodifiers : Rewrites .plain (seq [keyword? "default", keyword? "unsafe"]) id :=
    (rewrites_keyword? "default").seq_cons ((rewrites_keyword? "unsafe").seq_cons .seq_nil)
  have hbody : Rewrites .plain
      (inside .brace do return (← innerAttributes ph, ← repeatUntil atEnd (implItem ph))) fun r =>
      Generated.group .brace (Attribute.listTokens r.1 ++ r.2.flatMap ImplItem.tokens) :=
    Rewrites.inside (.of_writes fun _ => rewrites_innerAttributes.bind fun _ =>
      rewrites_implItem.repeatUntil.bind fun _ => Writes.pure rfl)
  refine rewrites_visibility.bind fun visibility => hmodifiers.bind fun modifiers =>
    (rewrites_itemKeyword "impl").bind fun word => Writes.ahead fun _ =>
    rewrites_generics.provided rfl fun params _ => (writes_implConstness _).bind fun isConst us hconst =>
    rewrites_implTarget.bind ?_
  rintro ⟨trait, subject, isPath⟩
  refine rewrites_whereClause?.bind fun condition => hbody.bind ?_
  rintro ⟨attributesInside, items⟩
  refine Writes.ite (fun _ => Writes.pure nofun) fun hplain => Writes.pure ?_
  rintro _ ⟨⟩
  obtain ⟨⟨rfl, rfl⟩, rfl⟩ : (visibility = .inherited ∧ isConst = false) ∧ isPath = true := by
    simpa using hplain
  cases trait <;> simp [hconst rfl, Implementation.tokens, Implementation.traitTokens, Visibility.tokens,
    Generics.tokens, Generics.ordered, Generics.whereTokens]

/-! ## Modules, functions, values and macros -/

theorem writes_moduleItem (hitem : Rewrites .plain (ph .item) Fragment.tokens) (attributes : List Token) :
    Writes .plain start attributes (moduleItem ph attributes) fun i us => us = i.tokens := by
  have hitem : Rewrites .plain (ph.tokens .item) id := hitem.bind_pure fun _ => rfl
  have hcontent : Rewrites .plain (group .brace (seq [inner ph, concatUntil atEnd (ph.tokens .item)])) id :=
    (rewrites_inner.seq_cons (hitem.concatUntil.seq_cons .seq_nil)).group
  refine rewrites_visibility.bind fun visibility => (rewrites_keyword? "unsafe").bind fun unsafety =>
    (rewrites_itemKeyword "mod").bind fun word => Writes.ahead fun _ =>
    rewrites_anyName.either rewrites_name fun name => Writes.ahead fun _ => Writes.ite (fun _ => ?_) fun _ =>
    Writes.ite (fun _ => ?_) fun _ => ?_
  · exact (rewrites_operator ";").bind fun _ => Writes.pure rfl
  · exact hcontent.bind fun _ => Writes.pure rfl
  · exact (Rewrites.expected _).bind fun _ => Writes.pure rfl

theorem writes_functionItem (attributes : List Token) : Writes .plain start attributes
    (functionItem ph start attributes) fun i us => us = i.tokens :=
  rewrites_visibility.bind fun _ => rewrites_signature.bind fun _ => Writes.ahead fun _ =>
    Writes.ite (fun _ => Writes.any.bind fun _ _ _ => Writes.kept fun _ => rfl)
      fun _ => rewrites_functionBody.bind fun _ => Writes.pure rfl

theorem writes_staticItem (attributes : List Token) : Writes .plain start attributes
    (staticItem ph start attributes) fun i us => us = i.tokens := by
  have htype : Rewrites .plain (seq [operator ":", ph.tokens (.type true)]) id :=
    rewrites_marked ":" rfl
  have hvalue : Rewrites .plain (seq [operator "=", ph.tokens (.expression true), operator ";"]) id :=
    (rewrites_operator "=").seq_cons ((rewrites_phrase rfl).seq_cons
      ((rewrites_operator ";").seq_cons .seq_nil))
  refine rewrites_visibility.bind fun _ => (rewrites_itemKeyword "static").bind fun _ =>
    (rewrites_keyword? "mut").bind fun _ => rewrites_name.bind fun _ => Writes.ahead fun _ =>
    Writes.ite (fun _ => ?_) fun _ => htype.bind fun _ => Writes.ahead fun _ =>
    Writes.ite (fun _ => ?_) fun _ => ?_
  · exact Writes.any.bind fun _ _ _ => Writes.kept fun _ => rfl
  · exact Writes.any.bind fun _ _ _ => Writes.kept fun _ => rfl
  · exact hvalue.bind fun _ => Writes.pure (by simp [Item.tokens])

theorem writes_constItem (attributes : List Token) : Writes .plain start attributes
    (constItem ph start attributes) fun i us => us = i.tokens := by
  refine rewrites_visibility.bind fun _ => (rewrites_itemKeyword "const").bind fun _ =>
    (writes_constBody _).bind ?_
  rintro ⟨name, tokens, plain, valued⟩ us hus
  refine Writes.ite (fun h => Writes.pure ?_) fun _ => Writes.kept fun _ => rfl
  exact hus (Bool.and_eq_true_iff.1 h).1

theorem writes_aliasItem (attributes : List Token) : Writes .plain start attributes
    (aliasItem ph start attributes) fun i us => us = i.tokens := by
  refine (writes_typeItem false .beforeType _).bind ?_
  rintro t us ⟨hbounds, ⟨-, rfl⟩ | ⟨hplace, -⟩⟩
  · refine Writes.ite (fun _ => Writes.kept fun _ => rfl) fun hplain => Writes.pure ?_
    obtain ⟨hcolon, -⟩ : t.colon = false ∧ t.type ≠ none := by simpa using hplain
    simp [Item.tokens, hbounds hcolon, GenericParam.boundTokens, Listed.isEmpty, Listed.empty]
  · exact absurd rfl hplace

theorem writes_macroItem (attributes : List Token) : Writes .plain start attributes
    (macroItem attributes) fun i us => us = i.tokens := by
  refine rewrites_modPath.bind fun path => (rewrites_operator "!").bind fun bang => Writes.ahead fun _ =>
    Writes.ite (fun _ => ?_) fun _ => ?_
  · exact rewrites_anyWord.bind fun _ => rewrites_anyGroup.bind fun arguments =>
      (rewrites_callEnd arguments).bind fun _ => Writes.pure rfl
  · exact rewrites_identifier.provided rfl fun _ _ => rewrites_anyGroup.bind fun arguments =>
      (rewrites_callEnd arguments).bind fun _ => Writes.pure rfl

/-- The definition of a macro keeps its spacing. -/
theorem writes_macroDefinition (written : List Token) : Writes .plain start written
    (macroDefinition start) fun i us => us = i.tokens := by
  refine Writes.any.bind fun _ us _ => Writes.ahead fun ts => ?_
  extract_lets hasParams afterParams
  have hafter (us : List Token) : Writes .plain start us (afterParams ()) fun i us => us = i.tokens := by
    refine Writes.ahead fun _ => Writes.ite (fun _ => ?_) fun _ =>
      Writes.ite (fun _ => Writes.expected _) fun _ => Writes.expected _
    exact Writes.any.bind fun _ _ _ => Writes.kept fun _ => rfl
  exact Writes.ite (fun _ => Writes.any.bind fun _ us _ => hafter us) fun _ => hafter us

theorem writes_implementationItem (attributes : List Attribute) :
    Writes .plain start (Attribute.listTokens attributes) (implementationItem ph start attributes)
      fun i us => us = i.tokens :=
  (writes_implementation? attributes).bind_option (fun i _ h => Writes.pure (h i rfl)) fun _ _ =>
    Writes.kept fun _ => rfl

/-! ## Any item -/

section Items

variable (hitem : Rewrites .plain (ph .item) Fragment.tokens)
  (htrees : ∀ rooted, Rewrites .plain (ph (.useTree rooted)) Fragment.tokens)
include hitem htrees

theorem writes_itemAfter (attributes : List Attribute) :
    Writes .plain start (Attribute.listTokens attributes) (itemAfter ph start attributes)
      fun i us => us = i.tokens := by
  refine (rewrites_afterVisibility _ _).bind_pair fun visible ts us hus => ?_
  rw [hus]
  have hforeign := @writes_foreignBlock ph _ _ start (Attribute.listTokens attributes)
  have himpl := @writes_implementationItem ph _ _ start attributes
  have hmodule := @writes_moduleItem ph _ _ start hitem (Attribute.listTokens attributes)
  have htrait := @writes_traitDefinition ph _ _ start (Attribute.listTokens attributes)
  refine Writes.ite (fun _ => writes_functionItem _) fun _ => Writes.ite (fun _ => ?_) fun _ =>
    Writes.ite (fun _ => writes_useItem htrees _) fun _ => Writes.ite (fun _ => writes_staticItem _) fun _ =>
    Writes.ite (fun _ => writes_constItem _) fun _ => Writes.ite (fun _ => ?_) fun _ =>
    Writes.ite (fun _ => hmodule) fun _ => Writes.ite (fun _ => writes_aliasItem _) fun _ =>
    Writes.ite (fun _ => (rewrites_structItem _ _).map fun _ _ h => h) fun _ =>
    Writes.ite (fun _ => (rewrites_enumItem _ _).map fun _ _ h => h) fun _ =>
    Writes.ite (fun _ => (rewrites_unionItem _ _).map fun _ _ h => h) fun _ =>
    Writes.ite (fun _ => writes_traitOrSum _) fun _ => Writes.ite (fun _ => htrait) fun _ =>
    Writes.ite (fun _ => himpl) fun _ =>
    Writes.ite (fun _ => rewrites_visibility.bind fun _ => writes_macroDefinition _) fun _ =>
    Writes.ite (fun _ => writes_macroItem _) fun _ => Writes.expectedAt _ _
  · -- An import of a library or foreign items.
    exact Writes.ite (fun _ => writes_externCrate _) fun _ => Writes.ite (fun _ => hforeign) fun _ =>
      Writes.ite (fun _ => Writes.ite (fun _ => hforeign) fun _ => Writes.expectedAt _ _) fun _ =>
      Writes.expectedAt _ _
  · -- What may be unsafe.
    exact Writes.ite (fun _ => htrait) fun _ => Writes.ite (fun _ => himpl) fun _ =>
      Writes.ite (fun _ => hforeign) fun _ => Writes.ite (fun _ => hmodule) fun _ => Writes.expectedAt _ _

/-- What is written of an item, if that is known of the items and imports in it. -/
theorem rewrites_item : Rewrites .plain (item ph) Item.tokens :=
  .of_ahead fun _ => rewrites_outerAttributes.bind fun attributes => writes_itemAfter hitem htrees attributes

end Items

/-! ## All items -/

/-- A reader for what is shorter finds only that. -/
theorem Finds.length_below {count : Nat} {phrase : Phrase} {ts rest : List Token} {f : Fragment}
    (h : Finds (phrases.below count phrase) ts rest f) : (ts ++ rest).length < count := by
  obtain ⟨limit, hread⟩ := h.read
  by_contra hless
  simp only [Phrases.below, hless, if_false, reduceCtorEq] at hread

/-- Items and imports are written part by part, whatever they contain. -/
theorem rewrites_parts (phrase : Phrase) (h : phrase = .item ∨ ∃ rooted, phrase = .useTree rooted) :
    Rewrites .plain (phrases phrase) Fragment.tokens := by
  suffices general : ∀ (n : Nat) (phrase : Phrase), (phrase = .item ∨ ∃ rooted, phrase = .useTree rooted) →
      ∀ ts rest f, (ts ++ rest).length = n → Finds (phrases phrase) ts rest f →
        Rewritten .plain ts rest f.tokens from
    fun ts rest f hfound => general _ phrase h ts rest f rfl hfound
  intro n
  -- Whatever is inside is read where fewer tokens are left.
  induction n using Nat.strongRecOn with
  | ind n ih =>
    rintro phrase h ts rest f rfl hfound
    have hinside (phrase : Phrase) (h : phrase = .item ∨ ∃ rooted, phrase = .useTree rooted) :
        Rewrites .plain (phrases.below (ts ++ rest).length phrase) Fragment.tokens :=
      fun us vs g hg => ih _ hg.length_below phrase h us vs g rfl hg.of_below
    have htrees (rooted : Bool) := hinside (.useTree rooted) (.inr ⟨rooted, rfl⟩)
    obtain rfl | ⟨rooted, rfl⟩ := h
    · obtain ⟨i, rfl, hi⟩ := hfound.body.bind_pure
      exact rewrites_item (hinside .item (.inl rfl)) htrees _ _ _ hi
    · exact rewrites_useTree htrees rooted _ _ _ hfound.body

end Parser

/-- What is written for a stream that is an item. -/
theorem rewritten_of_readItem {item : List Token} {i : Item} (hwhole : Whole item)
    (h : readItem item = .ok i) : Rewritten .plain item [] i.tokens :=
  Parser.rewrites_item (Parser.rewrites_parts .item (.inl rfl))
    (fun rooted => Parser.rewrites_parts (.useTree rooted) (.inr ⟨rooted, rfl⟩)) _ _ _
    (.of_parseAll hwhole h)

end Memberwise
