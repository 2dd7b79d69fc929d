import Memberwise.Proofs.Extends
import Memberwise.Proofs.Rewriting

/-!
# Parts that are written again

The parts of an item are written as they were read, each in the place of its source: attributes,
parameters, where clauses, fields and variants, and what functions consist of. The phrases in them are
read with any reader that reads no more than the reader for all phrases.

## Main statements

* `rewrites_outerAttributes`, `rewrites_generics`, `rewrites_whereClause?`: what stands in front of a body
* `rewrites_structItem`, `rewrites_enumItem`, `rewrites_unionItem`: definitions of types
* `rewrites_signature`, `rewrites_functionBody`: functions
-/

namespace Memberwise.Parser

-- A rule counts once for each step that it is nested in, so long parsers need many.
set_option synthInstance.maxSize 1000

variable {setting : Setting} {ph : Phrases} [∀ phrase, Passes (ph phrase)]
  [∀ phrase, Extends (ph phrase) (phrases phrase)] {ts rest : List Token}

/-! ## Phrases -/

omit [∀ phrase, Passes (ph phrase)] in
theorem rewrites_fragment {phrase : Phrase} (h : phrase.isLeaf = true) :
    Rewrites setting (ph phrase) Fragment.tokens :=
  fun _ _ _ hfound => .phrase h (Extends.finds hfound)

theorem rewrites_phrase {phrase : Phrase} (h : phrase.isLeaf = true) :
    Rewrites setting (ph.tokens phrase) id :=
  (rewrites_fragment h).bind_pure fun _ => rfl

/-- An operator and the phrase behind it. -/
theorem rewrites_marked (text : String) {phrase : Phrase} (h : phrase.isLeaf = true) :
    Rewrites setting (seq [operator text, ph.tokens phrase]) id :=
  (rewrites_operator text).seq_cons ((rewrites_phrase h).seq_cons .seq_nil)

/-- Tokens that are kept as they are. -/
theorem rewrites_verbatim {α : Type} {p : Parser α} [Passes p] : Rewrites setting (verbatim p) id := by
  intro ts rest us hfound
  obtain ⟨rfl, -⟩ := hfound.verbatim
  exact .same rfl

/-! ## Attributes -/

theorem rewrites_attributeContent :
    Rewrites setting (attributeContent ph) Attribute.Content.tokens := by
  intro ts rest content hfound
  have hfound := hfound.ahead
  split at hfound
  · obtain ⟨_, us, vs, rfl, ⟨rfl, first, inside, last, rfl⟩, -, hkept⟩ :=
      hfound.bind_of (fun _ => spends_anyGroup) fun _ => by split <;> infer_instance
    obtain ⟨rfl, rfl⟩ := hkept.pure
    exact .same (by simp [Attribute.Content.tokens])
  · have hrest : Rewrites setting (do
        let equals ← here
        let _ ← operator "="
        let ts ← ahead
        if isOp "#" ts && isBracket (afterTree ts) then reject .nestedAttribute
        else return .value equals (← ph.tokens (.expression true))) Attribute.Content.tokens :=
      .of_writes fun _ => Writes.here fun _ => (rewrites_mark "=").bind fun _ => Writes.ahead fun _ =>
        Writes.ite (fun _ => Writes.reject _) fun _ => (rewrites_phrase rfl).bind fun _ => Writes.pure rfl
    split at hfound
    · exact hrest _ _ _ hfound
    · obtain ⟨rfl, rfl⟩ := hfound.pure
      exact .same rfl

/-- The path of an attribute and what follows it. -/
theorem rewrites_attributeInside : Rewrites setting (do
      let path ← if isWord "unsafe" (← ahead) then take 1 else modPath
      return (path, ← attributeContent ph)) fun r => r.1 ++ r.2.tokens := by
  have hafter (path us : List Token) : Writes setting us path (do return (path, ← attributeContent ph))
      fun r us => us = r.1 ++ r.2.tokens :=
    rewrites_attributeContent.bind fun _ => Writes.pure rfl
  intro ts rest r hfound
  have hfound := hfound.ahead
  split at hfound
  · next hword =>
    obtain ⟨span, after, hafter'⟩ := isWord_iff.1 hword
    obtain ⟨path, _, vs, rfl, rfl, hpath, hrest⟩ :=
      hfound.bind_of (fun _ => spends_take_word hafter') inferInstance
    obtain ⟨_, rfl, hwritten⟩ := hafter path _ path vs rest r rfl hpath.whole (.same rfl) hrest
    exact hwritten
  · have hpath : Rewrites setting (do
        let path ← modPath
        return (path, ← attributeContent ph)) fun r => r.1 ++ r.2.tokens :=
      .of_writes fun _ => rewrites_modPath.bind fun _ => hafter _ _
    exact hpath _ _ _ hfound

theorem writes_attributeBody (inner : Bool) (span : Span) (start written : List Token) :
    Writes setting start written (attributeBody ph inner span) fun a us => a.inner = inner
      ∧ us = written ++ Generated.group .bracket (a.path ++ a.content.tokens) :=
  (rewrites_attributeInside.bracketed).bind fun _ => Writes.pure ⟨rfl, rfl⟩

theorem rewrites_outerAttribute : Rewrites setting (outerAttribute ph) Attribute.tokens := by
  refine .of_writes fun start => Writes.here fun span => (rewrites_mark "#").bind fun _ => ?_
  refine (writes_attributeBody false span start _).mono fun a us ha => ?_
  rw [ha.2, Attribute.tokens, ha.1]
  rfl

theorem rewrites_innerAttribute : Rewrites setting (innerAttribute ph) Attribute.tokens := by
  refine .of_writes fun start => Writes.here fun span => (rewrites_mark "#").bind fun _ =>
    (rewrites_mark "!").bind fun _ => ?_
  refine (writes_attributeBody true span start _).mono fun a us ha => ?_
  rw [ha.2, Attribute.tokens, ha.1]
  rfl

theorem rewrites_outerAttributes : Rewrites setting (outerAttributes ph) Attribute.listTokens :=
  rewrites_outerAttribute.repeatUntil

theorem rewrites_innerAttributes : Rewrites setting (innerAttributes ph) Attribute.listTokens :=
  rewrites_innerAttribute.repeatUntil

theorem rewrites_outer : Rewrites setting (outer ph) id :=
  rewrites_outerAttributes.bind_pure fun _ => rfl

theorem rewrites_inner : Rewrites setting (inner ph) id :=
  rewrites_innerAttributes.bind_pure fun _ => rfl

/-! ## Parameters and where clauses -/

omit [∀ phrase, Passes (ph phrase)] in
theorem rewrites_generics : Rewrites setting (generics ph) Generics.tokens := by
  intro ts rest g hfound
  have hfound : Finds (generics phrases) ts rest g := Extends.finds hfound
  have hstands := stands_generics hfound
  have hnamed := hfound.gives fun _ => gives_generics
  refine .params hstands (angleList_angled GenericParam.tokens g.ordered) fun p hp => ?_
  have hp := Generics.mem_inOrder.1 hp
  exact GenericParam.headed_of_named (hnamed p hp) (outer_of_paramsStand hstands hp)

omit [∀ phrase, Passes (ph phrase)] in
theorem rewrites_boundParam : Rewrites setting (boundParam ph) GenericParam.tokens := by
  intro ts rest p hfound
  have hfound : Finds (boundParam phrases) ts rest p := Extends.finds hfound
  have hstands := stands_boundParam hfound
  have hnamed := (hfound.gives fun _ => gives_boundParam).1
  obtain ⟨_, _, -, hattributes, -⟩ := id hstands
  exact .param hstands (GenericParam.headed_of_named hnamed (outer_of_stands hattributes))

theorem rewrites_bounds {stop : List Token → Bool} {item : Parser (List Token)} [Passes item]
    (hitem : Rewrites setting item id) :
    Rewrites setting (bounds stop item) fun l => l.tokens (Generated.operator "+") id :=
  hitem.joined

theorem rewrites_binderParts : Rewrites setting (binderParts ph) Binder.tokens := by
  have hopening : Rewrites setting (seq [keyword "for", operator "<"]) id :=
    (rewrites_keyword "for").seq_cons ((rewrites_operator "<").seq_cons .seq_nil)
  exact .of_writes fun _ => hopening.bind fun _ => rewrites_boundParam.separated.bind fun _ =>
    (rewrites_operator ">").bind fun _ => Writes.pure rfl

theorem rewrites_predicate : Rewrites setting (predicate ph) Predicate.tokens := by
  refine .of_writes fun start => Writes.ahead fun ts => Writes.ite (fun _ => ?_) fun _ => ?_
  · exact rewrites_lifetime.bind fun _ => (rewrites_mark ":").bind fun _ =>
      (rewrites_bounds rewrites_lifetime).bind fun _ => Writes.pure rfl
  · have hafter (binder : Option Binder) (written : List Token)
        (hwritten : written = (binder.map Binder.tokens).getD []) : Writes setting start written (do
          let subject ← ph.tokens (.type true)
          let _ ← operator ":"
          return .type binder subject (← bounds endsPredicate (ph.tokens (.bound false true))))
          fun p us => us = Predicate.tokens p := by
      subst hwritten
      exact (rewrites_phrase rfl).bind fun _ => (rewrites_mark ":").bind fun _ =>
        (rewrites_bounds (rewrites_phrase rfl)).bind fun _ => Writes.pure rfl
    refine Writes.ite (fun _ => ?_) fun _ => ?_
    · have hbinder : Rewrites setting (some <$> binderParts ph) fun b => (b.map Binder.tokens).getD [] :=
        rewrites_binderParts.map fun _ => rfl
      exact hbinder.bind fun b => hafter b _ rfl
    · exact Writes.pure_bind (hafter none _ rfl)

theorem rewrites_whereClause : Rewrites setting (whereClause ph) WhereClause.tokens := by
  intro ts rest w hfound
  obtain ⟨_, us, vs, rfl, hword, h₁⟩ := hfound.bind
  obtain ⟨rfl, span, rfl⟩ := hword.keyword
  rcases h₁.ahead.ite with ⟨-, h₂⟩ | ⟨-, h₂⟩
  · exact h₂.not_reject.elim
  obtain ⟨predicates, rfl, hlist⟩ := h₂.bind_pure
  rw [WhereClause.tokens]
  by_cases hempty : predicates.isEmpty
  · obtain ⟨rfl, hends⟩ := Finds.list_nil hempty hlist
    rw [if_pos hempty, List.append_nil]
    exact .clause rfl hends
  · rw [if_neg hempty]
    exact .append hword.whole hlist.whole (.same rfl) (rewrites_predicate.joined _ _ _ hlist)

theorem rewrites_whereClause? : Rewrites setting (whereClause? ph) fun w =>
    (w.map WhereClause.tokens).getD [] :=
  .of_writes fun _ => Writes.ahead fun _ =>
    Writes.ite (fun _ => rewrites_whereClause.bind fun _ => Writes.pure rfl) fun _ => Writes.pure rfl

/-- Bounds behind a colon. Without bounds the colon is left out, wherever there may be none. -/
theorem writes_colonBounds {β : Type} {start written : List Token} {R : β → List Token → Prop}
    {stop : List Token → Bool} {k : List Token → Listed (List Token) → Parser β}
    [∀ colon bounds, Passes (k colon bounds)]
    (hstop : ∀ ts, stop ts = true → endsTypeBounds ts = true ∨ isBrace ts = true)
    (hk : ∀ colon bounds, (colon.isEmpty = true → bounds = .empty) →
      Writes setting start (written ++ GenericParam.boundTokens bounds) (k colon bounds) R) :
    Writes setting start written (do
      let colon ← operator? ":"
      let bounds ←
        if colon.isEmpty then pure .empty else separated stop "+" (ph.tokens (.bound false true))
      k colon bounds) R := by
  intro read ts rest b hstart hread hwritten hfound
  obtain ⟨colon, us, vs, rfl, hcolon, h₁⟩ := hfound.bind
  rcases h₁.ite with ⟨hnone, h₂⟩ | ⟨hsome, h₂⟩
  · obtain ⟨bounds, ws, xs, rfl, hbounds, h₃⟩ := h₂.bind
    obtain ⟨rfl, rfl⟩ := hbounds.pure
    obtain ⟨-, rfl⟩ | ⟨hne, -⟩ := stands_operator? (by decide) hcolon
    · refine hk colon .empty (fun _ => rfl) read xs rest b hstart hread ?_ h₃
      simpa [GenericParam.boundTokens, Listed.empty, Listed.isEmpty] using hwritten
    · rw [hne] at hnone
      cases hnone
  · obtain ⟨hempty, -⟩ | ⟨-, htexts⟩ := stands_operator? (by decide) hcolon
    · exact absurd hempty hsome
    obtain ⟨bounds, ws, xs, rfl, hbounds, h₃⟩ := h₂.bind
    have hboth : Rewritten setting (us ++ ws) (xs ++ rest) (GenericParam.boundTokens bounds) := by
      rw [GenericParam.boundTokens]
      by_cases hempty : bounds.isEmpty
      · obtain ⟨rfl, hends⟩ := Finds.list_nil hempty hbounds
        rw [if_pos hempty, List.append_nil]
        exact .colon htexts (hstop _ hends)
      · rw [if_neg hempty]
        refine .append hcolon.whole hbounds.whole (.same ?_) ((rewrites_phrase rfl).separated _ _ _ hbounds)
        rw [htexts, texts_operator]
    simp only [← List.append_assoc us ws] at hstart hwritten ⊢
    rw [List.append_assoc] at hstart hwritten
    rw [← List.append_assoc read]
    refine hk colon bounds (fun h => absurd h hsome) _ xs rest b (by simp [hstart])
      (hread.append (hcolon.whole.append hbounds.whole)) ?_ h₃
    exact .append hread (hcolon.whole.append hbounds.whole) hwritten hboth

/-! ## Fields and variants -/

theorem rewrites_namedField : Rewrites setting (namedField ph) NamedField.tokens := by
  refine .of_writes fun start => rewrites_outerAttributes.bind fun attributes =>
    rewrites_visibility.bind fun visibility => ?_
  -- Both kinds of name are followed by the same.
  have hafter (unnamed : Bool) (name : Name) : Writes setting start
      (Attribute.listTokens attributes ++ visibility.tokens ++ name.tokens) (do
        let _ ← operator ":"
        let type ←
          if unnamed && beginsAnonymous (← ahead) then verbatim (seq [anyWord, ph.tokens .namedFields])
          else ph.tokens (.type true)
        return NamedField.mk attributes visibility name type) fun f us => us = f.tokens := by
    refine (rewrites_mark ":").bind fun _ => Writes.ahead fun _ => Writes.ite (fun _ => ?_) fun _ => ?_
    · exact rewrites_verbatim.bind fun _ => Writes.pure rfl
    · exact (rewrites_phrase rfl).bind fun _ => Writes.pure rfl
  exact Writes.ahead fun _ => Writes.ite (fun _ => rewrites_anyName.bind fun name => hafter _ name)
    fun _ => rewrites_name.bind fun name => hafter _ name

theorem rewrites_positionalField : Rewrites setting (positionalField ph) PositionalField.tokens :=
  .of_writes fun _ => rewrites_outerAttributes.bind fun _ => rewrites_visibility.bind fun _ =>
    (rewrites_phrase rfl).bind fun _ => Writes.pure rfl

theorem rewrites_namedFields : Rewrites setting (namedFields ph) namedTokens :=
  rewrites_namedField.separated.inside

theorem rewrites_positionalFields : Rewrites setting (positionalFields ph) positionalTokens :=
  rewrites_positionalField.separated.inside

/-- The visibility of a variant is left out. -/
theorem rewrites_variant : Rewrites .variants (variant ph) Variant.tokens := by
  have hvisibility : Rewrites .variants visibility fun _ => [] := fun _ _ _ hfound => .visibility hfound
  refine .of_writes fun start => rewrites_outerAttributes.bind fun attributes => hvisibility.bind
    fun _ => rewrites_name.bind fun name => ?_
  -- The number of the variant follows its fields, whatever these are.
  have hafter (fields : Fields) : Writes .variants start
      (Attribute.listTokens attributes ++ name.tokens ++ fields.tokens) (do
        if isOp "=" (← ahead) then
          let _ ← operator "="
          return Variant.mk attributes name fields (some (← ph.tokens (.expression true)))
        else return ⟨attributes, name, fields, none⟩) fun v us => us = v.tokens := by
    refine Writes.ahead fun _ => Writes.ite (fun _ => ?_) fun _ => Writes.pure (List.append_nil _).symm
    exact (rewrites_mark "=").bind fun _ => (rewrites_phrase rfl).bind fun _ =>
      Writes.pure (List.append_assoc _ _ _)
  rw [List.nil_append, List.append_nil]
  refine Writes.ahead fun _ => Writes.ite (fun _ => ?_) fun _ => Writes.ite (fun _ => ?_) fun _ => ?_
  · have hnamed : Rewrites .variants (Fields.named <$> namedFields ph) Fields.tokens :=
      rewrites_namedFields.map fun _ => rfl
    exact hnamed.bind hafter
  · have hpositional : Rewrites .variants (Fields.positional <$> positionalFields ph) Fields.tokens :=
      rewrites_positionalFields.map fun _ => rfl
    exact hpositional.bind hafter
  · have hunit := hafter .unit
    rw [Fields.tokens, List.append_nil] at hunit
    exact Writes.pure_bind hunit

/-! ## Definitions -/

theorem rewrites_structBody : Rewrites setting (structBody ph) fun r =>
    r.2.bodyTokens ((r.1.map WhereClause.tokens).getD []) := by
  refine .of_writes fun start => rewrites_whereClause?.bind fun condition => Writes.ahead fun ts =>
    Writes.ite (fun hparen => ?_) fun _ => Writes.ite (fun _ => ?_) fun _ => Writes.ite (fun _ => ?_)
      fun _ => Writes.ite (fun _ => Writes.expected _) fun _ => Writes.expected _
  · -- In front of parentheses there is no clause.
    obtain ⟨hnone, -⟩ := Bool.and_eq_true_iff.1 hparen
    obtain rfl := Option.isNone_iff_eq_none.1 hnone
    refine rewrites_positionalFields.bind fun fields => rewrites_whereClause?.bind fun condition =>
      Writes.ahead fun _ => Writes.ite (fun _ => ?_) fun _ => Writes.ite (fun _ => Writes.expected _)
        fun _ => Writes.expected _
    exact (rewrites_mark ";").bind fun _ => Writes.pure rfl
  · exact rewrites_namedFields.bind fun _ => Writes.pure rfl
  · exact (rewrites_mark ";").bind fun _ => Writes.pure rfl

theorem rewrites_structItem (attributes : List Attribute) (start : List Token) :
    Writes setting start (Attribute.listTokens attributes) (structItem ph attributes)
      fun s us => us = s.tokens :=
  rewrites_visibility.bind fun _ => (rewrites_itemKeyword "struct").bind fun _ =>
    rewrites_name.bind fun _ => rewrites_generics.bind fun _ => rewrites_structBody.bind fun _ =>
      Writes.pure rfl

theorem rewrites_unionItem (attributes : List Attribute) (start : List Token) :
    Writes setting start (Attribute.listTokens attributes) (unionItem ph attributes)
      fun u us => us = u.tokens := by
  have hbody : Rewrites setting (unionBody ph) fun r =>
      (r.1.map WhereClause.tokens).getD [] ++ namedTokens r.2 :=
    .of_writes fun _ => rewrites_whereClause?.bind fun _ => rewrites_namedFields.bind fun _ =>
      Writes.pure rfl
  exact rewrites_visibility.bind fun _ => (rewrites_itemKeyword "union").bind fun _ =>
    rewrites_name.bind fun _ => rewrites_generics.bind fun _ => hbody.bind fun _ =>
      Writes.pure (List.append_assoc _ _ _).symm

omit [∀ phrase, Passes (ph phrase)] in
/-- A keyword, a name and parameters introduce a group, with whatever may stand in front of the group. -/
theorem rewritten_introduced {inner : Setting} {word : String} {d : Delimiter} {span first last : Span}
    {names params before group content us vs : List Token} {name : Name} {g : Generics}
    (h : inner.introduction = some (word, d))
    (hname : Finds Parser.name names (params ++ (before ++ (group ++ rest))) name)
    (hparams : Finds (generics ph) params (before ++ (group ++ rest)) g)
    (hwhole : Whole before) (hbefore : Rewritten .plain before (group ++ rest) us)
    (hgroup : group = ⟨.opening d, first⟩ :: content ++ [⟨.closing d, last⟩])
    (hinside : Rewritten inner content (⟨.closing d, last⟩ :: rest) vs) :
    Rewritten setting (Name.tokens ⟨word, span⟩ ++ (names ++ (params ++ (before ++ group)))) rest
      (Name.tokens ⟨word, span⟩ ++ (name.tokens ++ (g.tokens ++ (us ++ Generated.group d vs)))) := by
  have hlater := hparams.whole.append hwhole
  have hhead : Rewritten .plain (Name.tokens ⟨word, span⟩ ++ (names ++ (params ++ before))) (group ++ rest)
      (Name.tokens ⟨word, span⟩ ++ (name.tokens ++ (g.tokens ++ us))) := by
    have hword : Whole (Name.tokens ⟨word, span⟩) := .leaf _ (by simp) rfl
    refine .append hword (hname.whole.append hlater) (.same rfl)
      (.append hname.whole hlater ?_ (.append hparams.whole hwhole (rewrites_generics _ _ _ hparams) hbefore))
    simpa only [List.append_assoc] using rewrites_name _ _ _ hname
  subst hgroup
  have hboth := @Rewritten.introduced setting inner word d span first last .outside .outside
    (names ++ (params ++ before)) content rest _ vs h hhead hinside
  simpa only [Name.tokens, Generated.group, List.append_assoc, List.cons_append, List.nil_append] using hboth

/-- The variants of an enum stand in its braces. -/
theorem rewrites_enumItem (attributes : List Attribute) (start : List Token) :
    Writes setting start (Attribute.listTokens attributes) (enumItem ph attributes)
      fun e us => us = e.tokens := by
  refine rewrites_visibility.bind fun visibility => ?_
  intro read ts rest e _ hread hwritten hfound
  have hwhole := hfound.whole
  obtain ⟨keyword, _, us, rfl, hkeyword, h₁⟩ := hfound.bind
  obtain ⟨span, rfl, rfl⟩ := stands_itemKeyword hkeyword
  obtain ⟨name, _, us, rfl, hname, h₂⟩ := h₁.bind
  obtain ⟨params, _, us, rfl, hparams, h₃⟩ := h₂.bind
  obtain ⟨r, rfl, hbody⟩ := h₃.bind_pure
  obtain ⟨condition, _, us, rfl, hcondition, h₄⟩ := hbody.bind
  obtain ⟨variants, rfl, hbraces⟩ := h₄.bind_pure
  obtain ⟨first, last, content, hgroup, hcontent⟩ := hbraces.inside
  simp only [List.append_assoc] at hname hparams
  refine ⟨_, ?_, .append hread hwhole hwritten (rewritten_introduced rfl hname hparams hcondition.whole
    (rewrites_whereClause? _ _ _ hcondition) hgroup (rewrites_variant.separated _ _ _ hcontent))⟩
  simp only [EnumItem.tokens, List.append_assoc]
  rfl

/-! ## Functions -/

theorem rewrites_receiver : Rewrites setting (receiver ph) fun r => r.1 := by
  have hreference : Rewrites setting (when? (isOp "&") (seq [operator "&", when? isLifetime lifetime])) id :=
    ((rewrites_operator "&").seq_cons (rewrites_lifetime.when?.seq_cons .seq_nil)).when?
  have htype : Rewrites setting (when? (isOp ":") (seq [operator ":", ph.tokens (.type true)])) id :=
    (rewrites_marked ":" rfl).when?
  refine .of_writes fun _ => hreference.bind fun reference => (rewrites_keyword? "mut").bind fun _ =>
    Writes.here fun _ => (rewrites_keyword "self").bind fun _ => Writes.ite (fun _ => ?_) fun _ => ?_
  · exact htype.bind fun _ => Writes.pure rfl
  · exact Writes.pure_bind (Writes.pure (List.append_nil _).symm)

/-- An argument that is a type alone gets a name. -/
theorem writes_typedArgument (attributes : List Attribute) (start : List Token) :
    Writes .arguments start (Attribute.listTokens attributes) (typedArgument ph attributes)
      fun a us => us = a.tokens := by
  intro read ts rest a hstart hread hwritten hfound
  rcases hfound.ahead.ite with ⟨hpath, h₁⟩ | ⟨-, h₁⟩
  · obtain ⟨_, rfl, htype⟩ := h₁.bind_pure
    obtain ⟨f, rfl, hf⟩ := htype.bind_pure
    refine ⟨_, ?_, .append hread hfound.whole hwritten (.argument (Extends.finds hf) hpath)⟩
    simp only [Argument.tokens, List.append_assoc]
  · have hnamed : Writes .arguments start (Attribute.listTokens attributes) (do
        let pattern ← ph.tokens .pattern
        let colon ← operator ":"
        if isOp "..." (← ahead) then
          let _ ← operator "..."
          return Argument.variadic attributes (pattern ++ colon)
        else return .typed attributes pattern (← ph.tokens (.type true))) fun a us => us = a.tokens := by
      refine (rewrites_phrase rfl).bind fun pattern => Writes.choose ?_ ?_
      · exact (rewrites_operator ":").bind fun colon => (rewrites_mark "...").bind fun _ =>
          Writes.pure (by simp [Argument.tokens])
      · exact (rewrites_mark ":").bind fun _ => (rewrites_phrase rfl).bind fun _ => Writes.pure rfl
    exact hnamed read ts rest a hstart hread hwritten h₁

/-- The first argument may be `self`. -/
theorem rewrites_functionArgument (others : List Argument) :
    Rewrites .arguments (functionArgument ph others) Argument.tokens := by
  refine .of_writes fun start => rewrites_outerAttributes.bind fun attributes => Writes.ahead fun _ =>
    Writes.ite (fun _ => ?_) fun _ => ?_
  · exact (rewrites_mark "...").bind fun _ => Writes.pure (by simp [Argument.tokens])
  intro read ts rest a hstart hread hwritten hfound
  obtain ⟨limit, hself⟩ := hfound.read
  have htyped (h : typedArgument ph attributes ⟨ts ++ rest, none, limit⟩ = .ok (a, ⟨rest, none, limit⟩)) :
      ∃ us, us = a.tokens ∧ Rewritten .arguments (read ++ ts) rest us :=
    writes_typedArgument attributes start read ts rest a hstart hread hwritten
      ⟨hfound.whole, hfound.closed, limit, h⟩
  rw [bind_apply, get_apply] at hself
  dsimp only at hself
  cases hreceiver : receiver ph ⟨ts ++ rest, none, limit⟩ with
  | error e =>
    rw [hreceiver] at hself
    exact htyped hself
  | ok r =>
    obtain ⟨⟨tokens, place⟩, after⟩ := r
    rw [hreceiver] at hself
    by_cases hcolons : isOp "::" after.tokens
    · simp only [hcolons, if_true] at hself
      exact htyped hself
    · simp only [hcolons, Bool.false_eq_true, if_false] at hself
      rw [bind_apply, set_apply] at hself
      dsimp only at hself
      split at hself
      · cases hself
      split at hself
      · cases hself
      cases hself
      have hfirst : Rewritten .arguments ts rest tokens := rewrites_receiver ts rest _
        ⟨hfound.whole, hfound.closed, limit, hreceiver⟩
      exact ⟨_, rfl, .append hread hfound.whole hwritten hfirst⟩

/-- A comma is written where the source has one. -/
theorem writes_trailingComma (start written : List Token) :
    Writes setting start written trailingComma fun comma us =>
      us = written ++ if comma then Generated.operator "," else [] :=
  Writes.ended fun _ => Writes.ite (fun _ => Writes.pure (List.append_nil _).symm) fun _ =>
    (rewrites_mark ",").bind fun _ => Writes.pure rfl

theorem rewrites_functionArguments : Rewrites .arguments (functionArguments ph) fun l =>
    l.tokens (Generated.operator ",") Argument.tokens := by
  refine .of_writes fun start => Writes.loop (fun acc us =>
    us = acc.reverse.flatMap fun a => a.tokens ++ Generated.operator ",") ?_ rfl
  rintro acc _ rfl
  refine Writes.ended fun _ => Writes.ite (fun _ => Writes.pure ?_) fun _ =>
    (rewrites_functionArgument acc).bind fun argument => (writes_trailingComma start _).bind ?_
  · have htrailing := Listed.tokens_trailing (Generated.operator ",") Argument.tokens acc.reverse
    rwa [List.isEmpty_reverse, eq_comm] at htrailing
  rintro comma _ rfl
  have hlast (comma : Bool) : acc.reverse.flatMap (fun a => a.tokens ++ Generated.operator ",")
      ++ argument.tokens ++ (if comma then Generated.operator "," else [])
      = (⟨(argument :: acc).reverse, comma⟩ : Listed Argument).tokens (Generated.operator ",")
        Argument.tokens := by
    rw [List.reverse_cons, Listed.tokens_init, List.append_assoc]
  refine Writes.ite (fun _ => Writes.pure (hlast comma)) fun _ => ?_
  cases comma with
  | true => exact Writes.pure (by simp)
  | false => exact Writes.pure (hlast false)

theorem rewrites_returnType (plus : Bool) : Rewrites setting (returnType ph plus) id :=
  (rewrites_marked "->" rfl).when?

theorem rewrites_abi? : Rewrites setting abi? id :=
  ((rewrites_keyword "extern").seq_cons (rewrites_literal.when?.seq_cons .seq_nil)).when?

/-- The arguments of a function stand in its parentheses. -/
theorem rewrites_signature : Rewrites setting (signature ph) Signature.tokens := by
  have hmodifiers : Rewrites setting (seq [keyword? "const", keyword? "async", keyword? "unsafe", abi?]) id :=
    (rewrites_keyword? "const").seq_cons ((rewrites_keyword? "async").seq_cons
      ((rewrites_keyword? "unsafe").seq_cons (rewrites_abi?.seq_cons .seq_nil)))
  refine .of_writes fun start => hmodifiers.bind fun modifiers => ?_
  intro read ts rest s hstart hread hwritten hfound
  obtain ⟨keyword, _, us, rfl, hkeyword, h₁⟩ := hfound.bind
  obtain ⟨span, rfl, rfl⟩ := stands_itemKeyword hkeyword
  obtain ⟨name, ns, us, rfl, hname, h₂⟩ := h₁.bind
  obtain ⟨params, ps, us, rfl, hparams, h₃⟩ := h₂.bind
  obtain ⟨r, gs, us, rfl, hbracketed, hafter⟩ := h₃.bracketedThen.bind
  obtain ⟨first, last, content, inputs, hgroup, rfl, hcontent⟩ := hbracketed.bracketed
  have hhead : Rewritten setting (Name.tokens ⟨"fn", span⟩ ++ (ns ++ (ps ++ ([] ++ gs)))) (us ++ rest)
      (Name.tokens ⟨"fn", span⟩ ++ (name.tokens ++ (params.tokens ++ ([] ++ Generated.group .parenthesis
        (inputs.tokens (Generated.operator ",") Argument.tokens))))) :=
    rewritten_introduced rfl (by simpa using hname) (by simpa using hparams) .nil (.same rfl) hgroup
      (rewrites_functionArguments _ _ _ hcontent)
  have hwhole : Whole (Name.tokens ⟨"fn", span⟩ ++ (ns ++ (ps ++ ([] ++ gs)))) :=
    hkeyword.whole.append (hname.whole.append (hparams.whole.append hbracketed.whole))
  have hafterwards (written : List Token) : Writes setting start written (do
      let output ← returnType ph true
      let condition ← whereClause? ph
      return Signature.mk modifiers ⟨"fn", span⟩ name { params with whereClause := condition } inputs output)
      fun s us => ∃ output condition,
        s = ⟨modifiers, ⟨"fn", span⟩, name, { params with whereClause := condition }, inputs, output⟩
          ∧ us = written ++ output ++ (condition.map WhereClause.tokens).getD [] :=
    (rewrites_returnType true).bind fun output => rewrites_whereClause?.bind fun condition =>
      Writes.pure ⟨output, condition, rfl, rfl⟩
  have hwritten' := Rewritten.append hread hwhole (by simpa using hwritten) hhead
  obtain ⟨_, ⟨output, condition, rfl, rfl⟩, hall⟩ := hafterwards _ _ us rest s (by simpa using hstart)
    (hread.append hwhole) hwritten' hafter
  refine ⟨_, ?_, by simpa using hall⟩
  simp [Signature.tokens, Generics.whereTokens, Generics.tokens, Generics.ordered]

/-- The statements of a function are written as the grammar writes them. -/
theorem rewrites_functionBody : Rewrites setting (functionBody ph) Block.tokens := by
  intro ts rest b hfound
  obtain ⟨first, last, content, rfl, hcontent⟩ := hfound.inside
  obtain ⟨attributes, as, us, rfl, hattributes, hrest⟩ := hcontent.bind
  obtain ⟨statements, rfl, hstatements⟩ := hrest.bind_pure
  obtain ⟨f, rfl, hf⟩ := hstatements.bind_pure
  exact .block (rewrites_innerAttributes _ _ _ hattributes) (Extends.finds hf)

end Memberwise.Parser
