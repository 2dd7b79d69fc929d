import Memberwise.Proofs.ArgumentGrammar
import Memberwise.Proofs.Equivalence
import Memberwise.Proofs.Groups
import Memberwise.Proofs.HelperScan

/-!
# The name of the function

Arguments are the name of the function and nothing else. However two lists of arguments are written,
what an item expands to with the one differs from what it expands to with the other in at most one
token, the word after `fn` in the implementation. That holds of the attribute and of the derive, which
finds its arguments among the other attributes of the item.

## Main definitions

* `Initializer.beforeName`, `Initializer.afterName`: an implementation around the name of its function
* `Expansion.DifferInName`: expansions that are the same but for that name
* `Arguments.InHelper`, `Arguments.Exchanged`: helper attributes around arguments, and items that
  differ in what theirs is around

## Main statements

* `initializer_rename`: other arguments only give the initializer another name
* `outerAttributes_elsewhere`: attributes are read in front of anything as they are here
* `Exchanged.readDefinition`, `Exchanged.derived`: a definition is read and declares the same, whatever
  its helper attribute is around
* `function_name_only`: the two expansions with any two lists of arguments
-/

namespace Memberwise

open Generated

/-! ## The place of the name -/

namespace Initializer

/-- The implementation up to the name of its function. -/
def beforeName (f : Initializer) : List Token :=
  word "impl" ++ f.generics.implTokens ++ f.selfType.tokens ++ f.generics.argumentTokens
    ++ f.generics.whereTokens ++ [⟨.opening .brace, .outside⟩] ++ allowance ++ f.access.tokens
    ++ word "fn"

/-- The implementation after the name of its function. -/
def afterName (f : Initializer) : List Token :=
  let comma := operator ","
  group .parenthesis (Listed.between comma (f.parameters.map Parameter.tokens))
    ++ operator "->" ++ word "Self"
    ++ group .brace (word "Self"
      ++ group .brace (Listed.between comma (f.assignments.map Assignment.tokens)))
    ++ [⟨.closing .brace, .outside⟩]

/-- The name of the function stands in one place, and neither side of it depends on it. -/
theorem implTokens_rename (f : Initializer) (n : Name) :
    implTokens { f with name := n } = f.beforeName ++ (n.tokens ++ f.afterName) := by
  simp [implTokens, functionTokens, beforeName, afterName, group]

/-- The name comes after `fn`. -/
theorem getLast?_beforeName (f : Initializer) :
    (lexemes f.beforeName).getLast? = some (.ident "fn") := by
  rw [beforeName, lexemes_append]
  exact List.getLast?_concat

end Initializer

/-- Other arguments give the initializer of a declaration another name, and that is all they do. -/
theorem initializer_rename {d : Declaration} (h : d.kind.isProduct) (a b : Arguments) :
    ∃ f, f.name = a.functionName ∧ d.initializer a = .ok f
      ∧ d.initializer b = .ok { f with name := b.functionName } := by
  simp only [Declaration.initializer, Initializer.generate, if_pos h]
  exact ⟨_, rfl, rfl, rfl⟩

/-! ## Expansions that differ in a name -/

/-- A name opens no group and closes none. -/
theorem openAfter_take_ident (groups : List Delimiter) (ls ms : List Lexeme) (m n : String) (k : Nat) :
    openAfter groups ((ls ++ .ident m :: ms).take k) =
      openAfter groups ((ls ++ .ident n :: ms).take k) := by
  rw [List.take_append, List.take_append, openAfter_append, openAfter_append]
  cases k - ls.length with
  | zero => rfl
  | succ j =>
    have hleaf (word : String) (groups : List Delimiter) :
        openAfter groups (.ident word :: ms.take j) = openAfter groups (ms.take j) :=
      openAfter_leaf groups _ _ (by simp) rfl
    simp only [List.take_succ_cons, hleaf]

/-- Where one item of a list is exchanged for another, the lists differ there and nowhere else. -/
theorem getElem?_exchange {α : Type} {a b : α} (hne : a ≠ b) (as bs : List α) (k : Nat) :
    (as ++ a :: bs)[k]? ≠ (as ++ b :: bs)[k]? ↔ k = as.length := by
  obtain hless | rfl | hmore := Nat.lt_trichotomy k as.length
  · simpa [List.getElem?_append_left hless] using Nat.ne_of_lt hless
  · simp [hne]
  · obtain ⟨j, rfl⟩ := Nat.exists_eq_add_of_lt hmore
    simp [List.getElem?_append_right, Nat.add_assoc]

/-- The second expansion is the first with another name for the function: `n`, and not that of `f`.
The item, if it is given back, is the same, and so is the implementation around the name. With the
same name no token differs, and otherwise one does. -/
structure Expansion.DifferInName (f : Initializer) (n : Name) (e e' : Expansion) : Prop where
  outcome : e.outcome = .ok f
  outcome' : e'.outcome = .ok { f with name := n }
  item : e'.item = e.item
  around : lexemes e.tokens
    = lexemes (e.kept ++ f.beforeName) ++ .ident f.name.text :: lexemes f.afterName
  around' : lexemes e'.tokens
    = lexemes (e.kept ++ f.beforeName) ++ .ident n.text :: lexemes f.afterName
  afterFn : (lexemes (e.kept ++ f.beforeName)).getLast? = some (.ident "fn")
  same : f.name.text = n.text → lexemes e.tokens = lexemes e'.tokens
  length : e.tokens.length = e'.tokens.length
  nesting : ∀ k, openAfter [] (lexemes (e.tokens.take k)) = openAfter [] (lexemes (e'.tokens.take k))
  single : f.name.text ≠ n.text → ∀ k,
    (lexemes e.tokens)[k]? ≠ (lexemes e'.tokens)[k]? ↔ k = (e.kept ++ f.beforeName).length

/-- Expansions whose initializers differ in the name, and that give the same item back. -/
theorem Expansion.differInName {f : Initializer} {n : Name} {e e' : Expansion}
    (h : e.outcome = .ok f) (h' : e'.outcome = .ok { f with name := n }) (hitem : e'.item = e.item) :
    DifferInName f n e e' := by
  have haround : lexemes e.tokens
      = lexemes (e.kept ++ f.beforeName) ++ .ident f.name.text :: lexemes f.afterName := by
    rw [tokens, added, h, ← List.singleton_append]
    simp only [f.implTokens_rename f.name, lexemes_append, List.append_assoc]
    rfl
  have haround' : lexemes e'.tokens
      = lexemes (e.kept ++ f.beforeName) ++ .ident n.text :: lexemes f.afterName := by
    rw [tokens, added, h', kept, hitem, ← kept, ← List.singleton_append]
    simp only [f.implTokens_rename n, lexemes_append, List.append_assoc]
    rfl
  refine ⟨h, h', hitem, haround, haround', ?_, fun hsame => ?_, ?_, fun k => ?_, fun hne k => ?_⟩
  · rw [lexemes_append, List.getLast?_append, f.getLast?_beforeName]
    rfl
  · rw [haround, haround', hsame]
  · rw [← length_lexemes, ← length_lexemes, haround, haround']
    simp
  · have htake (ts : List Token) : lexemes (ts.take k) = (lexemes ts).take k := List.map_take
    rw [htake, htake, haround, haround']
    exact openAfter_take_ident _ _ _ _ _ k
  · rw [haround, haround', ← length_lexemes]
    exact getElem?_exchange (by simpa using hne) _ _ k

/-! ## Helper attributes -/

namespace Arguments

/-- The stream is a helper attribute around these arguments, in brackets of any kind. Without
brackets there are none. -/
inductive InHelper : List Token → List Token → Prop
  | bare (spacing : Spacing) (mark start span stop : Span) :
      InHelper [] (⟨.punct '#' spacing, mark⟩ :: (⟨.opening .bracket, start⟩ ::
        [⟨.ident helper, span⟩] ++ [⟨.closing .bracket, stop⟩]))
  | around {arguments : List Token} (whole : Whole arguments) (d : Delimiter) (spacing : Spacing)
      (mark start span first last stop : Span) :
      InHelper arguments (⟨.punct '#' spacing, mark⟩ :: (⟨.opening .bracket, start⟩ ::
        (⟨.ident helper, span⟩ :: (⟨.opening d, first⟩ :: arguments ++ [⟨.closing d, last⟩]))
        ++ [⟨.closing .bracket, stop⟩]))

/-- The items are the same but for what their helper attribute is around. Other attributes may stand
in front of it and after it. -/
inductive Exchanged (arguments arguments' : List Token) : List Token → List Token → Prop
  | intro {parts : List (List Token)} {ts ts' rest : List Token}
      (attributes : ∀ part ∈ parts, ∃ span, Attribute.Reaches part span)
      (left : InHelper arguments ts) (right : InHelper arguments' ts') (whole : Whole rest) :
      Exchanged arguments arguments' (parts.flatten ++ (ts ++ rest)) (parts.flatten ++ (ts' ++ rest))

variable {arguments ts : List Token}

theorem InHelper.reaches (h : InHelper arguments ts) : ∃ span, Attribute.Reaches ts span := by
  cases h with
  | bare spacing mark start span stop => exact ⟨_, _, _, _, _, _, rfl, rfl, rfl⟩
  | around whole d spacing mark start span first last stop =>
    have hword : Whole [⟨.ident helper, span⟩] := rfl
    exact ⟨_, _, _, _, _, _, rfl, hword.append (whole.group d first last), rfl⟩

/-- A helper attribute is read as such, and says what the arguments in it say. -/
theorem InHelper.reads (h : InHelper arguments ts) (rest : List Token) :
    Parser.Reads (Parser.outerAttribute phrases) ts rest fun a => a.isNamed helper = true
      ∧ ∀ b, readArguments arguments = .ok b → ofAttribute a = .ok b := by
  have hfree : isReserved helper = false := by decide
  have hnamed {a : Attribute} {span : Span} (h : a.path = [⟨.ident helper, span⟩]) :
      a.isNamed helper = true :=
    Attribute.isNamed_iff.2 ⟨span, h⟩
  cases h with
  | bare spacing mark start span stop =>
    refine (Parser.reads_wordAttribute_of hfree mark start span stop (Parser.isOp_closing _ _ _ _)
      (Parser.reads_attributeContent_bare stop)).mono ?_
    rintro a ⟨-, hpath, hcontent⟩
    refine ⟨hnamed hpath, fun b hb => ?_⟩
    rw [ofAttribute, hcontent]
    exact hb
  | around whole d spacing mark start span first last stop =>
    refine (Parser.reads_wordAttribute hfree whole d mark start span first last stop).mono ?_
    rintro a ⟨-, hpath, hcontent⟩
    refine ⟨hnamed hpath, fun b hb => ?_⟩
    rw [ofAttribute, hcontent]
    obtain ⟨b', hread, hread'⟩ | ⟨e, -, hread, -⟩ := readArguments_limit arguments last
    · rw [hread] at hb
      cases hb
      exact hread'
    · rw [hread] at hb
      cases hb

end Arguments

/-! ## Attributes in front of others -/

/-- What stands in a sign and a group in square brackets ends with the group. -/
theorem Attribute.Reaches.append_inj {ts us rest rest' : List Token} {span span' : Span}
    (h : Attribute.Reaches ts span) (h' : Attribute.Reaches us span') (heq : ts ++ rest = us ++ rest') :
    ts = us ∧ rest = rest' := by
  obtain ⟨spacing, mark, first, inside, last, rfl, hinside, -⟩ := h
  obtain ⟨spacing', mark', first', inside', last', rfl, hinside', -⟩ := h'
  simp only [List.cons_append, List.append_assoc, List.cons.injEq] at heq
  obtain ⟨hmark, hfirst, heq⟩ := heq
  have hsplit := splitTree_group hinside .bracket first last rest
  have hsplit' := splitTree_group hinside' .bracket first' last' rest'
  simp only [List.cons_append] at hsplit hsplit'
  rw [hfirst] at hsplit
  simp only [List.nil_append] at heq
  rw [heq, hsplit'] at hsplit
  obtain ⟨htree, hrest⟩ := Prod.mk.inj hsplit
  refine ⟨?_, hrest.symm⟩
  rw [hmark, hfirst]
  exact congrArg _ htree.symm

theorem Attribute.Reaches.whole {ts : List Token} {span : Span} (h : Attribute.Reaches ts span) :
    Whole ts := by
  obtain ⟨spacing, mark, first, inside, last, rfl, hinside, -⟩ := h
  exact (Whole.leaf ⟨.punct '#' spacing, mark⟩ (by simp) rfl).append
    (hinside.group .bracket first last)

/-- Whole streams, one after the other, are whole. -/
theorem whole_flatten {parts : List (List Token)} (h : ∀ part ∈ parts, Whole part) :
    Whole parts.flatten := by
  induction parts with
  | nil => exact .nil
  | cons part parts ih =>
    exact (h part List.mem_cons_self).append (ih fun part hpart => h part (List.mem_cons_of_mem _ hpart))

namespace Parser

/-- An attribute that stands in front of the stream is read, and then what comes after it. -/
theorem outerAttributes_of_reaches {part us : List Token} {span limit : Span} {as : List Attribute}
    {d : Cursor} (hpart : Attribute.Reaches part span) (hclosed : Closed (part ++ us))
    (hread : outerAttributes phrases ⟨part ++ us, none, limit⟩ = .ok (as, d))
    (hleft : d.leftover = none) :
    ∃ a bs, as = a :: bs ∧ outerAttribute phrases ⟨part ++ us, none, limit⟩ = .ok (a, ⟨us, none, limit⟩)
      ∧ outerAttributes phrases ⟨us, none, limit⟩ = .ok (bs, d) := by
  have hstop : (!isOp "#" (part ++ us)) = false := by
    obtain ⟨spacing, mark, first, inside, last, rfl, -, -⟩ := hpart
    rfl
  rw [outerAttributes, repeatUntil_eq, loop_eq, repeatRound_apply] at hread
  simp only [hstop, Bool.false_eq_true, if_false] at hread
  cases hitem : outerAttribute phrases ⟨part ++ us, none, limit⟩ with
  | error e => simp [hitem] at hread
  | ok r =>
    obtain ⟨a, rest⟩ := r
    simp only [hitem] at hread
    split at hread
    · rw [loop_repeatRound, map_apply] at hread
      cases hmore : repeatUntil (!isOp "#" ·) (outerAttribute phrases) rest with
      | error e => simp [hmore] at hread
      | ok r =>
        obtain ⟨bs, d'⟩ := r
        simp only [hmore] at hread
        cases hread
        -- Nothing is left over in the end, so nothing was after the first attribute.
        obtain ⟨hnone, -⟩ := (inferInstance : Passes (outerAttributes phrases)).spends rest _ _ hmore hleft
        obtain ⟨-, hspent⟩ := (inferInstance : Passes (outerAttribute phrases)).spends _ _ _ hitem hnone
        obtain ⟨hlimit, vs, hvs, hwhole, -⟩ := hspent hclosed
        obtain ⟨ts, left, limit'⟩ := rest
        obtain rfl : left = none := hnone
        obtain rfl : limit' = limit := hlimit
        have hvs : part ++ us = vs ++ ts := hvs
        have hfinds : Finds (outerAttribute phrases) vs ts a :=
          ⟨hwhole, (hvs ▸ hclosed).of_append hwhole, limit', hvs ▸ hitem⟩
        obtain ⟨-, rfl⟩ := hpart.append_inj (reaches_outerAttribute hfinds) hvs
        exact ⟨a, bs, rfl, rfl, hmore⟩
    · cases hread

/-- After an attribute the others are read. -/
theorem outerAttributes_cons {part us : List Token} {span limit : Span} {a : Attribute}
    {as : List Attribute} {d : Cursor} (hpart : Attribute.Reaches part span)
    (ha : outerAttribute phrases ⟨part ++ us, none, limit⟩ = .ok (a, ⟨us, none, limit⟩))
    (has : outerAttributes phrases ⟨us, none, limit⟩ = .ok (as, d)) :
    outerAttributes phrases ⟨part ++ us, none, limit⟩ = .ok (a :: as, d) := by
  obtain ⟨spacing, mark, first, inside, last, rfl, -, -⟩ := hpart
  rw [outerAttributes, repeatUntil_step rfl ha (by simp; omega), map_apply, ← outerAttributes, has]

/-- An attribute is read in front of anything. -/
theorem outerAttribute_elsewhere {ts rest rest' : List Token} {a : Attribute}
    (h : Finds (outerAttribute phrases) ts rest a) (hrest : Whole rest') (limit : Span) :
    outerAttribute phrases ⟨ts ++ rest', none, limit⟩ = .ok (a, ⟨rest', none, limit⟩) := by
  obtain ⟨spacing, mark, us, opening, closing, rfl, ha, hbracketed⟩ := finds_outerAttribute h
  have hread := bracketed_elsewhere hbracketed hrest limit
  have hsign : operator "#" ⟨⟨.punct '#' spacing, mark⟩ :: us ++ rest', none, limit⟩
      = .ok ([⟨.punct '#' .alone, mark⟩], ⟨us ++ rest', none, limit⟩) := rfl
  rw [outerAttribute, bind_apply, here_apply]
  dsimp only
  rw [bind_apply, hsign]
  dsimp only
  rw [attributeBody, bind_apply, hread]
  exact congrArg (fun a => Except.ok (a, Cursor.mk rest' none limit)) ha.symm

/-- Attributes that stand in front of the stream are read, and then what comes after them. -/
theorem outerAttributes_elsewhere {parts : List (List Token)} {us us' : List Token} {limit : Span}
    {as : List Attribute} {d : Cursor}
    (hparts : ∀ part ∈ parts, ∃ span, Attribute.Reaches part span)
    (hclosed : Closed us) (hwhole : Whole us')
    (hread : outerAttributes phrases ⟨parts.flatten ++ us, none, limit⟩ = .ok (as, d))
    (hleft : d.leftover = none) :
    ∃ front bs, as = front ++ bs ∧ outerAttributes phrases ⟨us, none, limit⟩ = .ok (bs, d)
      ∧ ∀ bs' d', outerAttributes phrases ⟨us', none, limit⟩ = .ok (bs', d') →
        outerAttributes phrases ⟨parts.flatten ++ us', none, limit⟩ = .ok (front ++ bs', d') := by
  induction parts generalizing as with
  | nil => exact ⟨[], as, rfl, hread, fun _ _ h => h⟩
  | cons part parts ih =>
    obtain ⟨span, hpart⟩ := hparts part List.mem_cons_self
    have hparts : ∀ part ∈ parts, ∃ span, Attribute.Reaches part span :=
      fun part h => hparts part (List.mem_cons_of_mem _ h)
    have hfront : Whole parts.flatten := whole_flatten fun part h => (hparts part h).elim
      fun _ h => h.whole
    rw [List.flatten_cons, List.append_assoc] at hread
    have hrest := hfront.append_closed hclosed
    obtain ⟨a, bs, rfl, ha, hmore⟩ :=
      outerAttributes_of_reaches hpart (hpart.whole.append_closed hrest) hread hleft
    obtain ⟨front, bs, rfl, hbs, helsewhere⟩ := ih hparts hmore
    refine ⟨a :: front, bs, rfl, hbs, fun bs' d' h => ?_⟩
    have ha' := outerAttribute_elsewhere ⟨hpart.whole, hrest, limit, ha⟩ (hfront.append hwhole) limit
    rw [List.flatten_cons, List.append_assoc]
    exact outerAttributes_cons hpart ha' (helsewhere bs' d' h)

end Parser

/-! ## Items with a helper attribute -/

namespace Arguments

/-- Items that are the same but for what their helper attribute is around are read as definitions that
are the same but for that attribute. It says what the arguments in it say. -/
theorem Exchanged.readDefinition {arguments' item item' : List Token} {d : Definition}
    (h : Exchanged arguments arguments' item item') (hread : readDefinition item = .ok d) :
    ∃ front back x y, d.attributes = front ++ x :: back
      ∧ readDefinition item' = .ok { d with attributes := front ++ y :: back }
      ∧ x.isNamed helper = true ∧ y.isNamed helper = true
      ∧ (∀ a, readArguments arguments = .ok a → ofAttribute x = .ok a)
      ∧ ∀ b, readArguments arguments' = .ok b → ofAttribute y = .ok b := by
  obtain @⟨parts, ts, ts', rest, hparts, left, right, hwhole⟩ := h
  obtain ⟨e, hrun, hleft, hend⟩ := Parser.parseAll_eq_ok.1 hread
  obtain ⟨as, c, hattributes, hdefinition⟩ := Parser.bind_eq_ok.1 hrun
  obtain rfl := Parser.attributes_of_definition hdefinition
  obtain ⟨hnone, -⟩ :=
    (inferInstance : Parser.Passes (Parser.definition phrases d.attributes)).spends c _ _ hdefinition hleft
  obtain ⟨span, hreaches⟩ := left.reaches
  obtain ⟨span', hreaches'⟩ := right.reaches
  have hclosed : Closed (ts ++ rest) := (hreaches.whole.append hwhole).closed
  obtain ⟨front, bs, hfront, hbs, helsewhere⟩ := Parser.outerAttributes_elsewhere hparts hclosed
    (hreaches'.whole.append hwhole) hattributes hnone
  obtain ⟨x, back, rfl, hx, hback⟩ := Parser.outerAttributes_of_reaches hreaches hclosed hbs hnone
  obtain ⟨x', hx', hnamed, harguments⟩ := left.reads rest none .outside
  obtain ⟨y, hy, hnamed', harguments'⟩ := right.reads rest none .outside
  obtain rfl : x' = x := by
    rw [hx] at hx'
    cases hx'
    rfl
  have hattributes' := helsewhere _ _ (Parser.outerAttributes_cons hreaches' hy hback)
  refine ⟨front, back, x', y, hfront, ?_, hnamed, hnamed', harguments, harguments'⟩
  refine Parser.parseAll_eq_ok.2 ⟨e, Parser.bind_eq_ok.2 ⟨_, _, hattributes', ?_⟩, hleft, hend⟩
  rw [Parser.definition_attributes d.attributes, Parser.map_apply, hdefinition]

end Arguments

/-- The item is read as a struct that has an initializer, with one helper attribute. -/
structure Definition.DerivedFrom (item : List Token) (d : Definition) : Prop where
  read : readDefinition item = .ok d
  buildable : d.item.Buildable
  single : ∃ a, d.attributes.filter (·.isNamed Arguments.helper) = [a]

/-- A test of what is read shows that there is such a struct. -/
theorem Definition.derivedFrom_of_any {item : List Token}
    (h : (readDefinition item).toOption.any (fun d => d.declaration.kind.isProduct
      && (d.attributes.filter (·.isNamed Arguments.helper)).length == 1) = true) :
    ∃ d : Definition, d.DerivedFrom item := by
  obtain ⟨d, hread, htest⟩ := readDefinition_of_any h
  rw [Bool.and_eq_true, beq_iff_eq] at htest
  exact ⟨d, hread, (isProduct_iff_buildable_item d).1 htest.1, List.length_eq_one_iff.1 htest.2⟩

open Arguments in
/-- Where an item is read as a struct that has an initializer, so is one that is the same but for what
its helper attribute is around. Both declare the same, and each has the arguments in its own. -/
theorem Arguments.Exchanged.derived {arguments arguments' item item' : List Token}
    (h : Exchanged arguments arguments' item item') {d : Definition} (hd : d.DerivedFrom item)
    {a b : Arguments} (ha : readArguments arguments = .ok a) (hb : readArguments arguments' = .ok b) :
    ∃ d' : Definition, d'.DerivedFrom item' ∧ d'.declaration = d.declaration
      ∧ ofAttributes d.attributes = .ok a ∧ ofAttributes d'.attributes = .ok b := by
  obtain ⟨front, back, x, y, hfront, hread, hx, hy, hxread, hyread⟩ := h.readDefinition hd.read
  obtain ⟨only, hsingle⟩ := hd.single
  -- No other attribute is one of the helper.
  have hother : front.filter (·.isNamed helper) = [] ∧ back.filter (·.isNamed helper) = [] := by
    rw [hfront, List.filter_append, List.filter_cons_of_pos hx] at hsingle
    obtain ⟨hnil, hlast⟩ | ⟨-, hnil⟩ := List.append_eq_singleton_iff.1 hsingle
    · exact ⟨hnil, (List.cons.inj hlast).2⟩
    · cases hnil
  have hfilter (z : Attribute) (hz : z.isNamed helper = true) :
      (front ++ z :: back).filter (·.isNamed helper) = [z] := by
    rw [List.filter_append, List.filter_cons_of_pos hz, hother.1, hother.2, List.nil_append]
  refine ⟨{ d with attributes := front ++ y :: back }, ⟨hread, ?_, y, hfilter y hy⟩, rfl, ?_, ?_⟩
  · exact (isProduct_iff_buildable_item _).1 ((isProduct_iff_buildable_item d).2 hd.buildable)
  · rw [hfront, ofAttributes_single (hfilter x hx), hxread a ha]
  · rw [ofAttributes_single (hfilter y hy), hyread b hb]

/-! ## Both expansions -/

open Arguments Expansion in
/-- Arguments say the name of the function, as their grammar has it, and nothing else. With any two
lists of arguments the attribute expands a struct to the same tokens, up to that name, and so does a
derive with the one or the other in the helper attribute, wherever that stands among others. What is a
struct with the one is a struct with the other. -/
theorem function_name_only {arguments arguments' : List Token} (hwhole : Whole arguments)
    (hwhole' : Whole arguments') {a b : Arguments} (ha : readArguments arguments = .ok a)
    (hb : readArguments arguments' = .ok b) :
    (Grammar arguments a ∧ Grammar arguments' b)
      ∧ (∀ item i, readItem item = .ok i → i.Buildable →
        ∃ f, f.name = a.functionName ∧ DifferInName f b.functionName
          (expandAttribute arguments item) (expandAttribute arguments' item))
      ∧ ∀ (item item' : List Token) (d : Definition), Exchanged arguments arguments' item item' →
        d.DerivedFrom item → (∃ d' : Definition, d'.DerivedFrom item')
          ∧ ∃ f, f.name = a.functionName ∧ DifferInName f b.functionName
            (expandDerive item) (expandDerive item') := by
  refine ⟨⟨(parseAll_arguments_eq_ok hwhole).1 ha, (parseAll_arguments_eq_ok hwhole').1 hb⟩, ?_, ?_⟩
  · intro item i hread hbuildable
    obtain ⟨f, hname, hf, hf'⟩ :=
      initializer_rename ((isProduct_iff_buildable i).2 hbuildable) a b
    refine ⟨f, hname, differInName ?_ ?_ ?_⟩
    · simp only [expandAttribute, hread, ha]
      exact hf
    · simp only [expandAttribute, hread, hb]
      exact hf'
    · simp only [expandAttribute, hread]
  · intro item item' d hexchanged hd
    obtain ⟨d', hd', hdeclaration, hattributes, hattributes'⟩ := hexchanged.derived hd ha hb
    obtain ⟨f, hname, hf, hf'⟩ :=
      initializer_rename ((isProduct_iff_buildable_item d).2 hd.buildable) a b
    refine ⟨⟨d', hd'⟩, f, hname, differInName ?_ ?_ rfl⟩
    · simp only [expandDerive, hd.read, bind, Except.bind, hattributes]
      exact hf
    · simp only [expandDerive, hd'.read, bind, Except.bind, hattributes', hdeclaration]
      exact hf'

/-- For `struct Point { x: u8 }`, with the arguments `name = build` and with none, and for the derive
with `#[derive(Debug)]` in front of the helper attribute. -/
theorem function_name_only_point :
    let arguments := word "name" ++ operator "=" ++ word "build"
    let item := word "struct" ++ word "Point" ++ group .brace (word "x" ++ operator ":" ++ word "u8")
    let derived (content : List Token) := operator "#"
      ++ group .bracket (word "derive" ++ group .parenthesis (word "Debug"))
      ++ (operator "#" ++ group .bracket (word "init" ++ content) ++ item)
    (∃ f, f.name.text = "build" ∧ Expansion.DifferInName f ⟨"new", .outside⟩
        (expandAttribute arguments item) (expandAttribute [] item))
      ∧ ∃ f, f.name.text = "build" ∧ Expansion.DifferInName f ⟨"new", .outside⟩
        (expandDerive (derived (group .parenthesis arguments))) (expandDerive (derived [])) := by
  intro arguments item derived
  have hwhole : Whole arguments := by decide
  obtain ⟨-, hattribute, hderive⟩ := @function_name_only arguments [] hwhole rfl
    ⟨some ⟨"build", .outside⟩⟩ {} rfl rfl
  constructor
  · obtain ⟨d, hread, htest⟩ :=
      @readDefinition_of_any item (·.declaration.kind.isProduct) (by decide +kernel)
    obtain ⟨f, hname, hdiffer⟩ := hattribute item d.item (readItem_eq_definition.2 hread)
      ((isProduct_iff_buildable_item d).1 htest)
    exact ⟨f, by rw [hname]; rfl, hdiffer⟩
  · have hreaches : Attribute.Reaches (operator "#"
        ++ group .bracket (word "derive" ++ group .parenthesis (word "Debug"))) .outside :=
      ⟨_, _, _, _, _, rfl, by decide, rfl⟩
    have hexchanged : Arguments.Exchanged arguments [] (derived (group .parenthesis arguments))
        (derived []) :=
      @Arguments.Exchanged.intro _ _ [_] _ _ item
        (fun part hpart => ⟨.outside, List.mem_singleton.1 hpart ▸ hreaches⟩)
        (.around hwhole .parenthesis .alone .outside .outside .outside .outside .outside .outside)
        (.bare .alone .outside .outside .outside .outside) (by decide)
    obtain ⟨d, hd⟩ := @Definition.derivedFrom_of_any (derived (group .parenthesis arguments))
      (by decide +kernel)
    obtain ⟨-, f, hname, hdiffer⟩ := hderive _ _ d hexchanged hd
    exact ⟨f, by rw [hname]; rfl, hdiffer⟩

end Memberwise
