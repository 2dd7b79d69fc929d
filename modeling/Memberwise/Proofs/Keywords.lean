import Memberwise.Proofs.Members

/-!
# The keyword of an item

An item is told by its keyword, which is the place where an error about its kind is reported. The same
word can stand elsewhere in the item as well, so the statements here say where the keyword is: behind
the attributes, the visibility and the modifiers, none of which is that word, and in front of the name
and of all else. An item without a name is called by its keyword. A macro call has no keyword and is
told by the path of the macro, and an item that is kept as it is by all of its tokens.

## Main definitions

* `modifierWords`, `ModifiersStand`: what may stand between the visibility and the keyword
* `Introduced`: where the keyword stands in an item
* `Item.Told`: where the declaration of an item says that its kind is told

## Main statements

* `ModifiersStand.not_mem`: no modifier is the keyword
* `told_functionItem` and the like: where each reader finds the keyword
* `keyword_told`: what is told of any item, and where an item of the wrong kind is reported
-/

namespace Memberwise

/-! ## Where a keyword stands -/

/-- The words that may stand between the visibility and the keyword of an item, in their order. -/
def modifierWords : String → List String
  | "fn" => ["const", "async", "unsafe"]
  | "trait" => ["unsafe", "auto"]
  | "impl" => ["default", "unsafe"]
  | "mod" => ["unsafe"]
  | "extern" => ["unsafe"]
  | _ => []

/-- The modifiers of an item: some of its words, and in front of `fn` the calling convention. -/
def ModifiersStand (keyword : String) (ts : List Token) : Prop :=
  ∃ words convention, ts = words ++ convention
    ∧ (lexemes words).Sublist ((modifierWords keyword).map .ident)
    ∧ (convention = [] ∨ keyword = "fn" ∧ (lexemes convention = [.ident "extern"]
      ∨ ∃ text, lexemes convention = [.ident "extern", .literal text]))

/-- The keyword stands in `ts`, in front of `after`: behind a visibility and modifiers, none of which
is the same word. -/
def Introduced (ts rest : List Token) (v : Visibility) (keyword : Name) (after : List Token) : Prop :=
  ∃ visibility modifiers, ts = visibility ++ (modifiers ++ (keyword.tokens ++ after))
    ∧ Parser.Finds Parser.visibility visibility (modifiers ++ (keyword.tokens ++ after) ++ rest) v
    ∧ ModifiersStand keyword.text modifiers ∧ .ident keyword.text ∉ lexemes modifiers

/-! ## What a declaration tells -/

namespace Declaration

/-- The word for the kind, at its place. -/
def keyword (d : Declaration) : Name := ⟨d.kind.word, d.keywordSpan⟩

/-- The keyword stands in front of the name, which may be that of a mutable variable. -/
def ToldWithName (d : Declaration) (ts rest : List Token) : Prop :=
  ∃ v mutability after, Introduced ts rest v d.keyword (mutability ++ (d.name.tokens ++ after))
    ∧ d.access = v.access
    ∧ (mutability = [] ∨ d.kind.word = "static" ∧ lexemes mutability = [.ident "mut"])
    ∧ d.kind.word ∈ ["struct", "enum", "union", "trait", "type", "fn", "mod", "const", "static"]

/-- The keyword stands for a name as well, and nothing else is told. -/
def ToldWithoutName (d : Declaration) (ts rest : List Token) : Prop :=
  ∃ v after, Introduced ts rest v d.keyword after
    ∧ d.name = d.keyword ∧ d.access = .limited ∧ d.generics = .none ∧ d.members = []
    ∧ d.kind.word ∈ ["impl", "use", "extern"]

/-- The kind is told by the path of a macro, which stands in front of an exclamation mark. -/
def ToldByPath (d : Declaration) (ts rest shown : List Token) : Prop :=
  ∃ path mark after, ts = path ++ (mark ++ after)
    ∧ Parser.Finds Parser.modPath path (mark ++ after ++ rest) shown ∧ texts mark = ["!"]
    ∧ d.keywordSpan = spanOf path .outside

end Declaration

/-- Where the kind of an item is told, which stands in `ts` behind `front`. -/
def Item.Told (front ts rest : List Token) (i : Item) : Prop :=
  match i with
  | .struct _ | .enum _ | .union _ | .trait _ | .traitAlias _ | .typeAlias _ | .function _
    | .module _ | .constant _ | .static _ => i.declaration.ToldWithName ts rest
  | .implementation _ | .use _ | .externCrate _ | .foreign _ => i.declaration.ToldWithoutName ts rest
  | .macroCall shown _ => i.declaration.ToldByPath ts rest shown
  | .verbatim _ => i.declaration.keywordSpan = spanOf (front ++ ts) .outside

theorem ModifiersStand.nil {keyword : String} : ModifiersStand keyword [] :=
  ⟨[], [], rfl, List.nil_sublist _, .inl rfl⟩

theorem ModifiersStand.of_words {keyword : String} {ts : List Token}
    (h : (lexemes ts).Sublist ((modifierWords keyword).map .ident)) : ModifiersStand keyword ts :=
  ⟨ts, [], (List.append_nil ts).symm, h, .inl rfl⟩

/-- No modifier is the keyword. -/
theorem ModifiersStand.not_mem {keyword : String} {ts : List Token} (h : ModifiersStand keyword ts) :
    .ident keyword ∉ lexemes ts := by
  obtain ⟨words, convention, rfl, hwords, hconvention⟩ := h
  rw [lexemes_append, List.mem_append]
  rintro (hmem | hmem)
  · have hmem : Lexeme.ident keyword ∈ (modifierWords keyword).map .ident := hwords.subset hmem
    unfold modifierWords at hmem
    split at hmem <;> simp at hmem
  · obtain rfl | ⟨rfl, hconvention | ⟨text, hconvention⟩⟩ := hconvention
    · cases hmem
    · simp [hconvention] at hmem
    · simp [hconvention] at hmem

namespace Parser

variable {front ts rest us outer : List Token} {i : Item}

-- A rule counts once for each step that it is nested in, so long parsers need many.
set_option synthInstance.maxSize 2000

/-! ## Keywords and modifiers -/

theorem stands_keyword? {text : String} (h : Finds (keyword? text) ts rest us) :
    ts = [] ∨ ∃ span, ts = [⟨.ident text, span⟩] := by
  rcases h.ahead.ite with ⟨hword, h⟩ | ⟨-, h⟩
  · obtain ⟨span, after, hafter⟩ := isWord_iff.1 hword
    obtain ⟨limit, hread⟩ := h.read
    have hrest : after = rest := by
      simp only [take_apply, hafter, Except.ok.injEq, Prod.mk.injEq, Cursor.mk.injEq] at hread
      exact hread.2.1
    subst hrest
    exact .inr ⟨span, (List.append_left_inj after).1 hafter⟩
  · exact .inl h.pure.1

/-- The word or nothing. -/
theorem stands_oneWord {text : String} (h : Finds (keyword? text) ts rest us) :
    (lexemes ts).Sublist [.ident text] := by
  obtain rfl | ⟨span, rfl⟩ := stands_keyword? h
  · exact List.nil_sublist _
  · exact List.Sublist.refl _

theorem Finds.seq_cons {p : Parser (List Token)} {ps : List (Parser (List Token))} [Passes p]
    [Passes (seq ps)] (h : Finds (seq (p :: ps)) ts rest us) :
    ∃ a b vs ws, ts = vs ++ ws ∧ Finds p vs (ws ++ rest) a ∧ Finds (seq ps) ws rest b := by
  obtain ⟨a, vs, ws, rfl, hfirst, h⟩ := h.bind
  obtain ⟨b, -, hothers⟩ := h.bind_pure
  exact ⟨a, b, vs, ws, rfl, hfirst, hothers⟩

instance passes_words (words : List String) (ps : List (Parser (List Token))) [Passes (seq ps)] :
    Passes (seq (words.map keyword? ++ ps)) := by
  induction words with
  | nil => assumption
  | cons word words ih => exact Passes.seq_cons _ _

/-- Some of the words stand in front of what is read after them. -/
theorem stands_words {words : List String} {ps : List (Parser (List Token))} [Passes (seq ps)]
    (h : Finds (seq (words.map keyword? ++ ps)) ts rest us) :
    ∃ vs ws b, ts = vs ++ ws ∧ (lexemes vs).Sublist (words.map .ident)
      ∧ Finds (seq ps) ws rest b := by
  induction words generalizing ts us with
  | nil => exact ⟨[], ts, us, rfl, .slnil, h⟩
  | cons word words ih =>
    obtain ⟨a, b, vs, ws, rfl, hword, hmore⟩ := @Finds.seq_cons _ _ _ _ _ _ (passes_words words ps) h
    obtain ⟨xs, ys, c, rfl, hwords, hlast⟩ := ih hmore
    refine ⟨vs ++ xs, ys, c, (List.append_assoc _ _ _).symm, ?_, hlast⟩
    rw [lexemes_append]
    exact (stands_oneWord hword).append hwords

/-- Nothing but words. -/
theorem stands_onlyWords {words : List String} (h : Finds (seq (words.map keyword?)) ts rest us) :
    (lexemes ts).Sublist (words.map .ident) := by
  rw [← List.append_nil (words.map keyword?)] at h
  obtain ⟨vs, ws, b, rfl, hwords, hlast⟩ := stands_words h
  obtain ⟨rfl, -⟩ := hlast.pure
  rwa [List.append_nil]

theorem starts_string {ts : List Token} (h : Terminal.string.starts ts = true) :
    ∃ text span after, ts = ⟨.literal text, span⟩ :: after := by
  cases ts with
  | nil => cases h
  | cons t after =>
    obtain ⟨l, span⟩ := t
    cases l with
    | literal text => exact ⟨text, span, after, rfl⟩
    | ident | punct | opening | closing => cases h

theorem stands_string (hstring : Terminal.string.starts (ts ++ rest) = true)
    (h : Finds literal ts rest us) : ∃ text, lexemes ts = [.literal text] := by
  obtain ⟨text, span, after, hafter⟩ := starts_string hstring
  obtain ⟨limit, hread⟩ := h.read
  have hliteral : isLiteral (⟨.literal text, span⟩ :: after) = true := rfl
  simp only [literal, hafter, bind_apply, ahead_apply, hliteral, if_true, take_apply,
    Except.ok.injEq, Prod.mk.injEq, Cursor.mk.injEq] at hread
  obtain rfl : after = rest := hread.2.1
  have hts : ts = [⟨.literal text, span⟩] := (List.append_left_inj after).1 hafter
  exact ⟨text, by rw [hts]; rfl⟩

/-- A calling convention is told by a word and, perhaps, a string. -/
theorem stands_abi? (h : Finds abi? ts rest us) :
    ts = [] ∨ lexemes ts = [.ident "extern"] ∨ ∃ text, lexemes ts = [.ident "extern", .literal text] := by
  rcases h.ahead.ite with ⟨-, h⟩ | ⟨-, h⟩
  · obtain ⟨a, b, vs, ws, rfl, hkeyword, hname⟩ := h.seq_cons
    obtain ⟨rfl, span, rfl⟩ := hkeyword.keyword
    obtain ⟨c, d, ws, xs, rfl, hname, hnil⟩ := hname.seq_cons
    obtain ⟨rfl, -⟩ := hnil.pure
    rcases hname.ahead.ite with ⟨hstring, hname⟩ | ⟨-, hname⟩
    · obtain ⟨text, htext⟩ := stands_string hstring hname
      exact .inr (.inr ⟨text, by simp [htext]⟩)
    · obtain ⟨rfl, -⟩ := hname.pure
      exact .inr (.inl rfl)
  · exact .inl h.pure.1

/-! ## Items that are kept as they are -/

theorem told_verbatim
    (h : Finds (do return Item.verbatim (← since (front ++ ts ++ rest))) us rest i) :
    i.Told front ts rest := by
  obtain ⟨tokens, rfl, hsince⟩ := h.bind_pure
  obtain ⟨-, rfl⟩ := hsince.since
  rfl

/-! ## Items with a name -/

/-- What an item with a name declares is told if its keyword and its name stand one after the other. -/
theorem toldWithName (kind : Kind) {v : Visibility} {n : Name} {g : Generics} {members : List Member}
    {span : Span} {vs modifiers after : List Token}
    (hv : Finds visibility vs
      (modifiers ++ ((⟨kind.word, span⟩ : Name).tokens ++ (n.tokens ++ after)) ++ rest) v)
    (hmodifiers : ModifiersStand kind.word modifiers)
    (hword : kind.word
      ∈ ["struct", "enum", "union", "trait", "type", "fn", "mod", "const", "static"]) :
    (⟨n, kind, v.access, g, members, span⟩ : Declaration).ToldWithName
      (vs ++ (modifiers ++ ((⟨kind.word, span⟩ : Name).tokens ++ (n.tokens ++ after)))) rest :=
  ⟨v, [], after, ⟨vs, modifiers, rfl, hv, hmodifiers, hmodifiers.not_mem⟩, rfl, .inl rfl, hword⟩

theorem toldUnmodified (kind : Kind) {v : Visibility} {n : Name} {g : Generics}
    {members : List Member} {span : Span} {vs after : List Token}
    (hv : Finds visibility vs ((⟨kind.word, span⟩ : Name).tokens ++ (n.tokens ++ after) ++ rest) v)
    (hword : kind.word
      ∈ ["struct", "enum", "union", "trait", "type", "fn", "mod", "const", "static"]) :
    (⟨n, kind, v.access, g, members, span⟩ : Declaration).ToldWithName
      (vs ++ ((⟨kind.word, span⟩ : Name).tokens ++ (n.tokens ++ after))) rest :=
  @toldWithName rest kind v n g members span vs [] after hv .nil hword

theorem finds_signature {s : Signature} (h : Finds (signature phrases) ts rest s) :
    ∃ modifiers span after, s.keyword = ⟨"fn", span⟩
      ∧ ts = modifiers ++ (s.keyword.tokens ++ (s.name.tokens ++ after))
      ∧ ModifiersStand "fn" modifiers := by
  obtain ⟨_, ms, us, rfl, hmodifiers, h₁⟩ := h.bind
  obtain ⟨keyword, ks, us, rfl, hkeyword, h₂⟩ := h₁.bind
  obtain ⟨span, rfl, rfl⟩ := stands_itemKeyword hkeyword
  obtain ⟨n, ns, us, rfl, hname, h₃⟩ := h₂.bind
  obtain rfl := stands_name hname
  obtain ⟨g, gs, us, rfl, -, h₄⟩ := h₃.bind
  obtain ⟨_, us, vs, rfl, -, h₅⟩ := h₄.bracketedThen.bind
  obtain ⟨_, us, vs, rfl, -, h₆⟩ := h₅.bind
  obtain ⟨condition, rfl, -⟩ := h₆.bind_pure
  obtain ⟨words, cs, _, rfl, hwords, hseq⟩ :=
    @stands_words _ _ _ ["const", "async", "unsafe"] [abi?] _ hmodifiers
  obtain ⟨_, _, cs, ds, rfl, hconvention, hnil⟩ := hseq.seq_cons
  obtain ⟨rfl, -⟩ := hnil.pure
  rw [List.append_nil]
  refine ⟨words ++ cs, span, _, rfl, rfl, words, cs, rfl, hwords, ?_⟩
  exact (stands_abi? hconvention).imp_right fun h => ⟨rfl, h⟩

theorem told_functionItem (h : Finds (functionItem phrases (front ++ ts ++ rest) outer) ts rest i) :
    i.Told front ts rest := by
  obtain ⟨v, vs, us, rfl, hv, h₁⟩ := h.bind
  obtain ⟨s, ss, us, rfl, hs, h₂⟩ := h₁.bind
  rcases h₂.ahead.ite with ⟨-, h₃⟩ | ⟨-, h₃⟩
  · obtain ⟨_, ws, us, rfl, -, h₄⟩ := h₃.bind
    exact told_verbatim h₄
  · obtain ⟨body, rfl, -⟩ := h₃.bind_pure
    obtain ⟨modifiers, span, after, hkeyword, rfl, hmodifiers⟩ := finds_signature hs
    obtain ⟨ms, keyword, n, g, inputs, output⟩ := s
    obtain rfl : keyword = ⟨"fn", span⟩ := hkeyword
    simp only [List.append_assoc] at hv ⊢
    exact toldWithName (.other "fn") (by simpa only [List.append_assoc, Kind.word] using hv)
      hmodifiers (by decide)

theorem told_staticItem (h : Finds (staticItem phrases (front ++ ts ++ rest) outer) ts rest i) :
    i.Told front ts rest := by
  obtain ⟨v, vs, us, rfl, hv, h₁⟩ := h.bind
  obtain ⟨word, ks, us, rfl, hkeyword, h₂⟩ := h₁.bind
  obtain ⟨span, rfl, rfl⟩ := stands_itemKeyword hkeyword
  obtain ⟨mutability, ms, us, rfl, hmut, h₃⟩ := h₂.bind
  obtain ⟨n, ns, us, rfl, hname, h₄⟩ := h₃.bind
  obtain rfl := stands_name hname
  rcases h₄.ahead.ite with ⟨-, h₅⟩ | ⟨-, h₅⟩
  · obtain ⟨_, ws, us, rfl, -, h₆⟩ := h₅.bind
    exact told_verbatim h₆
  · obtain ⟨type, ys, us, rfl, -, h₆⟩ := h₅.bind
    rcases h₆.ahead.ite with ⟨-, h₇⟩ | ⟨-, h₇⟩
    · obtain ⟨_, ws, us, rfl, -, h₈⟩ := h₇.bind
      exact told_verbatim h₈
    · obtain ⟨value, rfl, -⟩ := h₇.bind_pure
      have hmodifiers : ModifiersStand "static" [] := .nil
      refine ⟨v, ms, ys ++ us, ⟨vs, [], rfl, hv, hmodifiers, hmodifiers.not_mem⟩, rfl, ?_, ?_⟩
      · refine (stands_keyword? hmut).imp_right ?_
        rintro ⟨span, rfl⟩
        exact ⟨rfl, rfl⟩
      · simp [Item.declaration, Declaration.named, Kind.word]

theorem stands_constName {n : Name} (h : Finds constName ts rest n) : ts = n.tokens := by
  rcases h.ahead.ite with ⟨-, h⟩ | ⟨-, h⟩
  · exact stands_anyName h
  · exact h.not_expected.elim

theorem finds_constBody {n : Name} {tokens : List Token} {plain valued : Bool}
    (h : Finds (constBody phrases) ts rest (n, tokens, plain, valued)) :
    ∃ after, ts = n.tokens ++ after := by
  obtain ⟨m, ns, us, rfl, hname, h₁⟩ := h.bind
  obtain rfl := stands_constName hname
  obtain ⟨_, gs, us, rfl, -, h₂⟩ := h₁.bind
  obtain ⟨_, ys, us, rfl, -, h₃⟩ := h₂.bind
  obtain ⟨_, ws, us, rfl, -, h₄⟩ := h₃.bind
  obtain ⟨_, cs, us, rfl, -, h₅⟩ := h₄.bind
  obtain ⟨_, hr, -⟩ := h₅.bind_pure
  cases hr
  exact ⟨_, rfl⟩

theorem told_constItem (h : Finds (constItem phrases (front ++ ts ++ rest) outer) ts rest i) :
    i.Told front ts rest := by
  obtain ⟨v, vs, us, rfl, hv, h₁⟩ := h.bind
  obtain ⟨word, ks, us, rfl, hkeyword, h₂⟩ := h₁.bind
  obtain ⟨span, rfl, rfl⟩ := stands_itemKeyword hkeyword
  obtain ⟨⟨n, tokens, plain, valued⟩, us, ws, rfl, hbody, h₃⟩ := h₂.bind
  obtain ⟨after, rfl⟩ := finds_constBody hbody
  rcases h₃.ite with ⟨-, h₄⟩ | ⟨-, h₄⟩
  · obtain ⟨rfl, rfl⟩ := h₄.pure
    rw [List.append_nil] at hv ⊢
    exact toldUnmodified (.other "const") hv (by decide)
  · exact told_verbatim h₄

theorem finds_typeItem {place : WherePlace} {t : TypeItem}
    (h : Finds (typeItem phrases false place) ts rest t) :
    ∃ vs after, ts = vs ++ (t.keyword.tokens ++ (t.name.tokens ++ after))
      ∧ Finds visibility vs (t.keyword.tokens ++ (t.name.tokens ++ after) ++ rest) t.visibility
      ∧ ∃ span, t.keyword = ⟨"type", span⟩ := by
  obtain ⟨v, vs, us, rfl, hv, h₁⟩ := h.bind
  obtain ⟨_, ds, us, rfl, hdefault, h₂⟩ := h₁.bind
  obtain ⟨rfl, -⟩ := hdefault.pure
  obtain ⟨word, ks, us, rfl, hkeyword, h₃⟩ := h₂.bind
  obtain ⟨span, rfl, rfl⟩ := stands_itemKeyword hkeyword
  obtain ⟨n, ns, us, rfl, hname, h₄⟩ := h₃.bind
  obtain rfl := stands_name hname
  -- What follows the name has no part in what is told.
  have hgiven : t.visibility = v ∧ t.keyword = ⟨"type", span⟩ ∧ t.name = n := by
    refine h₄.gives (Q := fun t => t.visibility = v ∧ t.keyword = ⟨"type", span⟩ ∧ t.name = n)
      fun c => Gives.then_ fun _ _ => Gives.then_ fun _ _ => ?_
    repeat' first
      | with_reducible refine Gives.ite (fun _ => ?_) fun _ => ?_
      | with_reducible refine Gives.then_ fun _ _ => ?_
      | exact Gives.pure ⟨rfl, rfl, rfl⟩
  obtain ⟨rfl, hword, rfl⟩ := hgiven
  rw [hword]
  exact ⟨vs, us, rfl, hv, span, rfl⟩

theorem told_aliasItem (h : Finds (aliasItem phrases (front ++ ts ++ rest) outer) ts rest i) :
    i.Told front ts rest := by
  obtain ⟨t, us, ws, rfl, ht, h₁⟩ := h.bind
  rcases h₁.ite with ⟨-, h₂⟩ | ⟨-, h₂⟩
  · exact told_verbatim h₂
  · obtain ⟨rfl, rfl⟩ := h₂.pure
    obtain ⟨vs, after, rfl, hv, span, hkeyword⟩ := finds_typeItem ht
    obtain ⟨v, default, keyword, n, g, colon, bounds, type⟩ := t
    obtain rfl : keyword = ⟨"type", span⟩ := hkeyword
    rw [List.append_nil]
    exact toldUnmodified (.other "type") hv (by decide)

theorem told_moduleItem (h : Finds (moduleItem phrases outer) ts rest i) : i.Told front ts rest := by
  obtain ⟨v, vs, us, rfl, hv, h₁⟩ := h.bind
  obtain ⟨_, ms, us, rfl, hunsafe, h₂⟩ := h₁.bind
  obtain ⟨word, ks, us, rfl, hkeyword, h₃⟩ := h₂.bind
  obtain ⟨span, rfl, rfl⟩ := stands_itemKeyword hkeyword
  have hmodifiers : ModifiersStand "mod" ms := .of_words (stands_oneWord hunsafe)
  rcases h₃.ahead.ite with ⟨-, h₄⟩ | ⟨-, h₄⟩
  all_goals
    obtain ⟨n, ns, us, rfl, hname, h₅⟩ := h₄.bind
    obtain rfl : ns = n.tokens := by
      first
        | exact stands_anyName hname
        | exact stands_name hname
    obtain ⟨tokens, rfl⟩ : ∃ tokens, i = .module ⟨v, ⟨"mod", span⟩, n, tokens⟩ :=
      h₅.gives (Q := fun i => ∃ tokens, i = .module ⟨v, ⟨"mod", span⟩, n, tokens⟩) fun c =>
        Gives.ahead <|
        Gives.ite (fun _ => Gives.then_ fun _ _ => Gives.pure ⟨_, rfl⟩) fun _ =>
        Gives.ite (fun _ => Gives.then_ fun _ _ => Gives.pure ⟨_, rfl⟩) fun _ =>
        Gives.then_ fun _ _ => Gives.pure ⟨_, rfl⟩
    exact toldWithName (.other "mod") hv hmodifiers (by decide)

theorem told_traitDefinition (h : Finds (traitDefinition phrases outer) ts rest i) :
    i.Told front ts rest := by
  obtain ⟨v, vs, us, rfl, hv, h₁⟩ := h.bind
  obtain ⟨_, ms, us, rfl, hmodifiers, h₂⟩ := h₁.bind
  obtain ⟨word, ks, us, rfl, hkeyword, h₃⟩ := h₂.bind
  obtain ⟨span, rfl, rfl⟩ := stands_itemKeyword hkeyword
  obtain ⟨n, ns, us, rfl, hname, h₄⟩ := h₃.bind
  obtain rfl := stands_name hname
  obtain ⟨g, tokens, rfl⟩ : ∃ g tokens, i = .trait ⟨v, ⟨"trait", span⟩, n, g, tokens⟩ :=
    h₄.gives (Q := fun i => ∃ g tokens, i = .trait ⟨v, ⟨"trait", span⟩, n, g, tokens⟩) fun c =>
      Gives.then_ fun _ _ => Gives.then_ fun _ _ => Gives.pure ⟨_, _, rfl⟩
  have hwords := @stands_onlyWords _ _ _ ["unsafe", "auto"] hmodifiers
  exact toldWithName (.other "trait") hv (.of_words hwords) (by decide)

theorem told_traitOrSum (h : Finds (traitOrSum phrases outer) ts rest i) : i.Told front ts rest := by
  obtain ⟨v, vs, us, rfl, hv, h₁⟩ := h.bind
  obtain ⟨word, ks, us, rfl, hkeyword, h₂⟩ := h₁.bind
  obtain ⟨span, rfl, rfl⟩ := stands_itemKeyword hkeyword
  obtain ⟨n, ns, us, rfl, hname, h₃⟩ := h₂.bind
  obtain rfl := stands_name hname
  obtain ⟨t, hkeyword, hname, hvisibility, hi⟩ : ∃ t : NamedItem, t.keyword = ⟨"trait", span⟩
      ∧ t.name = n ∧ t.visibility = v ∧ (i = .trait t ∨ i = .traitAlias t) := by
    refine h₃.gives (Q := fun i => ∃ t : NamedItem, t.keyword = ⟨"trait", span⟩ ∧ t.name = n
      ∧ t.visibility = v ∧ (i = .trait t ∨ i = .traitAlias t)) fun c =>
      Gives.then_ fun _ _ => Gives.ahead (Gives.ite (fun _ => ?_) fun _ => Gives.ite (fun _ => ?_)
        fun _ => Gives.expected _)
    · exact Gives.then_ fun _ _ => Gives.pure ⟨⟨v, _, n, _, _⟩, rfl, rfl, rfl, .inl rfl⟩
    · exact Gives.then_ fun _ _ => Gives.then_ fun _ _ => Gives.then_ fun _ _ =>
        Gives.then_ fun _ _ => Gives.pure ⟨⟨v, _, n, _, _⟩, rfl, rfl, rfl, .inr rfl⟩
  obtain ⟨v', keyword, n', g, tokens⟩ := t
  cases hkeyword
  cases hname
  cases hvisibility
  obtain rfl | rfl := hi
  · exact toldUnmodified (.other "trait") hv (by decide)
  · exact toldUnmodified (.other "trait") hv (by decide)

theorem told_structItem {attributes : List Attribute}
    (h : Finds (Item.struct <$> structItem phrases attributes) ts rest i) : i.Told front ts rest := by
  obtain ⟨s, rfl, hs⟩ := h.map
  obtain ⟨v, vs, us, rfl, hv, h₁⟩ := hs.bind
  obtain ⟨word, ks, us, rfl, hkeyword, h₂⟩ := h₁.bind
  obtain ⟨span, rfl, rfl⟩ := stands_itemKeyword hkeyword
  obtain ⟨n, ns, us, rfl, hname, h₃⟩ := h₂.bind
  obtain rfl := stands_name hname
  obtain ⟨g, fields, rfl⟩ : ∃ g fields, s = ⟨attributes, v, ⟨"struct", span⟩, n, g, fields⟩ :=
    h₃.gives (Q := fun s => ∃ g fields, s = ⟨attributes, v, ⟨"struct", span⟩, n, g, fields⟩)
      fun c => Gives.then_ fun _ _ => Gives.then_ fun _ _ => Gives.pure ⟨_, _, rfl⟩
  -- The kind depends on the fields, but not the word for it.
  cases fields with
  | named fields => exact toldUnmodified .struct hv (by decide)
  | positional fields => exact toldUnmodified .tupleStruct hv (by decide)
  | unit => exact toldUnmodified .unitStruct hv (by decide)

theorem told_enumItem {attributes : List Attribute}
    (h : Finds (Item.enum <$> enumItem phrases attributes) ts rest i) : i.Told front ts rest := by
  obtain ⟨e, rfl, he⟩ := h.map
  obtain ⟨v, vs, us, rfl, hv, h₁⟩ := he.bind
  obtain ⟨word, ks, us, rfl, hkeyword, h₂⟩ := h₁.bind
  obtain ⟨span, rfl, rfl⟩ := stands_itemKeyword hkeyword
  obtain ⟨n, ns, us, rfl, hname, h₃⟩ := h₂.bind
  obtain rfl := stands_name hname
  obtain ⟨g, variants, rfl⟩ : ∃ g variants, e = ⟨attributes, v, ⟨"enum", span⟩, n, g, variants⟩ :=
    h₃.gives (Q := fun e => ∃ g variants, e = ⟨attributes, v, ⟨"enum", span⟩, n, g, variants⟩)
      fun c => Gives.then_ fun _ _ => Gives.then_ fun _ _ => Gives.pure ⟨_, _, rfl⟩
  exact toldUnmodified .enum hv (by decide)

theorem told_unionItem {attributes : List Attribute}
    (h : Finds (Item.union <$> unionItem phrases attributes) ts rest i) : i.Told front ts rest := by
  obtain ⟨u, rfl, hu⟩ := h.map
  obtain ⟨v, vs, us, rfl, hv, h₁⟩ := hu.bind
  obtain ⟨word, ks, us, rfl, hkeyword, h₂⟩ := h₁.bind
  obtain ⟨span, rfl, rfl⟩ := stands_itemKeyword hkeyword
  obtain ⟨n, ns, us, rfl, hname, h₃⟩ := h₂.bind
  obtain rfl := stands_name hname
  obtain ⟨g, fields, rfl⟩ : ∃ g fields, u = ⟨attributes, v, ⟨"union", span⟩, n, g, fields⟩ :=
    h₃.gives (Q := fun u => ∃ g fields, u = ⟨attributes, v, ⟨"union", span⟩, n, g, fields⟩)
      fun c => Gives.then_ fun _ _ => Gives.then_ fun _ _ => Gives.pure ⟨_, _, rfl⟩
  exact toldUnmodified .union hv (by decide)

/-! ## Items without a name -/

/-- What an item without a name declares is told if its keyword stands behind its modifiers. -/
theorem toldWithoutName {word : Name} {v : Visibility} {vs modifiers after : List Token}
    (hv : Finds visibility vs (modifiers ++ (word.tokens ++ after) ++ rest) v)
    (hmodifiers : ModifiersStand word.text modifiers)
    (hword : word.text ∈ ["impl", "use", "extern"]) :
    (Declaration.unnamed word.text word.span).ToldWithoutName
      (vs ++ (modifiers ++ (word.tokens ++ after))) rest :=
  ⟨v, after, ⟨vs, modifiers, rfl, hv, hmodifiers, hmodifiers.not_mem⟩, rfl, rfl, rfl, rfl, hword⟩

theorem told_useItem (h : Finds (useItem phrases (front ++ ts ++ rest) outer) ts rest i) :
    i.Told front ts rest := by
  obtain ⟨v, vs, us, rfl, hv, h₁⟩ := h.bind
  obtain ⟨word, ks, us, rfl, hkeyword, h₂⟩ := h₁.bind
  obtain ⟨span, rfl, rfl⟩ := stands_itemKeyword hkeyword
  obtain ⟨_, ls, us, rfl, -, h₃⟩ := h₂.bind
  obtain ⟨tree, ws, us, rfl, -, h₄⟩ := h₃.bind
  obtain ⟨_, es, us, rfl, -, h₅⟩ := h₄.bind
  rcases h₅.ite with ⟨-, h₆⟩ | ⟨-, h₆⟩
  · exact told_verbatim h₆
  · obtain ⟨-, rfl⟩ := h₆.pure
    exact @toldWithoutName rest ⟨"use", span⟩ v vs [] _ hv .nil (by simp)

theorem told_externCrate (h : Finds (externCrate outer) ts rest i) : i.Told front ts rest := by
  obtain ⟨v, vs, us, rfl, hv, h₁⟩ := h.bind
  obtain ⟨word, ks, us, rfl, hkeyword, h₂⟩ := h₁.bind
  obtain ⟨span, rfl, rfl⟩ := stands_itemKeyword hkeyword
  obtain ⟨tokens, rfl⟩ : ∃ tokens, i = .externCrate ⟨⟨"extern", span⟩, tokens⟩ := by
    refine h₂.gives (Q := fun i => ∃ tokens, i = .externCrate ⟨⟨"extern", span⟩, tokens⟩) fun c =>
      Gives.then_ fun _ _ => Gives.ahead (Gives.ite (fun _ => ?_) fun _ => ?_)
    all_goals
      exact Gives.then_ fun _ _ => Gives.then_ fun _ _ => Gives.then_ fun _ _ =>
        Gives.pure ⟨_, rfl⟩
  exact @toldWithoutName rest ⟨"extern", span⟩ v vs [] us hv .nil (by simp)

/-- Where something else comes next, there is no visibility. -/
theorem finds_inherited (hword : isWord "pub" ts = false) (hclosed : Closed ts) :
    Finds visibility [] ts .inherited :=
  ⟨.nil, hclosed, default, by simp [visibility, bind_apply, hword]⟩

theorem told_foreignBlock (h : Finds (foreignBlock phrases outer) ts rest i) :
    i.Told front ts rest := by
  have hclosed := h.whole.append_closed h.closed
  obtain ⟨_, ms, us, rfl, hunsafe, h₁⟩ := h.bind
  obtain ⟨word, ks, us, rfl, hkeyword, h₂⟩ := h₁.bind
  obtain ⟨span, rfl, rfl⟩ := stands_itemKeyword hkeyword
  obtain ⟨tokens, rfl⟩ : ∃ tokens, i = .foreign ⟨⟨"extern", span⟩, tokens⟩ :=
    h₂.gives (Q := fun i => ∃ tokens, i = .foreign ⟨⟨"extern", span⟩, tokens⟩) fun c =>
      Gives.then_ fun _ _ => Gives.then_ fun _ _ => Gives.pure ⟨_, rfl⟩
  have hmodifiers : ModifiersStand "extern" ms := .of_words (stands_oneWord hunsafe)
  have hword : isWord "pub" (ms ++ ((⟨"extern", span⟩ : Name).tokens ++ us) ++ rest) = false := by
    obtain rfl | ⟨place, rfl⟩ := stands_keyword? hunsafe <;> simp [Name.tokens]
  exact @toldWithoutName rest ⟨"extern", span⟩ .inherited [] ms us (finds_inherited hword hclosed)
    hmodifiers (by simp)

theorem finds_implementation? {attributes : List Attribute} {j : Implementation}
    (h : Finds (implementation? phrases attributes) ts rest (some j)) :
    ∃ v vs modifiers after, ts = vs ++ (modifiers ++ (j.keyword.tokens ++ after))
      ∧ Finds visibility vs (modifiers ++ (j.keyword.tokens ++ after) ++ rest) v
      ∧ ModifiersStand "impl" modifiers ∧ ∃ span, j.keyword = ⟨"impl", span⟩ := by
  obtain ⟨v, vs, us, rfl, hv, h₁⟩ := h.bind
  obtain ⟨_, ms, us, rfl, hmodifiers, h₂⟩ := h₁.bind
  obtain ⟨word, ks, us, rfl, hkeyword, h₃⟩ := h₂.bind
  obtain ⟨span, rfl, rfl⟩ := stands_itemKeyword hkeyword
  have hgiven : ∀ k, some j = some k → k.keyword = ⟨"impl", span⟩ := by
    refine h₃.gives (Q := fun r => ∀ k, r = some k → k.keyword = ⟨"impl", span⟩) fun c =>
      Gives.ahead ?_
    repeat' first
      | with_reducible refine Gives.ite (fun _ => ?_) fun _ => ?_
      | with_reducible refine Gives.then_ fun _ _ => ?_
      | exact Gives.pure (by rintro _ ⟨⟩; rfl)
      | exact Gives.pure (by rintro _ ⟨⟩)
  have hwords := @stands_onlyWords _ _ _ ["default", "unsafe"] hmodifiers
  rw [hgiven j rfl]
  exact ⟨v, vs, ms, us, rfl, hv, .of_words hwords, span, rfl⟩

theorem told_implementationItem {attributes : List Attribute}
    (h : Finds (implementationItem phrases (front ++ ts ++ rest) attributes) ts rest i) :
    i.Told front ts rest := by
  obtain ⟨found, us, ws, rfl, -, hfound, h₁⟩ := h.bind_of (fun _ => Passes.spends _) fun _ => by
    split <;> infer_instance
  split at h₁
  · next j =>
    obtain ⟨rfl, rfl⟩ := h₁.pure
    obtain ⟨v, vs, ms, after, rfl, hv, hmodifiers, span, hkeyword⟩ := finds_implementation? hfound
    obtain ⟨attributes, modifiers, keyword, g, trait, subject, inside, items⟩ := j
    obtain rfl : keyword = ⟨"impl", span⟩ := hkeyword
    rw [List.append_nil]
    exact toldWithoutName hv hmodifiers (by simp)
  · exact told_verbatim h₁

/-! ## Macros -/

theorem spanOf_eq (ts : List Token) (default : Span) :
    spanOf ts default = match (ts.map Token.span).head?, (ts.map Token.span).getLast? with
      | some first, some last => first.join last
      | _, _ => default := by
  rw [spanOf, List.head?_map, List.getLast?_map]
  cases ts.head? <;> cases ts.getLast? <;> rfl

/-- Only the places of the first and the last token count. -/
theorem spanOf_congr {ts us : List Token} (h : ts.map Token.span = us.map Token.span)
    (default : Span) : spanOf ts default = spanOf us default := by
  rw [spanOf_eq, spanOf_eq, h]

/-- An operator that is read keeps its place. -/
theorem spans_respaced {text : String} {ts : List Token} (h : ts.length ≤ text.length) :
    (respaced text ts).map Token.span = ts.map Token.span := by
  have hlength : ts.length ≤ (operatorLexemes text.toList).length := by
    simpa [String.length_toList] using h
  rw [respaced]
  generalize operatorLexemes text.toList = ls at hlength
  clear h
  induction ts generalizing ls with
  | nil => simp
  | cons t ts ih =>
    cases ls with
    | nil => simp at hlength
    | cons l ls => simpa using ih ls (by simpa using hlength)

theorem spends_operator_spans (text : String) {c : Cursor} :
    Spends c (operator text) fun a ts => a.map Token.span = ts.map Token.span := by
  intro a c' h hleft
  obtain ⟨hop, hr⟩ := operator_eq_ok h
  cases hr
  obtain ⟨-, hwhole⟩ := isOp_split hop
  refine ⟨hleft, fun _ => ⟨rfl, _, (List.take_append_drop _ _).symm, hwhole, ?_⟩⟩
  exact spans_respaced (List.length_take_le _ _)

theorem told_macroItem (h : Finds (macroItem outer) ts rest i) : i.Told front ts rest := by
  obtain ⟨shown, ps, us, rfl, hpath, h₁⟩ := h.bind
  obtain ⟨_, ms, us, rfl, hmark, h₂⟩ := h₁.bind
  obtain ⟨tokens, rfl⟩ : ∃ tokens, i = .macroCall shown tokens := by
    refine h₂.gives (Q := fun i => ∃ tokens, i = .macroCall shown tokens) fun c => Gives.ahead ?_
    repeat' first
      | with_reducible refine Gives.ite (fun _ => ?_) fun _ => ?_
      | with_reducible refine Gives.then_ fun _ _ => ?_
      | exact Gives.pure ⟨_, rfl⟩
  have htexts := hmark.spends fun _ => spends_operator "!"
  have hspans := hpath.spends fun _ => spends_modPath_of fun _ text => spends_operator_spans text
  refine ⟨ps, ms, us, rfl, hpath, ?_, spanOf_congr hspans .outside⟩
  rw [htexts.2, texts_operator]
  rfl

theorem told_macroDefinition (h : Finds (macroDefinition (front ++ ts ++ rest)) us rest i) :
    i.Told front ts rest := by
  obtain ⟨_, ws, us, rfl, -, h₁⟩ := h.bind
  have hbody {hasParams : Bool} {us : List Token}
      (h : Finds (do
        if isBrace (← ahead) then
          let _ ← group .brace remaining
          return Item.verbatim (← since (front ++ ts ++ rest))
        else if hasParams then expected [.group .brace]
        else expected [.group .parenthesis, .group .brace]) us rest i) : i.Told front ts rest := by
    rcases h.ahead.ite with ⟨-, h₂⟩ | ⟨-, h₂⟩
    · obtain ⟨_, vs, us, rfl, -, h₃⟩ := h₂.bind
      exact told_verbatim h₃
    · rcases h₂.ite with ⟨-, h₃⟩ | ⟨-, h₃⟩
      all_goals exact h₃.not_expected.elim
  rcases h₁.ahead.ite with ⟨-, h₂⟩ | ⟨-, h₂⟩
  · obtain ⟨_, vs, us, rfl, -, h₃⟩ := h₂.bind
    exact hbody h₃
  · exact hbody h₂

/-! ## Any item -/

theorem Finds.of_ite {α : Type} {a : α} {b P : Prop} [Decidable b] {p q : Parser α}
    (hp : Finds p ts rest a → P) (hq : Finds q ts rest a → P) :
    Finds (if b then p else q) ts rest a → P := by
  split
  · exact hp
  · exact hq

theorem stands_afterVisibility {r : Visibility × List Token} (h : Finds afterVisibility ts rest r) :
    ts = [] := by
  obtain ⟨limit, hread⟩ := h.read
  obtain ⟨v, d, -, hr⟩ := afterVisibility_eq_ok.1 hread
  have hrest : rest = ts ++ rest := congrArg (fun r => r.2.tokens) hr
  exact List.self_eq_append_left.1 hrest

/-- What is told of an item after its attributes. -/
theorem told_itemAfter {attributes : List Attribute}
    (h : Finds (itemAfter phrases (front ++ ts ++ rest) attributes) ts rest i) :
    i.Told front ts rest := by
  obtain ⟨v, us, vs, ws, hts, hv, h₁⟩ := h.bind_pair
  obtain rfl := stands_afterVisibility hv
  obtain rfl : ts = ws := hts
  revert h₁
  dsimp only
  repeat' first
    | with_reducible refine Finds.of_ite ?_ ?_
    | with_reducible exact told_structItem
    | with_reducible exact told_enumItem
    | with_reducible exact told_unionItem
    | with_reducible exact told_functionItem
    | with_reducible exact told_externCrate
    | with_reducible exact told_foreignBlock
    | with_reducible exact told_useItem
    | with_reducible exact told_staticItem
    | with_reducible exact told_constItem
    | with_reducible exact told_traitDefinition
    | with_reducible exact told_implementationItem
    | with_reducible exact told_moduleItem
    | with_reducible exact told_aliasItem
    | with_reducible exact told_traitOrSum
    | with_reducible exact told_macroItem
    | exact fun h => h.not_expectedAt.elim
  intro h₁
  obtain ⟨_, xs, ys, -, -, h₂⟩ := h₁.bind
  exact told_macroDefinition h₂

end Parser

/-! ## Whole items -/

/-- An item tells its kind behind its attributes: a definition or an item with a name by its keyword
in front of the name, an implementation, an import or a foreign block by its keyword alone, a macro
call by the path of the macro, and an item that is kept as it is by its first and its last token. An
item of a kind that has no initializer is reported there, by the attribute and by the derive. -/
theorem keyword_told {item : List Token} {i : Item} (hwhole : Whole item)
    (hread : readItem item = .ok i) :
    (∃ attributes as ts, item = attributes.flatten ++ ts
        ∧ List.Forall₂ Attribute.Stands attributes as ∧ i.Told attributes.flatten ts [])
      ∧ (¬ i.Buildable →
        (∀ arguments a, readArguments arguments = .ok a →
          Reports (expandAttribute arguments item).added
            (.present .unsupportedKind i.declaration.keywordSpan))
        ∧ ∀ (d : Definition) a, i = d.item → Arguments.ofAttributes d.attributes = .ok a →
          Reports (expandDerive item).tokens (.present .unsupportedKind i.declaration.keywordSpan)) := by
  constructor
  · have hfound : Parser.Finds (Parser.item phrases) item [] i := .of_parseAll hwhole hread
    obtain ⟨as, us, ts, rfl, hattributes, h⟩ := hfound.ahead.bind
    obtain ⟨attributes, rfl, hstands⟩ := Parser.stands_outerAttributes hattributes
    exact ⟨attributes, as, ts, rfl, hstands, Parser.told_itemAfter h⟩
  · intro hkind
    have hproduct : ¬ i.declaration.kind.isProduct := mt (isProduct_iff_buildable i).1 hkind
    have hrejected (a : Arguments) : i.declaration.initializer a
        = .error (.present .unsupportedKind i.declaration.keywordSpan) :=
      initializer_of_not_isProduct hproduct a
    constructor
    · intro arguments a harguments
      simp only [expandAttribute, hread, harguments, bind, Except.bind, Expansion.added, hrejected]
      exact reports_tokens _
    · rintro d a rfl harguments
      have hderived : readDefinition item = .ok d := readItem_eq_definition.1 hread
      rw [declaration_item] at hrejected ⊢
      have hrejected := hrejected a
      simp only [expandDerive, hderived, harguments, bind, Except.bind, Expansion.tokens,
        Expansion.kept, Expansion.added, hrejected]
      exact reports_tokens _

/-- A function behind an attribute, a visibility and four modifiers: its keyword is the 12th token. -/
theorem keyword_told_function :
    let item := (lex "#[inline] pub const unsafe extern \"C\" fn build() \x7b\x7d").toOption.getD []
    let span : Span := ⟨⟨1, 38⟩, ⟨1, 40⟩⟩
    ∃ i, Whole item ∧ readItem item = .ok i ∧ i.declaration.keyword = ⟨"fn", span⟩
      ∧ (∃ attributes as ts, item = attributes.flatten ++ ts
        ∧ List.Forall₂ Attribute.Stands attributes as ∧ i.Told attributes.flatten ts [])
      ∧ Reports (expandAttribute [] item).added (.present .unsupportedKind span) := by
  intro item span
  have hwhole : Whole item := by decide +kernel
  obtain ⟨i, hread, htest⟩ := @ok_of_any _ (readItem item) (fun i =>
    decide (i.declaration.keyword = ⟨"fn", span⟩ ∧ i.declaration.kind.isProduct = false))
    (by decide +kernel)
  obtain ⟨hkeyword, hkind⟩ := of_decide_eq_true htest
  have hbuildable : ¬ i.Buildable := by
    rw [← isProduct_iff_buildable, hkind]
    exact Bool.false_ne_true
  obtain ⟨htold, hreports⟩ := keyword_told hwhole hread
  have hspan : i.declaration.keywordSpan = span := congrArg Name.span hkeyword
  refine ⟨i, hwhole, hread, hkeyword, htold, ?_⟩
  rw [← hspan]
  exact (hreports hbuildable).1 [] {} rfl

end Memberwise
