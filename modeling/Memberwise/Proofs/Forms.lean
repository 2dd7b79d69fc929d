import Memberwise.Proofs.Gives
import Memberwise.Proofs.ReadsBack

/-!
# Attributes and visibilities

A path of words, an attribute and a visibility have few forms, and no parser gives them another. So
what an attribute is named can be told from its tokens, and a visibility is read again in front of
anything that is not taken for a part of it.

## Main definitions

* `PathWords`: a path of words
* `Attribute.Formed`, `Visibility.Formed`: the forms of what is read

## Main statements

* `gives_outerAttributes`, `gives_visibility`: what is read has its form
* `lexemes_cfgAttributes`: the conditions among attributes are told by their tokens
* `reads_modPath`, `reads_visibility`: what has its form is read again
-/

namespace Memberwise

/-! ## Paths -/

/-- Words that may stand in a path, with `::` between any two. -/
inductive PathWords : List Token → Prop
  | word {word : String} {span : Span} (h : Parser.isPathWord [⟨.ident word, span⟩] = true) :
    PathWords [⟨.ident word, span⟩]
  | more {word : String} {span : Span} {colons us : List Token}
      (h : Parser.isPathWord [⟨.ident word, span⟩] = true)
      (hcolons : lexemes colons = lexemes (Generated.operator "::")) (others : PathWords us) :
    PathWords (⟨.ident word, span⟩ :: (colons ++ us))

/-- A path of words, which may begin with `::`. -/
def IsWordPath (ts : List Token) : Prop :=
  ∃ leading words, ts = leading ++ words
    ∧ (leading = [] ∨ lexemes leading = lexemes (Generated.operator "::")) ∧ PathWords words

/-- After the first token of a path stand colons, if anything does. -/
theorem IsWordPath.begins {ts : List Token} (h : IsWordPath ts) :
    ∃ t us, ts = t :: us ∧ ∀ u ∈ us.head?, ∃ spacing, u.lexeme = .punct ':' spacing := by
  have hcons {colons us : List Token} (h : lexemes colons = lexemes (Generated.operator "::")) :
      ∃ t u, colons ++ us = t :: u :: us ∧ t.lexeme = .punct ':' .joint
        ∧ u.lexeme = .punct ':' .alone := by
    obtain _ | ⟨t, _ | ⟨u, _ | ⟨v, vs⟩⟩⟩ := colons
    case cons.cons.nil => exact ⟨t, u, rfl, by simpa [Generated.operator, operatorLexemes] using h⟩
    all_goals simp [Generated.operator, operatorLexemes] at h
  obtain ⟨leading, words, rfl, hleading, hwords⟩ := h
  rcases hleading with rfl | hcolons
  · cases hwords with
    | word => exact ⟨_, [], rfl, by simp⟩
    | @more word span colons us _ hcolons others =>
      obtain ⟨t, u, hts, ht, -⟩ := @hcons colons us hcolons
      exact ⟨_, _, rfl, by simp [hts, ht]⟩
  · obtain ⟨t, u, hts, -, hu⟩ := @hcons leading words hcolons
    exact ⟨t, u :: words, hts, by simp [hu]⟩

namespace Parser

variable {ph : Phrases} {c : Cursor} {ts rest : List Token}

theorem gives_take_word {word : String} {span : Span} {us : List Token}
    (h : c.tokens = ⟨.ident word, span⟩ :: us) : Gives c (take 1) (· = [⟨.ident word, span⟩]) := by
  intro a c' hread
  rw [take_apply, h] at hread
  cases hread
  rfl

/-- An operator that is read is spaced as an operator. -/
theorem gives_operator (text : String) :
    Gives c (operator text) fun a => lexemes a = lexemes (Generated.operator text) := by
  intro a c' h
  obtain ⟨hop, hr⟩ := operator_eq_ok h
  cases hr
  have hlength : text.length ≤ (c.tokens.take text.length).length := by
    have hchars := congrArg List.length (isOp_split hop).1
    simp only [List.length_map, String.length_toList] at hchars
    omega
  rw [lexemes_respaced hlength]
  simp [Generated.operator, lexemes, Function.comp_def]

/-- An operator of one character is one token. -/
theorem gives_mark (char : Char) {text : String} (h : text.toList = [char]) :
    Gives c (operator text) fun a => ∃ span, a = [⟨.punct char .alone, span⟩] := by
  refine (gives_operator text).mono fun a ha => ?_
  have ha : lexemes a = [.punct char .alone] := by
    simpa [Generated.operator, lexemes, h, operatorLexemes] using ha
  obtain ⟨⟨l, span⟩, rfl⟩ : ∃ t, a = [t] :=
    List.length_eq_one_iff.1 (by simpa using congrArg List.length ha)
  obtain rfl : l = .punct char .alone := by simpa using ha
  exact ⟨span, rfl⟩

theorem gives_operator? (text : String) :
    Gives c (operator? text) fun a => a = [] ∨ lexemes a = lexemes (Generated.operator text) :=
  Gives.ahead (Gives.ite (fun _ => (gives_operator text).mono fun _ h => .inr h)
    fun _ => Gives.pure (.inl rfl))

/-- Whether a word may stand in a path does not depend on what follows it. -/
theorem isPathWord_cons (word : String) (span : Span) (us : List Token) :
    isPathWord (⟨.ident word, span⟩ :: us) = isPathWord [⟨.ident word, span⟩] := rfl

/-- A path that is read is a path of words. -/
theorem gives_modPath : Gives c modPath IsWordPath := by
  refine (gives_operator? "::").bind fun leading d hleading => Gives.bind (Q := PathWords) ?_
    fun words _ hwords => Gives.pure ⟨leading, words, rfl, hleading, hwords⟩
  -- What has been read becomes a path with any path behind it.
  refine Gives.loop (fun read => ∀ us, PathWords us → PathWords (read ++ us))
    (fun read d hread => ?_) fun us hus => hus
  refine Gives.ahead (Gives.ite (fun hword => ?_) fun _ => Gives.ite (fun hempty => ?_)
    fun _ => Gives.reject _)
  · obtain ⟨word, span, us, htokens⟩ := isPathWord_eq_cons hword
    rw [htokens, isPathWord_cons] at hword
    refine (gives_take_word htokens).bind fun w e hw => ?_
    subst hw
    refine Gives.ahead (Gives.ite (fun _ => ?_) fun _ => Gives.pure (hread _ (.word hword)))
    refine (gives_operator "::").bind fun colons _ hcolons => Gives.pure fun us hus => ?_
    have hmore := hread _ (.more hword hcolons hus)
    simpa using hmore
  · intro r c' h
    obtain ⟨a, e, hidentifier, hr⟩ := bind_eq_ok.1 h
    obtain ⟨word, span, us, hfree, htokens, hresult⟩ := identifier_eq_ok hidentifier
    cases hr
    cases hresult
    exact .word (by simp [isPathWord, hfree])

/-- A round of a path: one word, or the end. -/
def pathRound (read : List Token) : Parser (List Token ⊕ List Token) := do
  if isPathWord (← ahead) then
    let read := read ++ (← take 1)
    if isOp "::" (← ahead) then return .inl (read ++ (← operator "::")) else return .inr read
  else if read.isEmpty then return .inr (← identifier)
  else reject .pathSegment

theorem reads_pathWords (h : PathWords ts) (hrest : isOp "::" rest = false) (read : List Token) :
    Reads (loop pathRound read) ts rest fun words => lexemes words = lexemes read ++ lexemes ts := by
  induction h generalizing read with
  | @word word span hword =>
    refine Reads.loop_done (Reads.ahead (Reads.ite_pos hword ?_))
    refine (Reads.take [⟨.ident word, span⟩] rest).bind_last fun w hw => ?_
    subst hw
    refine Reads.ahead (Reads.ite_neg (by simp [hrest]) (Reads.pure ⟨_, rfl, by simp⟩))
  | @more word span colons us hword hcolons _ ih =>
    have hsame : lexemes colons = operatorLexemes "::".toList := hcolons
    have hround : Reads (pathRound read) (⟨.ident word, span⟩ :: colons) (us ++ rest)
        fun r => ∃ next, r = .inl next
          ∧ lexemes next = lexemes read ++ lexemes (⟨.ident word, span⟩ :: colons) := by
      refine Reads.ahead (Reads.ite_pos hword ?_)
      refine Reads.bind_cons (Reads.take [⟨.ident word, span⟩] _) fun w hw => ?_
      subst hw
      refine Reads.ahead (Reads.ite_pos (isOp_append (by decide) hsame _) ?_)
      refine (reads_operator (by decide) hsame).bind_pure fun a ha => ⟨_, rfl, ?_⟩
      simp [ha]
    rw [← List.cons_append]
    refine Reads.loop_next (fun next => lexemes next
      = lexemes read ++ lexemes (⟨.ident word, span⟩ :: colons)) (by simp) hround fun next hnext => ?_
    refine (ih next).mono fun words hwords => ?_
    rw [hwords, hnext]
    simp

/-- A path of words is read again where it does not go on. -/
theorem reads_modPath (h : IsWordPath ts) (hrest : isOp "::" rest = false) :
    Reads modPath ts rest fun a => lexemes a = lexemes ts := by
  obtain ⟨leading, words, rfl, hleading, hwords⟩ := h
  have hloop {before : List Token} (hbefore : lexemes before = lexemes leading) :
      Reads (do return before ++ (← loop pathRound [])) words rest
        fun a => lexemes a = lexemes (leading ++ words) :=
    (reads_pathWords hwords hrest []).bind_pure fun a ha => by simp [ha, hbefore]
  rcases hleading with rfl | hcolons
  · refine Reads.bind_nil (reads_operator?_none ?_) ?_
    · cases hwords with
      | word => rfl
      | more => rfl
    · intro a ha
      exact hloop (by rw [ha])
  · exact (reads_operator?_some (by decide) hcolons).bind fun a ha => hloop ha

end Parser

/-! ## Attributes -/

/-- The attribute belongs to what follows it. It has a path, after the first token of which colons or
nothing stand, and no colons follow the path. -/
structure Attribute.Formed (a : Attribute) : Prop where
  outer : a.inner = false
  path : ∃ t us, a.path = t :: us ∧ ∀ u ∈ us.head?, ∃ spacing, u.lexeme = .punct ':' spacing
  content : ∀ u ∈ a.content.tokens.head?, ∀ spacing, u.lexeme ≠ .punct ':' spacing

/-- The tokens begin with a path of only this word. -/
def beginsNamed (name : String) : List Lexeme → Bool
  | .ident _ :: .punct ':' _ :: _ => false
  | .ident word :: _ => word == name
  | _ => false

/-- What an attribute is named is told by its tokens. -/
theorem Attribute.Formed.isNamed_eq {a : Attribute} (h : a.Formed) (name : String) :
    a.isNamed name = beginsNamed name (lexemes (a.path ++ a.content.tokens)) := by
  obtain ⟨⟨l, span⟩, us, hpath, hus⟩ := h.path
  have hcontent := h.content
  rw [isNamed, hpath]
  cases us with
  | nil =>
    cases hafter : a.content.tokens with
    | nil => cases l <;> simp [beginsNamed]
    | cons u vs =>
      have hu := hcontent u (by simp [hafter])
      obtain ⟨l', span'⟩ := u
      cases l with
      | ident word =>
        change _ = beginsNamed name (.ident word :: l' :: lexemes vs)
        unfold beginsNamed
        split <;> simp_all
      | punct | literal | opening | closing => rfl
  | cons u us =>
    obtain ⟨spacing, hu⟩ := hus u rfl
    obtain ⟨l', span'⟩ := u
    obtain rfl : l' = .punct ':' spacing := hu
    cases l <;> simp [beginsNamed]

theorem Attribute.Formed.isNamed_congr {a b : Attribute} (ha : a.Formed) (hb : b.Formed)
    (h : lexemes a.tokens = lexemes b.tokens) (name : String) : a.isNamed name = b.isNamed name := by
  have hinside {a : Attribute} (ha : a.Formed) : lexemes a.tokens = .punct '#' .alone ::
      .opening .bracket :: (lexemes (a.path ++ a.content.tokens) ++ [.closing .bracket]) := by
    simp [Attribute.tokens, ha.outer, Generated.group, Generated.operator, operatorLexemes]
  rw [hinside ha, hinside hb] at h
  simp only [List.cons.injEq, true_and, List.append_left_inj] at h
  rw [ha.isNamed_eq, hb.isNamed_eq, h]

/-- The conditions among attributes are told by the tokens of the attributes. -/
theorem lexemes_cfgAttributes {as bs : List Attribute} (has : ∀ a ∈ as, a.Formed)
    (hbs : ∀ b ∈ bs, b.Formed)
    (h : as.map (fun a => lexemes a.tokens) = bs.map fun b => lexemes b.tokens) :
    (cfgAttributes as).map (fun a => lexemes a.tokens)
      = (cfgAttributes bs).map fun b => lexemes b.tokens := by
  induction as generalizing bs with
  | nil =>
    obtain rfl : bs = [] := by simpa using h.symm
    rfl
  | cons a as ih =>
    cases bs with
    | nil => cases h
    | cons b bs =>
      simp only [List.map_cons, List.cons.injEq] at h
      have hname := (has a (by simp)).isNamed_congr (hbs b (by simp)) h.1 "cfg"
      have hmore := ih (fun c hc => has c (by simp [hc])) (fun c hc => hbs c (by simp [hc])) h.2
      simp only [cfgAttributes, List.filter_cons, hname] at hmore ⊢
      split
      · simp only [List.map_cons, h.1, hmore]
      · exact hmore

namespace Parser

variable {ph : Phrases} {c : Cursor} {rest : List Token}

theorem gives_anyGroup :
    Gives c anyGroup fun ts => ∃ d first us, ts = ⟨.opening d, first⟩ :: us := by
  refine Gives.ahead (Gives.ite (fun hgroup => ?_) fun _ => Gives.reject _)
  obtain ⟨d, first, us, htokens⟩ : ∃ d first us, c.tokens = ⟨.opening d, first⟩ :: us := by
    simp only [isParen, isBracket, isBrace, Bool.or_eq_true, groupStarts_iff] at hgroup
    obtain (⟨first, us, h⟩ | ⟨first, us, h⟩) | ⟨first, us, h⟩ := hgroup <;> exact ⟨_, first, us, h⟩
  intro ts c' h
  rw [take_apply, htokens] at h
  cases h
  exact ⟨d, first, _, rfl⟩

theorem gives_attributeContent : Gives c (attributeContent ph) fun content =>
    ∀ u ∈ content.tokens.head?, ∀ spacing, u.lexeme ≠ .punct ':' spacing := by
  refine Gives.ahead (Gives.ite (fun _ => ?_) fun _ => Gives.ite (fun _ => ?_) fun _ => ?_)
  · refine gives_anyGroup.bind fun ts d hts => ?_
    obtain ⟨delimiter, first, us, rfl⟩ := hts
    exact Gives.pure (by simp [Attribute.Content.tokens])
  · refine Gives.here (Gives.then_ fun _ d => Gives.ahead (Gives.ite (fun _ => Gives.reject _)
      fun _ => Gives.then_ fun value _ => Gives.pure ?_))
    simp [Attribute.Content.tokens, Generated.operator, operatorLexemes]
  · exact Gives.pure (by simp [Attribute.Content.tokens])

theorem gives_outerAttribute : Gives c (outerAttribute ph) Attribute.Formed := by
  refine Gives.here (Gives.then_ fun _ d => ?_)
  refine (Gives.bracketed (Q := fun r : List Token × Attribute.Content =>
    (∃ t us, r.1 = t :: us ∧ ∀ u ∈ us.head?, ∃ spacing, u.lexeme = .punct ':' spacing)
      ∧ ∀ u ∈ r.2.tokens.head?, ∀ spacing, u.lexeme ≠ .punct ':' spacing) fun e => ?_).bind
    fun r _ hr => Gives.pure ⟨rfl, hr.1, hr.2⟩
  refine Gives.ahead (Gives.ite (fun hword => ?_) fun _ => ?_)
  · obtain ⟨span, us, htokens⟩ := isWord_iff.1 hword
    refine (gives_take_word htokens).bind fun path _ hpath => ?_
    subst hpath
    exact gives_attributeContent.bind fun content _ hcontent =>
      Gives.pure ⟨⟨_, [], rfl, by simp⟩, hcontent⟩
  · refine gives_modPath.bind fun path _ hpath => ?_
    exact gives_attributeContent.bind fun content _ hcontent => Gives.pure ⟨hpath.begins, hcontent⟩

/-- Attributes that are read have their form. -/
theorem gives_outerAttributes : Gives c (outerAttributes ph) fun as => ∀ a ∈ as, a.Formed :=
  gives_repeatUntil _ fun _ => gives_outerAttribute

end Parser

/-! ## Visibilities -/

/-- What a visibility is restricted to is one of three words, or a path after `in`. -/
def Visibility.Formed : Visibility → Prop
  | .restricted scope =>
    (∃ word span, word ∈ ["crate", "self", "super"] ∧ scope = [⟨.ident word, span⟩])
      ∨ ∃ span path, scope = ⟨.ident "in", span⟩ :: path ∧ IsWordPath path
  | _ => True

namespace Parser

variable {c : Cursor} {rest : List Token}

/-- After `pub`, this is taken for what the visibility is restricted to. -/
def beginsRestriction (ts : List Token) : Bool :=
  let content := ts.drop 1
  isParen ts && ((isWord "crate" content || isWord "self" content || isWord "super" content)
    && atEnd (afterTree content) || isWord "in" content)

theorem gives_visibility : Gives c visibility Visibility.Formed := by
  refine Gives.ahead (Gives.ite (fun _ => Gives.then_ fun _ d => Gives.ahead ?_)
    fun _ => Gives.pure trivial)
  refine Gives.ite (fun hsingle => ?_) fun _ => Gives.ite (fun _ => ?_) fun _ => Gives.pure trivial
  · refine Gives.bind (Q := fun scope => ∃ word span, word ∈ ["crate", "self", "super"]
      ∧ scope = [⟨.ident word, span⟩]) ?_ fun scope _ hscope => Gives.pure (.inl hscope)
    intro scope c' h
    obtain ⟨r, _, hbracketed, hr⟩ := bind_eq_ok.1 h
    obtain ⟨first, us, a, e, htokens, hword, rfl, -⟩ := bracketed_eq_ok hbracketed
    cases hr
    obtain ⟨word, span, vs, hus, hresult⟩ := anyWord_eq_ok hword
    cases hresult
    simp only at hus
    refine ⟨word, span, ?_, rfl⟩
    rw [htokens, hus] at hsingle
    simp [isWord, Terminal.starts] at hsingle
    simp
    grind
  · refine (Gives.inside (Q := fun scope => ∃ span path, scope = ⟨.ident "in", span⟩ :: path
      ∧ IsWordPath path) fun e => ?_).bind fun scope _ hscope => Gives.pure (.inr hscope)
    intro scope c' h
    obtain ⟨a, e₁, hkeyword, h₁⟩ := bind_eq_ok.1 h
    obtain ⟨b, e₂, hrest, hscope⟩ := bind_eq_ok.1 h₁
    obtain ⟨path, e₃, hpath, h₂⟩ := bind_eq_ok.1 hrest
    obtain ⟨span, us, -, hr⟩ := keyword_eq_ok hkeyword
    cases hr
    cases h₂
    cases hscope
    exact ⟨span, path, by simp, gives_modPath _ _ hpath⟩

/-- What follows a visibility is not taken for a part of it. -/
def EndsVisibility : Visibility → List Token → Prop
  | .inherited, rest => isWord "pub" rest = false
  | .pub, rest => beginsRestriction rest = false
  | .restricted _, _ => True

/-- A visibility is read again. -/
theorem reads_visibility {v : Visibility} (h : v.Formed) (hrest : EndsVisibility v rest) :
    Reads visibility v.tokens rest fun u =>
      lexemes u.tokens = lexemes v.tokens ∧ u.access = v.access := by
  cases v with
  | inherited =>
    have hword : isWord "pub" rest = false := hrest
    exact Reads.ahead (Reads.ite_neg (by simp [Visibility.tokens, hword]) (Reads.pure ⟨rfl, rfl⟩))
  | pub =>
    refine Reads.ahead (Reads.ite_pos rfl ?_)
    refine (reads_keyword "pub" .outside).bind_last fun _ _ => Reads.ahead (Reads.ite_neg ?_
      (Reads.ite_neg ?_ (Reads.pure ⟨rfl, rfl⟩)))
    all_goals
      have hrest : beginsRestriction rest = false := hrest
      simp only [beginsRestriction, Bool.and_eq_false_iff, Bool.or_eq_false_iff] at hrest
      simp only [List.nil_append, Bool.and_eq_true, Bool.or_eq_true]
      grind
  | restricted scope =>
    refine Reads.ahead (Reads.ite_pos rfl ?_)
    refine (reads_keyword "pub" .outside).bind fun _ _ => Reads.ahead ?_
    rcases h with ⟨word, span, hword, rfl⟩ | ⟨span, path, rfl, hpath⟩
    · have hsingle : word = "crate" ∨ word = "self" ∨ word = "super" := by simpa using hword
      refine Reads.ite_pos (by rcases hsingle with rfl | rfl | rfl <;> rfl) ?_
      refine (Reads.inside (reads_anyWord word span)).bind_pure fun scope hscope => ?_
      subst hscope
      exact ⟨rfl, rfl⟩
    · refine Reads.ite_neg (by rintro ⟨⟩) (Reads.ite_pos rfl ?_)
      have hscope : Reads (seq [keyword "in", modPath]) ([⟨.ident "in", span⟩] ++ path)
          (⟨.closing .parenthesis, .outside⟩ :: rest)
          fun a => lexemes a = lexemes ([⟨.ident "in", span⟩] ++ path) :=
        Reads.seq_cons ((reads_keyword "in" span).mono fun a ha => by rw [ha])
          (Reads.seq_single (reads_modPath hpath rfl))
      refine (Reads.inside hscope).bind_pure fun scope hscope => ⟨?_, rfl⟩
      simp [Visibility.tokens, Generated.group, hscope]

end Parser

end Memberwise
