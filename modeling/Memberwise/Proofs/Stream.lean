import Memberwise.Token.Lexer
import Memberwise.Token.Tree

/-!
# Whole streams

A stream is whole if each bracket in it closes the group that was opened last, and no group is left
open. What is read from a text is whole, and so is every generated group. The flat form of a stream
allows more, which no source has.

## Main definitions

* `openAfter`: the groups that are open after some lexemes
* `Whole`: a stream of whole trees

## Main statements

* `splitGroup_whole`: a whole stream in a group is passed over to the closing bracket
* `lex_whole`: a text is read as a whole stream
-/

namespace Memberwise

/-- The groups that are open after the lexemes, innermost first, where `groups` were open before.
Nothing, if a bracket closes another group than the innermost. -/
def openAfter : List Delimiter → List Lexeme → Option (List Delimiter)
  | groups, [] => some groups
  | groups, .opening d :: rest => openAfter (d :: groups) rest
  | e :: groups, .closing d :: rest => if e = d then openAfter groups rest else none
  | [], .closing _ :: _ => none
  | groups, _ :: rest => openAfter groups rest

/-- Every group of the stream is closed in it. -/
def Whole (ts : List Token) : Prop := openAfter [] (lexemes ts) = some []

instance (ts : List Token) : Decidable (Whole ts) := inferInstanceAs (Decidable (_ = _))

/-! ## Lexemes -/

@[simp] theorem lexemes_nil : lexemes [] = [] := rfl

@[simp] theorem lexemes_cons (t : Token) (ts : List Token) :
    lexemes (t :: ts) = t.lexeme :: lexemes ts := rfl

@[simp] theorem lexemes_append (ts us : List Token) :
    lexemes (ts ++ us) = lexemes ts ++ lexemes us := List.map_append

@[simp] theorem length_lexemes (ts : List Token) : (lexemes ts).length = ts.length :=
  List.length_map _

/-! ## Open groups -/

/-- A lexeme that is no bracket leaves the groups as they are. -/
theorem openAfter_leaf (groups : List Delimiter) (l : Lexeme) (rest : List Lexeme)
    (hopen : ∀ d, l ≠ .opening d) (hclose : l.isClosing = false) :
    openAfter groups (l :: rest) = openAfter groups rest := by
  cases l with
  | opening d => exact absurd rfl (hopen d)
  | closing d => simp [Lexeme.isClosing] at hclose
  | ident | punct | literal => cases groups <;> rfl

theorem openAfter_append (groups : List Delimiter) (ls ms : List Lexeme) :
    openAfter groups (ls ++ ms) = (openAfter groups ls).bind (openAfter · ms) := by
  fun_induction openAfter groups ls <;> simp_all [openAfter]

/-- Groups around those that are open do not matter to what stays inside. -/
theorem openAfter_inside {groups groups' : List Delimiter} {ls : List Lexeme}
    (h : openAfter groups ls = some groups') (around : List Delimiter) :
    openAfter (groups ++ around) ls = some (groups' ++ around) := by
  fun_induction openAfter groups ls with
  | case1 groups => simp_all [openAfter]
  | case2 groups d rest ih => exact ih h
  | case3 groups d rest ih => simpa [openAfter] using ih h
  | case4 e groups d rest hne => simp at h
  | case5 d rest => simp at h
  | case6 groups l rest hopen hclose hnil ih =>
    rw [openAfter_leaf]
    · exact ih h
    · rintro d rfl; exact hopen d rfl
    · cases l with
      | closing d => cases groups with
        | nil => exact absurd rfl (hnil d rfl)
        | cons e groups => exact absurd rfl (hclose e groups d rfl)
      | ident | punct | literal | opening => rfl

theorem Whole.openAfter {ts : List Token} (h : Whole ts) (groups : List Delimiter) :
    openAfter groups (lexemes ts) = some groups := by
  simpa using openAfter_inside h groups

namespace Whole

theorem nil : Whole [] := rfl

theorem append {ts us : List Token} (ht : Whole ts) (hu : Whole us) : Whole (ts ++ us) := by
  rw [Whole, lexemes_append, openAfter_append, ht.openAfter]
  exact hu

/-- What follows whole trees is as whole as all of it. -/
theorem of_append {ts us : List Token} (ht : Whole ts) (h : Whole (ts ++ us)) : Whole us := by
  rw [Whole, lexemes_append, openAfter_append, ht.openAfter] at h
  exact h

theorem leaf (t : Token) (hopen : ∀ d, t.lexeme ≠ .opening d)
    (hclose : t.lexeme.isClosing = false) : Whole [t] := by
  rw [Whole, lexemes_cons, lexemes_nil, openAfter_leaf _ _ _ hopen hclose]
  rfl

theorem group (d : Delimiter) (first last : Span) {ts : List Token} (h : Whole ts) :
    Whole (⟨.opening d, first⟩ :: ts ++ [⟨.closing d, last⟩]) := by
  rw [Whole, List.cons_append, lexemes_cons, lexemes_append]
  show Memberwise.openAfter [d] _ = _
  rw [openAfter_append, h.openAfter]
  simp [Memberwise.openAfter]

end Whole

/-! ## Splitting groups -/

/-- What lies between two depths is passed over. -/
theorem splitGroup_append_of_openAfter {groups groups' : List Delimiter} {ts : List Token}
    (h : openAfter groups (lexemes ts) = some groups') (rest : List Token) :
    splitGroup groups.length (ts ++ rest)
      = (ts ++ (splitGroup groups'.length rest).1, (splitGroup groups'.length rest).2) := by
  induction ts generalizing groups with
  | nil => simp_all [openAfter]
  | cons t ts ih =>
    obtain ⟨l, span⟩ := t
    cases l with
    | opening d =>
      have := @ih (d :: groups) h
      simp_all [splitGroup]
    | closing d =>
      cases groups with
      | nil => simp [openAfter] at h
      | cons e groups =>
        by_cases he : e = d
        · have := @ih groups (by simpa [openAfter, he] using h)
          simp_all [splitGroup]
        · simp [openAfter, he] at h
    | ident | punct | literal =>
      have := @ih groups (by rw [← h]; cases groups <;> rfl)
      simp_all [splitGroup]

/-- Whole trees in a group are passed over to the bracket that closes it. -/
theorem splitGroup_whole {ts : List Token} (h : Whole ts) (d : Delimiter) (last : Span)
    (rest : List Token) :
    splitGroup 0 (ts ++ ⟨.closing d, last⟩ :: rest) = (ts ++ [⟨.closing d, last⟩], rest) := by
  have hsplit := splitGroup_append_of_openAfter h (⟨.closing d, last⟩ :: rest)
  simpa [splitGroup] using hsplit

/-- A group of whole trees is one tree. -/
theorem splitTree_group {ts : List Token} (h : Whole ts) (d : Delimiter) (first last : Span)
    (rest : List Token) :
    splitTree (⟨.opening d, first⟩ :: ts ++ ⟨.closing d, last⟩ :: rest)
      = (⟨.opening d, first⟩ :: ts ++ [⟨.closing d, last⟩], rest) := by
  simp [splitTree, splitGroup_whole h]

/-! ## Streams read from texts -/

namespace Lexer

theorem lexemes_placedIn (span : Span) (ts : List Token) :
    lexemes (ts.map (Token.placedIn span)) = lexemes ts := by
  simp only [lexemes, List.map_map]
  congr 1
  funext t
  simp only [Function.comp, Token.placedIn]
  split <;> rfl

/-- The attribute of a documentation comment is a whole stream. -/
theorem whole_docTokens (text : List Char) (inner : Bool) (span : Span) :
    Whole (docTokens text inner span) := by
  rw [Whole, docTokens, lexemes_placedIn]
  cases inner <;> rfl

theorem punctuationLexeme?_eq_some {cs rest : List Char} {l : Lexeme}
    (h : punctuationLexeme? cs = some (l, rest)) : ∃ c spacing, l = .punct c spacing := by
  simp only [punctuationLexeme?, bind, Option.bind_eq_some_iff] at h
  obtain ⟨⟨c, after⟩, -, h⟩ := h
  split at h
  · obtain ⟨⟨name, after⟩, -, h⟩ := Option.bind_eq_some_iff.1 h
    split at h
    · cases h
    · cases h; exact ⟨_, _, rfl⟩
  · cases h; exact ⟨_, _, rfl⟩

/-- A token that is read by itself is no bracket. -/
theorem leaf?_eq_some {cs rest : List Char} {l : Lexeme} (h : leaf? cs = some (l, rest)) :
    (∀ d, l ≠ .opening d) ∧ l.isClosing = false := by
  simp only [leaf?, Option.orElse_eq_orElse, Option.orElse_eq_or, Option.or_eq_some_iff,
    Option.map_eq_some_iff] at h
  obtain ⟨_, _, h⟩ | ⟨-, h | ⟨-, h | ⟨-, _, _, h⟩⟩⟩ := h
  · cases h; simp [Lexeme.isClosing]
  · obtain ⟨c, spacing, rfl⟩ := punctuationLexeme?_eq_some h
    simp [Lexeme.isClosing]
  · split at h
    · cases h
    · obtain ⟨_, _, h⟩ := Option.map_eq_some_iff.1 h
      cases h; simp [Lexeme.isClosing]
  · cases h; simp [Lexeme.isClosing]

/-- The groups that the state says are open are those that its tokens leave open. -/
def State.Consistent (s : State) : Prop :=
  openAfter [] (lexemes s.tokens.reverse) = some (s.groups.map Prod.fst)

theorem step_consistent {s next : State} (h : s.Consistent) (hstep : step s = .inl next) :
    next.Consistent := by
  simp only [step] at hstep
  split at hstep
  · cases hstep
    simp only [State.Consistent, List.reverse_append, List.reverse_reverse, lexemes_append] at *
    rw [openAfter_append, h]
    exact (whole_docTokens _ _ _).openAfter _
  · split at hstep
    · cases hstep
      simp only [State.Consistent, List.reverse_cons, lexemes_append] at *
      rw [openAfter_append, h]
      rfl
    · split at hstep
      · next d groups hgroups =>
        split at hstep
        · next hd =>
          cases hstep
          simp only [State.Consistent, List.reverse_cons, lexemes_append] at *
          rw [openAfter_append, h, hgroups]
          simp [openAfter, hd]
        · cases hstep
      · cases hstep
    · split at hstep
      · split at hstep <;> cases hstep
      · split at hstep
        · next l rest hleaf =>
          cases hstep
          obtain ⟨hopen, hclose⟩ := leaf?_eq_some hleaf
          simp only [State.Consistent, List.reverse_cons, lexemes_append] at *
          rw [openAfter_append, h]
          exact openAfter_leaf _ _ _ hopen hclose
        · cases hstep

theorem step_whole {s : State} {ts : List Token} (h : s.Consistent)
    (hstep : step s = .inr (.ok ts)) : Whole ts := by
  simp only [step] at hstep
  repeat' split at hstep
  all_goals try cases hstep
  next hgroups => simpa [State.Consistent, hgroups, Whole] using h

end Lexer

/-- A text is read as a whole stream. -/
theorem lex_whole {text : String} {ts : List Token} (h : lex text = .ok ts) : Whole ts := by
  have hlast : ∀ s result, s.Consistent → Lexer.step s = .inr result →
      ∀ ts, result = .ok ts → Whole ts := by
    rintro s _ hs hstep ts rfl
    exact Lexer.step_whole hs hstep
  rw [lex] at h
  exact @iterate_invariant _ _ _ _ _ Lexer.State.Consistent _ (fun _ _ => Lexer.step_consistent)
    hlast (fun _ _ _ h => by cases h) ⟨_, [], []⟩ rfl ts h

end Memberwise
