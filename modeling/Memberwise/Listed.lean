import Memberwise.Parser.Basic

/-!
# Separated lists

Items with a separator between any two, and perhaps one after the last.

## Main definitions

* `Listed`, `Listed.tokens`
* `Listed.sortedBy`: the items of one sort first
* `Parser.separated`, `Parser.joined`: reading such a list
-/

namespace Memberwise

/-- Items with a separator between any two. -/
structure Listed (α : Type) where
  items : List α
  /-- A separator follows the last item. -/
  trailing : Bool := false
  deriving DecidableEq, Repr

namespace Listed

variable {α β : Type}

/-- The list without items. -/
def empty : Listed α := ⟨[], false⟩

/-- There are no items. -/
def isEmpty (l : Listed α) : Bool := l.items.isEmpty

/-- The same list of other items. -/
def map (f : α → β) (l : Listed α) : Listed β := ⟨l.items.map f, l.trailing⟩

/-- The tokens of the items, with `separator` between any two. -/
def between (separator : List Token) : List (List Token) → List Token
  | [] => []
  | [last] => last
  | first :: second :: rest => first ++ separator ++ between separator (second :: rest)

/-- The tokens of the list. -/
def tokens (separator : List Token) (f : α → List Token) (l : Listed α) : List Token :=
  between separator (l.items.map f)
    ++ (if l.trailing && !l.isEmpty then separator else [])

/-- Moves the items of one sort to the front and keeps the order among them and among the others.
Each item takes along the separator after it, so the new last item keeps one unless it was last. -/
def sortedBy (early : α → Bool) (l : Listed α) : Listed α where
  items := l.items.filter early ++ l.items.filter (!early ·)
  trailing := l.trailing || (l.items.getLast?.any early && l.items.any (!early ·))

@[simp] theorem isEmpty_map (f : α → β) (l : Listed α) : (l.map f).isEmpty = l.isEmpty := by
  simp [isEmpty, map]

/-- A list begins with its first item. -/
theorem tokens_cons (separator : List Token) (f : α → List Token) (a : α) (items : List α)
    (trailing : Bool) :
    ∃ rest, (⟨a :: items, trailing⟩ : Listed α).tokens separator f = f a ++ rest := by
  cases items with
  | nil => exact ⟨_, rfl⟩
  | cons b items => exact ⟨_, by simp only [tokens, between, List.map_cons, List.append_assoc]; rfl⟩

/-- A list in which a separator follows every item. -/
theorem tokens_trailing (separator : List Token) (f : α → List Token) (items : List α) :
    (⟨items, !items.isEmpty⟩ : Listed α).tokens separator f
      = items.flatMap fun a => f a ++ separator := by
  induction items with
  | nil => rfl
  | cons a items ih =>
    cases items with
    | nil => simp [tokens, between, isEmpty]
    | cons b items => simp_all [tokens, between, isEmpty]

/-- A list in which a separator follows every item but the last. -/
theorem tokens_concat (separator : List Token) (f : α → List Token) (items : List α) (last : α) :
    (⟨items ++ [last], false⟩ : Listed α).tokens separator f
      = (items.flatMap fun a => f a ++ separator) ++ f last := by
  induction items with
  | nil => simp [tokens, between]
  | cons a items ih =>
    cases items with
    | nil => simp_all [tokens, between]
    | cons b items => simp_all [tokens, between]

/-! ## Order -/

theorem mem_sortedBy {early : α → Bool} {l : Listed α} {a : α} :
    a ∈ (l.sortedBy early).items ↔ a ∈ l.items := by
  cases hearly : early a <;> simp [sortedBy, hearly]

@[simp] theorem isEmpty_sortedBy (early : α → Bool) (l : Listed α) :
    (l.sortedBy early).isEmpty = l.isEmpty := by
  rw [Bool.eq_iff_iff, isEmpty, isEmpty, List.isEmpty_iff, List.isEmpty_iff,
    List.eq_nil_iff_forall_not_mem, List.eq_nil_iff_forall_not_mem]
  simp only [mem_sortedBy]

/-- Those of the sort come first. -/
theorem pairwise_sortedBy (early : α → Bool) (l : Listed α) :
    (l.sortedBy early).items.Pairwise fun a b => early b = true → early a = true := by
  refine List.pairwise_append.2 ⟨?_, ?_, fun a ha b _ _ => (List.mem_filter.1 ha).2⟩
  · exact List.pairwise_of_forall_mem_list fun a ha b _ _ => (List.mem_filter.1 ha).2
  · refine List.pairwise_of_forall_mem_list fun a _ b hb hearly => ?_
    have hlate : early b = false := by simpa using (List.mem_filter.1 hb).2
    rw [hlate] at hearly
    cases hearly

theorem filter_append_filter {early : α → Bool} {items : List α}
    (h : items.Pairwise fun a b => early b = true → early a = true) :
    items.filter early ++ items.filter (!early ·) = items := by
  induction items with
  | nil => rfl
  | cons a items ih =>
    obtain ⟨ha, hitems⟩ := List.pairwise_cons.1 h
    by_cases hearly : early a
    · simp [hearly, ih hitems]
    · have hlate : ∀ b ∈ items, early b = false := fun b hb => by
        simpa using mt (ha b hb) hearly
      have hnone : items.filter early = [] := List.filter_eq_nil_iff.2 (by simpa using hlate)
      have hall : items.filter (!early ·) = items := List.filter_eq_self.2 (by simpa using hlate)
      simp [hearly, hnone, hall]

/-- Items that are in order already are left where they are. -/
theorem sortedBy_of_pairwise {early : α → Bool} {l : Listed α}
    (h : l.items.Pairwise fun a b => early b = true → early a = true) : l.sortedBy early = l := by
  obtain ⟨items, trailing⟩ := l
  have hlast : (items.getLast?.any early && items.any (!early ·)) = false := by
    obtain rfl | ⟨init, last, rfl⟩ := List.eq_nil_or_concat items
    · rfl
    · rw [List.concat_eq_append] at h ⊢
      obtain ⟨-, -, hinit⟩ := List.pairwise_append.1 h
      cases hearly : early last with
      | false => simp [hearly]
      | true =>
        have hall : ∀ a ∈ init, early a = true := fun a ha => hinit a ha last (by simp) hearly
        simpa [hearly] using hall
  simp only [sortedBy, filter_append_filter h, hlast, Bool.or_false]

end Listed

namespace Parser

variable {α : Type}

/-- Reads items until the stream is as `stop` says, with a separator between any two. -/
def separated (stop : List Token → Bool) (separator : String) (item : Parser α) :
    Parser (Listed α) :=
  loop (fun items => do
    if stop (← ahead) then return .inr ⟨items.reverse, !items.isEmpty⟩
    let items := (← item) :: items
    if stop (← ahead) then return .inr ⟨items.reverse, false⟩
    let _ ← operator separator
    return .inl items) []

/-- Reads items as long as separators follow, or until the stream is as `stop` says. -/
def joined (stop : List Token → Bool) (separator : String) (item : Parser α) :
    Parser (Listed α) :=
  loop (fun items => do
    if stop (← ahead) then return .inr ⟨items.reverse, !items.isEmpty⟩
    let items := (← item) :: items
    if !isOp separator (← ahead) then return .inr ⟨items.reverse, false⟩
    let _ ← operator separator
    return .inl items) []

/-- The tokens of a list of token lists, separated by commas to the end of the group. -/
def commaSeparated (item : Parser (List Token)) : Parser (List Token) := do
  return (← separated atEnd "," item).tokens (Generated.operator ",") id

end Parser

end Memberwise
