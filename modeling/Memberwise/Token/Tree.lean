import Memberwise.Token

/-!
# Trees of tokens

A tree is a whole group, a lifetime, or any other single token. Looking ahead in a stream counts
trees, so a group counts as one however much it holds.

## Main definitions

* `splitTree`: the first tree of a stream, and the rest
-/

namespace Memberwise

/-- Splits a stream after the closing token that ends the group it starts in; `depth` more groups
have been opened since. -/
def splitGroup : Nat → List Token → List Token × List Token
  | _, [] => ([], [])
  | depth, t :: rest =>
    match t.lexeme, depth with
    | .closing _, 0 => ([t], rest)
    | .closing _, depth + 1 => let (group, after) := splitGroup depth rest; (t :: group, after)
    | .opening _, _ => let (group, after) := splitGroup (depth + 1) rest; (t :: group, after)
    | _, _ => let (group, after) := splitGroup depth rest; (t :: group, after)

/-- The first tree and what follows it. At the end of a group there is no tree. -/
def splitTree : List Token → List Token × List Token
  | [] => ([], [])
  | t :: rest =>
    match t.lexeme with
    | .opening _ => let (group, after) := splitGroup 0 rest; (t :: group, after)
    | .closing _ => ([], t :: rest)
    | .punct '\x27' _ =>
      match rest with
      | name :: after => if name.lexeme.isIdent then ([t, name], after) else ([t], rest)
      | [] => ([t], [])
    | _ => ([t], rest)

/-- The stream after its first tree. -/
def afterTree (ts : List Token) : List Token := (splitTree ts).2

/-- No tree is left before the end of the group or of the stream. -/
def atEnd : List Token → Bool
  | [] => true
  | t :: _ => t.lexeme.isClosing

theorem splitGroup_append (depth : Nat) (ts : List Token) :
    (splitGroup depth ts).1 ++ (splitGroup depth ts).2 = ts := by
  induction ts generalizing depth with
  | nil => rfl
  | cons t rest ih =>
    unfold splitGroup
    split <;> simp_all

/-- The first tree and the rest make up the stream. -/
theorem splitTree_append (ts : List Token) : (splitTree ts).1 ++ (splitTree ts).2 = ts := by
  cases ts with
  | nil => rfl
  | cons t rest =>
    simp only [splitTree]
    split
    · simp [splitGroup_append]
    · rfl
    · split
      · split <;> simp
      · simp
    · rfl

end Memberwise
