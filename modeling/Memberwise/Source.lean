/-!
# Places in a text

A position is a line and a column; a span runs from a position up to, and not including, another.
Lines count from one and end only at a line feed; columns count characters from zero.

## Main definitions

* `Position`, `Position.after`
* `Span`, `Span.join`, `Span.outside`
-/

namespace Memberwise

/-- A place between two characters of a text. -/
structure Position where
  line : Nat
  column : Nat
  deriving DecidableEq, Repr, Inhabited

namespace Position

/-- The place before the first character. -/
def start : Position := ⟨1, 0⟩

/-- The place after one more character. -/
def next (p : Position) (c : Char) : Position :=
  if c = '\n' then ⟨p.line + 1, 0⟩ else ⟨p.line, p.column + 1⟩

/-- The place after more characters. -/
def after (p : Position) (cs : List Char) : Position :=
  cs.foldl next p

end Position

/-- A piece of a text. -/
structure Span where
  start : Position
  stop : Position
  deriving DecidableEq, Repr, Inhabited

namespace Span

/-- Nothing, at one place. -/
def empty (p : Position) : Span := ⟨p, p⟩

/-- What is not in the text at all is placed at its start. -/
def outside : Span := empty .start

/-- From the start of one span to the end of another. -/
def join (first last : Span) : Span := ⟨first.start, last.stop⟩

/-- The first character of a span that starts with no line break. -/
def firstChar (s : Span) : Span := ⟨s.start, ⟨s.start.line, s.start.column + 1⟩⟩

/-- The last character of a span that ends with no line break. -/
def lastChar (s : Span) : Span := ⟨⟨s.stop.line, s.stop.column - 1⟩, s.stop⟩

end Span

end Memberwise
