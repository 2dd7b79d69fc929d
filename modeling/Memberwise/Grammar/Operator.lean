import Memberwise.Grammar.Phrase

/-!
# Operators

The operators between two operands and how tightly they bind, and the tokens with which an
expression can begin or after which a range has no end.

## Main definitions

* `binaryOperator?`, `nextPrecedence`
* `beginsExpression`, `endsRange`, `afterCast?`
-/

namespace Memberwise

/-- The operators between two operands, longer ones before their beginnings. -/
def binaryOperators : List (String × Precedence) :=
  [("+=", .assign), ("-=", .assign), ("*=", .assign), ("/=", .assign), ("%=", .assign),
   ("^=", .assign), ("&=", .assign), ("|=", .assign), ("<<=", .assign), (">>=", .assign),
   ("&&", .and), ("||", .or), ("<<", .shift), (">>", .shift), ("==", .compare), ("<=", .compare),
   ("!=", .compare), (">=", .compare), ("+", .sum), ("-", .sum), ("*", .product), ("/", .product),
   ("%", .product), ("^", .bitXor), ("&", .bitAnd), ("|", .bitOr), ("<", .compare),
   (">", .compare)]

/-- The operator that comes next, with its precedence. -/
def binaryOperator? (ts : List Token) : Option (String × Precedence) :=
  binaryOperators.find? fun (text, _) => isOp text ts

/-- An assignment comes next, and not the arrow of a match arm. -/
def isAssignment (ts : List Token) : Bool := isOp "=" ts && !isOp "=>" ts

/-- The precedence of whatever operator comes next. -/
def nextPrecedence (ts : List Token) : Precedence :=
  match binaryOperator? ts with
  | some (_, precedence) => precedence
  | none =>
    if isAssignment ts then .assign
    else if isOp ".." ts then .range
    else if isWord "as" ts then .cast
    else .lowest

/-- An expression can begin here. -/
def beginsExpression (ts : List Token) : Bool :=
  (Terminal.word.starts ts && !isWord "as" ts)
    || isParen ts || isBracket ts || isBrace ts || isLiteral ts
    || (isOp "!" ts && !isOp "!=" ts)
    || (isOp "-" ts && !isOp "-=" ts && !isOp "->" ts)
    || (isOp "*" ts && !isOp "*=" ts)
    || (isOp "|" ts && !isOp "|=" ts)
    || (isOp "&" ts && !isOp "&=" ts)
    || isOp ".." ts || isAngle ts || isOp "::" ts || isLifetime ts || isOp "#" ts

/-- A dot that is not the beginning of a range. -/
def isDot (ts : List Token) : Bool := isOp "." ts && !isOp ".." ts

/-- After the two dots of a range, its end is left open. -/
def endsRange (braces : Bool) (ts : List Token) : Bool :=
  atEnd ts || isDot ts || (!braces && isBrace ts) || isWord "as" ts
    || [",", ";", "?", "=>", "=", "+", "/", "%", "^", ">", "<=", "!=", "-=", "*=", "&=", "|=",
        "<<="].any (isOp · ts)

/-- What would follow a cast, although nothing that binds to its operand may. -/
def afterCast? (ts : List Token) : Option String :=
  let second := afterTree ts
  let third := afterTree second
  if isDot ts then
    if isWord "await" second then some "`.await`"
    else if isIdent second && (isParen third || isOp "::" third) then some "a method call"
    else some "a field access"
  else if isOp "?" ts then some "`?`"
  else if isBracket ts then some "indexing"
  else if isParen ts then some "a function call"
  else none

end Memberwise
