import Memberwise.Iterate
import Memberwise.Text.Scan
import Memberwise.Unicode.Printable

/-!
# Quoted text

The body of a text literal is a sequence of elements: plain characters, escapes, and a backslash
before a line break, which stands for nothing and takes the blanks after it along. Strings, byte
strings and C strings differ in the escapes they allow.

## Main definitions

* `Dialect`: what the three kinds of literal allow
* `element`: one element of a body
* `body`: the value up to the closing quote
* `quote`: the literal of a text
-/

namespace Memberwise.Text

/-- The kinds of quoted literal. -/
inductive Dialect where
  | string
  | byteString
  | cString
  deriving DecidableEq, Repr

namespace Dialect

/-- The two digits after `\x`: below 128 in a string, and not zero in a C string. -/
def allowsHex : Dialect → Nat → Bool
  | string, n => n < 0x80
  | byteString, _ => true
  | cString, n => n != 0

/-- The character after `\u`: a byte string has none, and a C string holds no zero. -/
def allowsUnicode : Dialect → Char → Bool
  | string, _ => true
  | byteString, _ => false
  | cString, c => c.toNat != 0

/-- Only a C string has no `\0`. -/
def allowsNul : Dialect → Bool
  | cString => false
  | _ => true

/-- A byte string is ASCII, and a C string holds no zero. -/
def allowsPlain : Dialect → Char → Bool
  | string, _ => true
  | byteString, c => c.toNat < 0x80
  | cString, c => c.toNat != 0

end Dialect

/-! ## Escapes -/

/-- The two digits of `\x`. -/
def hexEscape? : List Char → Option (Nat × List Char)
  | a :: b :: rest => do
    let high ← digitValue? a
    let low ← digitValue? b
    pure (high * 16 + low, rest)
  | _ => none

/-- The digits of `\u`, after the brace: one to six, with underscores anywhere but in front. -/
def unicodeDigits? (count value : Nat) : List Char → Option (Char × List Char)
  | [] => none
  | c :: rest =>
    if c = '_' ∧ 0 < count then unicodeDigits? count value rest
    else if c = '\x7d' ∧ 0 < count then
      if value.isValidChar then some (Char.ofNat value, rest) else none
    else
      match digitValue? c with
      | some digit =>
        if count = 6 then none else unicodeDigits? (count + 1) (value * 16 + digit) rest
      | none => none

/-- The braces after `\u`. -/
def unicodeEscape? : List Char → Option (Char × List Char)
  | '\x7b' :: rest => unicodeDigits? 0 0 rest
  | _ => none

/-- The escapes of one letter that all dialects share. -/
def simpleEscape? : Char → Option Char
  | 'n' => some '\n'
  | 'r' => some '\r'
  | 't' => some '\t'
  | '\x5c' => some '\x5c'
  | '\x27' => some '\x27'
  | '\x22' => some '\x22'
  | _ => none

/-- The character after a backslash that does not end its line. -/
def escape? (dialect : Dialect) : List Char → Option (Char × List Char)
  | [] => none
  | c :: rest =>
    if c = 'x' then do
      let (value, rest) ← hexEscape? rest
      if dialect.allowsHex value then some (Char.ofNat value, rest) else none
    else if c = 'u' then do
      let (value, rest) ← unicodeEscape? rest
      if dialect.allowsUnicode value then some (value, rest) else none
    else if c = '0' then
      if dialect.allowsNul then some ('\x00', rest) else none
    else (simpleEscape? c).map (·, rest)

/-! ## Bodies -/

/-- The blanks after a backslash that ends its line. A carriage return needs its line feed, and the
literal has to go on. -/
def continuation? : List Char → Option (List Char)
  | [] => none
  | '\r' :: '\n' :: rest => continuation? rest
  | '\r' :: _ => none
  | c :: rest => if c = ' ' ∨ c = '\t' ∨ c = '\n' then continuation? rest else some (c :: rest)

/-- One element of a body: its value, which is nothing for a broken line, and the rest. -/
def element? (dialect : Dialect) : List Char → Option (Option Char × List Char)
  | [] => none
  | '\r' :: '\n' :: rest => some (some '\n', rest)
  | '\r' :: _ => none
  | '\x5c' :: '\n' :: rest => (continuation? rest).map (none, ·)
  | '\x5c' :: '\r' :: rest => (continuation? ('\r' :: rest)).map (none, ·)
  | '\x5c' :: rest => (escape? dialect rest).map fun (c, rest) => (some c, rest)
  | c :: rest => if dialect.allowsPlain c then some (some c, rest) else none

/-- Reads one element of a body into its value, which is kept in reverse, or the closing quote. -/
def bodyRound (dialect : Dialect) :
    List Char × List Char → (List Char × List Char) ⊕ Option (List Char × List Char)
  | (value, '\x22' :: rest) => .inr (some (value.reverse, rest))
  | (value, cs) =>
    match element? dialect cs with
    | some (some c, rest) => .inl (c :: value, rest)
    | some (none, rest) => .inl (value, rest)
    | none => .inr none

/-- The value of a body and what follows its closing quote. -/
def body? (dialect : Dialect) (cs : List Char) : Option (List Char × List Char) :=
  iterate (fun state => state.2.length) (bodyRound dialect) (fun _ => none) ([], cs)

/-- The hashes and the quote that open a raw literal: how many hashes, and the rest. -/
def rawOpening? (cs : List Char) : Option (Nat × List Char) :=
  let hashes := (cs.takeWhile (· == '#')).length
  match cs.drop hashes with
  | '\x22' :: rest => if hashes ≤ 255 then some (hashes, rest) else none
  | _ => none

/-- The value of a raw body, which ends at a quote and as many hashes as opened it. -/
def rawBody? (dialect : Dialect) (hashes : Nat) : List Char → Option (List Char × List Char)
  | [] => none
  | c :: rest =>
    let closed := (List.replicate hashes '#').isPrefixOf rest
    if c = '\x22' ∧ closed then some ([], rest.drop hashes)
    else if c = '\r' ∧ ¬ headIs (· == '\n') rest then none
    else if dialect.allowsPlain c then
      (rawBody? dialect hashes rest).map fun (value, rest) => (c :: value, rest)
    else none

/-! ## Writing -/

/-- The digits of a number in base sixteen. -/
def hexDigits (n : Nat) : List Char :=
  Nat.toDigits 16 n

/-- One character of a text as its literal shows it. A zero is written so that a digit after it is
not read as part of it. -/
def quoteChar (c : Char) (next : Option Char) : List Char :=
  if c = '\x00' then
    if next.any fun d => '0' ≤ d && d ≤ '7' then ['\x5c', 'x', '0', '0'] else ['\x5c', '0']
  else if c = '\t' then ['\x5c', 't']
  else if c = '\r' then ['\x5c', 'r']
  else if c = '\n' then ['\x5c', 'n']
  else if c = '\x22' ∨ c = '\x5c' then ['\x5c', c]
  else if Unicode.extendsGrapheme c ∨ ¬ Unicode.isPrintable c then
    ['\x5c', 'u', '\x7b'] ++ hexDigits c.toNat ++ ['\x7d']
  else [c]

/-- The characters of a text as its literal shows them, without the quotes. -/
def quoteChars : List Char → List Char
  | [] => []
  | c :: rest => quoteChar c rest.head? ++ quoteChars rest

/-- The literal of a text. -/
def quote (text : String) : String :=
  String.ofList ('\x22' :: quoteChars text.toList ++ ['\x22'])

end Memberwise.Text
