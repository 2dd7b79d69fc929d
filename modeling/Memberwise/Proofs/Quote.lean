import Mathlib.Algebra.Group.Nat.Defs
import Memberwise.Text.Literal

/-!
# Reading quoted texts back

The literal of a text stands for the text. Each character is written as one element, which is read
as that character whatever follows it, so the elements of a body are read one by one up to the
closing quote.

## Main statements

* `element?_quoteChar`: what is written for a character is one element
* `body?_quoteChars`: what is written for a text is the body of a literal
* `ofText?_quote`: the literal of a text has the text as its value, and no suffix
-/

namespace Memberwise.Text

/-! ## Digits -/

theorem digitValue?_digitChar {d : Nat} (h : d < 16) : digitValue? (Nat.digitChar d) = some d := by
  have hall : ∀ d : Fin 16, digitValue? (Nat.digitChar d) = some d.val := by decide
  exact hall ⟨d, h⟩

theorem digitChar_ne {d : Nat} (h : d < 16) :
    Nat.digitChar d ≠ '_' ∧ Nat.digitChar d ≠ '\x7d' := by
  have hall : ∀ d : Fin 16, Nat.digitChar d ≠ '_' ∧ Nat.digitChar d ≠ '\x7d' := by decide
  exact hall ⟨d, h⟩

/-- One more digit of a code point. -/
theorem unicodeDigits?_digitChar {count value d : Nat} (hcount : count < 6) (h : d < 16)
    (rest : List Char) :
    unicodeDigits? count value (Nat.digitChar d :: rest)
      = unicodeDigits? (count + 1) (value * 16 + d) rest := by
  obtain ⟨hline, hbrace⟩ := digitChar_ne h
  simp [unicodeDigits?, digitValue?_digitChar h, hline, hbrace, Nat.ne_of_lt hcount]

/-- The digits of a number that has at most six of them add up to it. -/
theorem unicodeDigits?_hexDigits {k n : Nat} (hk : k ≤ 5) (hn : n < 16 ^ (k + 1))
    (rest : List Char) :
    ∃ count, 0 < count ∧ count ≤ k + 1 ∧
      unicodeDigits? 0 0 (hexDigits n ++ rest) = unicodeDigits? count n rest := by
  -- Induction on the number of digits, of which the last is taken off.
  induction k generalizing n rest with
  | zero =>
    have hn : n < 16 := by simpa using hn
    refine ⟨1, Nat.one_pos, Nat.le_refl _, ?_⟩
    rw [hexDigits, Nat.toDigits_of_lt_base hn, List.singleton_append,
      unicodeDigits?_digitChar (by omega) hn]
    simp
  | succ k ih =>
    by_cases hsmall : n < 16
    · refine ⟨1, Nat.one_pos, by omega, ?_⟩
      rw [hexDigits, Nat.toDigits_of_lt_base hsmall, List.singleton_append,
        unicodeDigits?_digitChar (by omega) hsmall]
      simp
    · have hdiv : n / 16 < 16 ^ (k + 1) := by
        rw [Nat.div_lt_iff_lt_mul (by decide)]
        simpa [Nat.pow_succ] using hn
      have hmod : n % 16 < 16 := Nat.mod_lt _ (by decide)
      obtain ⟨count, hpos, hcount, hread⟩ :=
        ih (by omega) hdiv (Nat.digitChar (n % 16) :: rest)
      refine ⟨count + 1, Nat.succ_pos _, by omega, ?_⟩
      rw [hexDigits, Nat.toDigits_of_base_le (by decide) (by omega), List.append_assoc,
        List.singleton_append]
      rw [hexDigits] at hread
      rw [hread, unicodeDigits?_digitChar (by omega) hmod]
      congr 1
      omega

/-- The code point of a character in braces is read as the character. -/
theorem unicodeEscape?_hexDigits (c : Char) (rest : List Char) :
    unicodeEscape? ('\x7b' :: (hexDigits c.toNat ++ '\x7d' :: rest)) = some (c, rest) := by
  have hvalid : c.toNat.isValidChar := c.valid
  have hsize : c.toNat < 16 ^ (5 + 1) := by
    simp only [Nat.isValidChar] at hvalid
    omega
  obtain ⟨count, hpos, -, hread⟩ :=
    unicodeDigits?_hexDigits (Nat.le_refl 5) hsize ('\x7d' :: rest)
  rw [unicodeEscape?, hread]
  simp [unicodeDigits?, hpos, hvalid, Char.ofNat_toNat]

/-! ## Elements -/

/-- A character that is written as it is. -/
theorem element?_plain {c : Char} (hslash : c ≠ '\x5c') (hreturn : c ≠ '\r') (rest : List Char) :
    element? .string (c :: rest) = some (some c, rest) := by
  unfold element?
  split <;> simp_all [Dialect.allowsPlain]

/-- An escape, other than a backslash at the end of a line, is an element. -/
theorem element?_escape {c : Char} {d : Char} {rest after : List Char}
    (hline : d ≠ '\n') (hreturn : d ≠ '\r') (h : escape? .string (d :: rest) = some (c, after)) :
    element? .string ('\x5c' :: d :: rest) = some (some c, after) := by
  unfold element?
  split
  case h_7 hslash hcs => exact absurd (List.cons.inj hcs).1.symm hslash
  all_goals simp_all

/-- What is written for a character is read as one element, and as that character. -/
theorem element?_quoteChar (c : Char) (next : Option Char) (rest : List Char) :
    element? .string (quoteChar c next ++ rest) = some (some c, rest) := by
  unfold quoteChar
  split
  · next hnul =>
    subst hnul
    split
    · exact element?_escape (by decide) (by decide) rfl
    · exact element?_escape (by decide) (by decide) rfl
  · split
    · next htab =>
      subst htab
      exact element?_escape (by decide) (by decide) rfl
    · split
      · next hreturn =>
        subst hreturn
        exact element?_escape (by decide) (by decide) rfl
      · next hreturn =>
        split
        · next hline =>
          subst hline
          exact element?_escape (by decide) (by decide) rfl
        · split
          · next hquote =>
            obtain rfl | rfl := hquote
            · exact element?_escape (by decide) (by decide) rfl
            · exact element?_escape (by decide) (by decide) rfl
          · next hquote =>
            split
            · refine element?_escape (by decide) (by decide) ?_
              simp [escape?, unicodeEscape?_hexDigits, Dialect.allowsUnicode]
            · exact element?_plain (fun h => hquote (.inr h)) hreturn rest

/-- What is written for a character does not begin like the end of a literal. -/
theorem quoteChar_eq_cons (c : Char) (next : Option Char) :
    ∃ d ds, quoteChar c next = d :: ds ∧ d ≠ '\x22' := by
  unfold quoteChar
  split
  · split <;> exact ⟨_, _, rfl, by decide⟩
  · split
    · exact ⟨_, _, rfl, by decide⟩
    · split
      · exact ⟨_, _, rfl, by decide⟩
      · split
        · exact ⟨_, _, rfl, by decide⟩
        · split
          · exact ⟨_, _, rfl, by decide⟩
          · next hquote =>
            split
            · exact ⟨_, _, rfl, by decide⟩
            · exact ⟨_, _, rfl, fun h => hquote (.inl h)⟩

/-! ## Bodies -/

/-- What is written for a character is read as the character. -/
theorem bodyRound_quoteChar (value : List Char) (c : Char) (next : Option Char) (rest : List Char) :
    bodyRound .string (value, quoteChar c next ++ rest) = .inl (c :: value, rest) := by
  obtain ⟨d, ds, hquote, hd⟩ := quoteChar_eq_cons c next
  have helement := element?_quoteChar c next rest
  rw [hquote] at helement ⊢
  simp only [List.cons_append] at helement ⊢
  rw [bodyRound, helement]
  intro _ h
  exact hd (List.cons.inj h).1

/-- What is written for a text is read up to the quote after it. -/
theorem body?_quoteChars (cs rest : List Char) :
    body? .string (quoteChars cs ++ '\x22' :: rest) = some (cs, rest) := by
  -- The value is read into an accumulator, the last character of it first.
  suffices general : ∀ value : List Char,
      iterate (fun state => state.2.length) (bodyRound .string) (fun _ => none)
        (value, quoteChars cs ++ '\x22' :: rest) = some (value.reverse ++ cs, rest) by
    exact general []
  induction cs with
  | nil =>
    intro value
    rw [iterate_eq]
    simp [quoteChars, bodyRound]
  | cons c cs ih =>
    intro value
    obtain ⟨d, ds, hquote, -⟩ := quoteChar_eq_cons c cs.head?
    rw [iterate_eq, quoteChars, List.append_assoc, bodyRound_quoteChar]
    simp only [hquote, List.cons_append, List.length_cons, List.length_append]
    rw [if_pos (by omega), ih]
    simp

/-- The literal of a text has the text as its value, and no suffix. -/
theorem ofText?_quote (text : String) :
    StringLiteral.ofText? (quote text) = some ⟨text, ""⟩ := by
  simp [StringLiteral.ofText?, quote, body?_quoteChars, String.ofList_toList]

theorem isString_quote (text : String) : isString (quote text) = true := by
  simp [isString, quote, headIs]

end Memberwise.Text
