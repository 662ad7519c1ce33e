import PhpInterface.Description.Quoted
import PhpInterface.Proofs.WrittenDigits

/-!
# Texts in double quotes, piece by piece

A text between double quotes is a sequence of pieces: characters that stand for themselves, and escapes of
five kinds.  A `Piece` is one of them with all that makes it well formed, `Piece.text` is how it is written
and `Piece.meaning` what it stands for.  The pieces of a text do not disturb each other
(`double_quoted_by_pieces`): digits after an escape with digits are no part of it, and a brace before an
escaped dollar sign opens nothing.

The reader looks one character ahead in one place only.  A brace that a dollar sign follows at once starts
an interpolation, so that a piece must not be followed by a dollar sign that could stay.  `SafeAfter` says
that of the rest of a text; no piece starts with a dollar sign, so it holds all the way from the end of the
text to its beginning.
-/

namespace PhpInterface.Description

open Decimal Source

/-! ## Pieces -/

/-- The letters after a backslash that stand for one character each, and these characters. -/
def simpleEscapes : List (Char × Char) :=
  [('n', '\n'), ('t', '\t'), ('r', '\r'), ('v', '\x0b'), ('e', '\x1b'), ('f', '\x0c'), ('\\', '\\'),
   ('$', '$'), ('\x22', '\x22')]

/-- The characters that make an escape with a backslash in front of them. -/
def escapeStarts : List Char :=
  simpleEscapes.map Prod.fst ++ ['0', '1', '2', '3', '4', '5', '6', '7', 'x', 'u']

/-- A piece of a text between double quotes. -/
inductive Piece where
  /-- a character that stands for itself -/
  | plain (c : Char) (hplain : c ≠ '\\' ∧ c ≠ '$' ∧ c ≠ '\x22')
  /-- a backslash and a letter -/
  | simple (letter value : Char) (hsimple : (letter, value) ∈ simpleEscapes)
  /-- a backslash and three digits of base eight that give a character by themselves -/
  | octal (a b c : Digit 8) (hbyte : Digit.number [a, b, c] < 0x80)
  /-- a backslash, an `x` and two digits of base sixteen that give a character by themselves -/
  | hex (a b : Digit 16) (hbyte : Digit.number [a, b] < 0x80)
  /-- a backslash, a `u` and the number of a character in braces -/
  | codePoint (digits : List (Digit 16)) (hlength : 1 ≤ digits.length ∧ digits.length ≤ 6)
      (hscalar : (Digit.number digits).isValidChar)
  /-- a backslash before a character with which it makes no escape -/
  | kept (c : Char) (hkept : c ∉ escapeStarts)

namespace Piece

/-- The piece as it is written. -/
def text : Piece → List Char
  | plain c _ => [c]
  | simple letter _ _ => ['\\', letter]
  | octal a b c _ => ['\\', a.char, b.char, c.char]
  | hex a b _ => ['\\', 'x', a.char, b.char]
  | codePoint digits _ _ => '\\' :: 'u' :: '\x7b' :: (digits.map Digit.char ++ ['\x7d'])
  | kept c _ => ['\\', c]

/-- What the piece stands for. -/
def meaning : Piece → List Char
  | plain c _ => [c]
  | simple _ value _ => [value]
  | octal a b c _ => [Char.ofNat (Digit.number [a, b, c])]
  | hex a b _ => [Char.ofNat (Digit.number [a, b])]
  | codePoint digits _ _ => [Char.ofNat (Digit.number digits)]
  | kept c _ => ['\\', c]

/-- A dollar sign always belongs to an escape. -/
lemma head?_text (p : Piece) (tail : List Char) : (p.text ++ tail).head? ≠ some '$' := by
  cases p with
  | plain c hplain => simpa [text] using hplain.2.1
  | simple | octal | hex | codePoint | kept => simp [text]

end Piece

/-! ## Escapes -/

lemma simpleEscape?_of_mem {letter value : Char} (h : (letter, value) ∈ simpleEscapes) :
    simpleEscape? letter = some value := by
  have hall : simpleEscapes.all (fun e => simpleEscape? e.1 == some e.2) = true := by decide
  simpa using List.all_eq_true.1 hall _ h

/-- A digit stands for no character by itself. -/
lemma simpleEscape?_digit (d : Digit 8) : simpleEscape? d.char = none :=
  d.forall_char (P := fun c _ => simpleEscape? c = none) (by decide) (Nat.le_refl 8)

lemma escape_simple {letter value : Char} (h : (letter, value) ∈ simpleEscapes) (tail : List Char) :
    escape (letter :: tail) = some ([value], tail) := by
  unfold escape
  dsimp only
  rw [simpleEscape?_of_mem h]

lemma escape_octal (a b c : Digit 8) (hbyte : Digit.number [a, b, c] < 0x80) (tail : List Char) :
    escape (a.char :: b.char :: c.char :: tail) = some ([Char.ofNat (Digit.number [a, b, c])], tail) := by
  have hdigit : ∀ d : Digit 8, isOctalDigit d.char = true := fun d => d.isOctalDigit_char (Nat.le_refl 8)
  have hread : ((a.char :: b.char :: c.char :: tail).take 3).takeWhile isOctalDigit =
      [a, b, c].map Digit.char := by
    simp [hdigit]
  unfold escape
  dsimp only
  rw [simpleEscape?_digit]
  dsimp only
  rw [if_pos (hdigit a), octalEscape, hread, Digit.numeral_map_char _ (by decide), asciiChar?, if_pos hbyte]
  rfl

lemma escape_hex (a b : Digit 16) (hbyte : Digit.number [a, b] < 0x80) (tail : List Char) :
    escape ('x' :: a.char :: b.char :: tail) = some ([Char.ofNat (Digit.number [a, b])], tail) := by
  have hdigit : ∀ d : Digit 16, isHexDigit d.char = true := fun d => d.isHexDigit_char (Nat.le_refl 16)
  have hread : ((a.char :: b.char :: tail).take 2).takeWhile isHexDigit = [a, b].map Digit.char := by
    simp [hdigit]
  have hletter : escape ('x' :: a.char :: b.char :: tail) = hexEscape (a.char :: b.char :: tail) := rfl
  rw [hletter, hexEscape, hread, Digit.numeral_map_char _ (by decide), asciiChar?, if_pos hbyte]
  rfl

lemma escape_codePoint {digits : List (Digit 16)} (hlength : 1 ≤ digits.length ∧ digits.length ≤ 6)
    (hscalar : (Digit.number digits).isValidChar) (tail : List Char) :
    escape ('u' :: '\x7b' :: (digits.map Digit.char ++ '\x7d' :: tail)) =
      some ([Char.ofNat (Digit.number digits)], tail) := by
  have hdigit : ∀ c ∈ digits.map Digit.char, isHexDigit c = true := by
    simp only [List.mem_map, forall_exists_index, and_imp, forall_apply_eq_imp_iff₂]
    exact fun d _ => d.isHexDigit_char (Nat.le_refl 16)
  -- six characters hold all digits, and the closing brace is none of them
  have hread : ((digits.map Digit.char ++ '\x7d' :: tail).take 6).takeWhile isHexDigit =
      digits.map Digit.char := by
    rw [List.take_append, List.take_of_length_le (by simpa using hlength.2),
      List.takeWhile_append_of_pos hdigit]
    cases 6 - (digits.map Digit.char).length with
    | zero => simp
    | succ k => simp [isHexDigit]
  have hletter : escape ('u' :: '\x7b' :: (digits.map Digit.char ++ '\x7d' :: tail)) =
      codePointEscape (digits.map Digit.char ++ '\x7d' :: tail) := rfl
  have hnonempty : (digits.map Digit.char).isEmpty = false := by
    rw [List.isEmpty_eq_false_iff, Ne, List.map_eq_nil_iff]
    rintro rfl
    simp at hlength
  rw [hletter, codePointEscape, hread, List.drop_left]
  dsimp only
  rw [if_pos ⟨rfl, by simpa using hnonempty⟩, Digit.numeral_map_char _ (by decide), codePoint?,
    if_pos hscalar]
  rfl

/-- No escape starts with a character that is not listed. -/
lemma simpleEscape?_of_not_mem {c : Char} (h : c ∉ simpleEscapes.map Prod.fst) : simpleEscape? c = none := by
  simp only [simpleEscapes, List.map_cons, List.map_nil, List.mem_cons, List.not_mem_nil, or_false, not_or] at h
  obtain ⟨hn, ht, hr, hv, he, hf, hlast⟩ := h
  rw [simpleEscape?, if_neg hn, if_neg ht, if_neg hr, if_neg hv, if_neg he, if_neg hf, if_neg]
  simpa only [not_or] using hlast

lemma mem_of_isOctalDigit {c : Char} (h : isOctalDigit c = true) :
    c ∈ ['0', '1', '2', '3', '4', '5', '6', '7'] := by
  rw [isOctalDigit, Bool.and_eq_true, decide_eq_true_eq, decide_eq_true_eq] at h
  have hlow : 48 ≤ c.toNat := h.1
  have hhigh : c.toNat ≤ 55 := h.2
  have hall : ∀ k < 8, Char.ofNat (48 + k) ∈ ['0', '1', '2', '3', '4', '5', '6', '7'] := by decide
  have hc := hall (c.toNat - 48) (by omega)
  rwa [Nat.add_sub_cancel' hlow, Char.ofNat_toNat] at hc

lemma escape_kept {c : Char} (h : c ∉ escapeStarts) (tail : List Char) :
    escape (c :: tail) = some (['\\'], c :: tail) := by
  rw [escapeStarts, List.mem_append, not_or] at h
  have hdigit : isOctalDigit c = false := by
    rw [← Bool.not_eq_true]
    intro hdigit
    exact h.2 (List.mem_append_left ['x', 'u'] (mem_of_isOctalDigit hdigit))
  have hx : c ≠ 'x' := by
    rintro rfl
    exact h.2 (by decide)
  have hu : c ≠ 'u' := by
    rintro rfl
    exact h.2 (by decide)
  unfold escape
  dsimp only
  rw [simpleEscape?_of_not_mem h.1]
  dsimp only
  rw [hdigit, if_neg Bool.false_ne_true, if_neg hx, if_neg hu]

/-! ## A piece and what comes after it -/

/-- A dollar sign at the beginning of the text starts an interpolation, if there is one. -/
def SafeAfter (tail : List Char) : Prop :=
  tail.head? = some '$' → doubleQuoted? tail = none

lemma doubleQuoted?_cons {c : Char} {rest value after : List Char}
    (h : quotedPiece c rest = some (value, after)) :
    doubleQuoted? (c :: rest) = (doubleQuoted? after).map (value ++ ·) := by
  rw [doubleQuoted?]
  split
  · next hnone => rw [hnone] at h; cases h
  · next hsome => rw [hsome] at h; cases h; rfl

lemma doubleQuoted?_cons_of_none {c : Char} {rest : List Char} (h : quotedPiece c rest = none) :
    doubleQuoted? (c :: rest) = none := by
  rw [doubleQuoted?]
  split
  · rfl
  · next hsome => rw [hsome] at h; cases h

/-- A character that stands for itself. -/
lemma doubleQuoted?_plain {c : Char} {tail : List Char} (hslash : c ≠ '\\') (hdollar : c ≠ '$')
    (htail : SafeAfter tail) : doubleQuoted? (c :: tail) = (doubleQuoted? tail).map (c :: ·) := by
  by_cases hbrace : c = '\x7b' ∧ tail.head? = some '$'
  · -- the brace and the dollar sign together are refused, and so is the dollar sign alone
    rw [htail hbrace.2, doubleQuoted?_cons_of_none]
    · rfl
    · rw [quotedPiece, if_neg hdollar, if_pos hbrace.1, if_pos hbrace.2]
  · have hpiece : quotedPiece c tail = some ([c], tail) := by
      by_cases hopen : c = '\x7b'
      · rw [quotedPiece, if_neg hdollar, if_pos hopen, if_neg fun hhead => hbrace ⟨hopen, hhead⟩]
      · rw [quotedPiece, if_neg hdollar, if_neg hopen, if_neg hslash]
    exact doubleQuoted?_cons hpiece

lemma doubleQuoted?_escape {rest value after : List Char} (h : escape rest = some (value, after)) :
    doubleQuoted? ('\\' :: rest) = (doubleQuoted? after).map (value ++ ·) := by
  refine doubleQuoted?_cons ?_
  rw [quotedPiece, if_neg (by decide), if_neg (by decide), if_pos rfl, h]

/-- A piece is read as what it stands for, and the rest as if the piece had not been there. -/
lemma doubleQuoted?_piece (p : Piece) {tail : List Char} (htail : SafeAfter tail) :
    doubleQuoted? (p.text ++ tail) = (doubleQuoted? tail).map (p.meaning ++ ·) := by
  cases p with
  | plain c hplain => exact doubleQuoted?_plain hplain.1 hplain.2.1 htail
  | simple letter value hsimple => exact doubleQuoted?_escape (escape_simple hsimple tail)
  | octal a b c hbyte => exact doubleQuoted?_escape (escape_octal a b c hbyte tail)
  | hex a b hbyte => exact doubleQuoted?_escape (escape_hex a b hbyte tail)
  | codePoint digits hlength hscalar =>
      simp only [Piece.text, List.cons_append, List.append_assoc, List.nil_append]
      exact doubleQuoted?_escape (escape_codePoint hlength hscalar tail)
  | kept c hkept =>
      -- the backslash is one piece for the reader and the character after it another
      have hslash : c ≠ '\\' := by
        rintro rfl
        exact hkept (by decide)
      have hdollar : c ≠ '$' := by
        rintro rfl
        exact hkept (by decide)
      refine (doubleQuoted?_escape (escape_kept hkept tail)).trans ?_
      rw [doubleQuoted?_plain hslash hdollar htail, Option.map_map]
      rfl

/-- Pieces are read one after the other, whatever comes after them. -/
lemma doubleQuoted?_pieces (l : List Piece) {tail : List Char} (htail : SafeAfter tail) :
    doubleQuoted? (l.flatMap Piece.text ++ tail) = (doubleQuoted? tail).map (l.flatMap Piece.meaning ++ ·) := by
  induction l with
  | nil => simp
  | cons p l ih =>
      have hrest : SafeAfter (l.flatMap Piece.text ++ tail) := by
        cases l with
        | nil => exact htail
        | cons q l =>
            intro hhead
            rw [List.flatMap_cons, List.append_assoc] at hhead
            exact absurd hhead (q.head?_text _)
      rw [List.flatMap_cons, List.append_assoc, doubleQuoted?_piece p hrest, ih, Option.map_map]
      simp [Function.comp_def]

/-! ## Whole texts -/

/-- A text of pieces stands for what the pieces stand for, one after the other.  And if after some pieces a
dollar sign stands with a letter, an underscore, a character beyond ASCII or a brace behind it, the whole
text has no value. -/
theorem double_quoted_by_pieces (l : List Piece) :
    doubleQuoted? (l.flatMap Piece.text) = some (l.flatMap Piece.meaning) ∧
      ∀ (c : Char) (rest : List Char), c.isAlpha = true ∨ c = '_' ∨ 0x80 ≤ c.toNat ∨ c = '\x7b' →
        doubleQuoted? (l.flatMap Piece.text ++ '$' :: c :: rest) = none := by
  constructor
  · have hend : SafeAfter [] := fun h => nomatch h
    simpa [doubleQuoted?] using doubleQuoted?_pieces l hend
  · intro c rest hc
    have hvariable : startsVariable (c :: rest) = true := by
      simpa [startsVariable, or_assoc, or_comm, or_left_comm] using hc
    have hnone : doubleQuoted? ('$' :: c :: rest) = none := by
      refine doubleQuoted?_cons_of_none ?_
      rw [quotedPiece, if_pos rfl, if_pos hvariable]
    rw [doubleQuoted?_pieces l fun _ => hnone, hnone]
    rfl

/-- Pieces of every kind, next to such as could run together with them: a brace before a dollar sign, and
digits after digits. -/
def mixedPieces : List Piece :=
  [.plain '\x7b' (by decide), .simple '$' '$' (by decide),
   .octal ⟨1, false⟩ ⟨0, false⟩ ⟨1, false⟩ (by decide), .plain '7' (by decide),
   .hex ⟨4, false⟩ ⟨13, true⟩ (by decide), .plain 'f' (by decide),
   .codePoint [⟨1, false⟩, ⟨15, true⟩, ⟨6, false⟩, ⟨0, false⟩, ⟨0, false⟩] (by decide) (by decide),
   .kept '8' (by decide), .simple 'n' '\n' (by decide)]

theorem double_quoted_by_pieces_mixed :
    mixedPieces.flatMap Piece.text = "\x7b\\$\\1017\\x4Df\\u\x7b1F600\x7d\\8\\n".toList ∧
      mixedPieces.flatMap Piece.meaning = "\x7b$A7Mf😀\\8\n".toList ∧
      doubleQuoted? (mixedPieces.flatMap Piece.text) = some (mixedPieces.flatMap Piece.meaning) ∧
      'a'.isAlpha = true ∧ doubleQuoted? (mixedPieces.flatMap Piece.text ++ '$' :: 'a' :: ['b']) = none := by
  obtain ⟨hpieces, hdollar⟩ := double_quoted_by_pieces mixedPieces
  have hletter : 'a'.isAlpha = true := by decide
  exact ⟨by decide, by decide, hpieces, hletter, hdollar 'a' ['b'] (.inl hletter)⟩

end PhpInterface.Description
