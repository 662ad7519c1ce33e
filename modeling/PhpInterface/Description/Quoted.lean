import PhpInterface.Decimal.Numeral
import PhpInterface.Source.Number

/-!
# What quoted texts mean

In single quotes a backslash stands for itself, except before a quote or another backslash.  In double
quotes it starts an escape.  A text in double quotes has no value here if it interpolates a variable,
or if an escape gives a byte that is no character by itself.

A text in double quotes is read in pieces: a plain character or one escape at a time.
-/

namespace PhpInterface.Description

open Decimal Source

/-- The text between single quotes. -/
def singleQuoted : List Char → List Char
  | '\\' :: c :: rest =>
    if c = '\\' ∨ c = '\x27' then c :: singleQuoted rest else '\\' :: singleQuoted (c :: rest)
  | c :: rest => c :: singleQuoted rest
  | [] => []

/-- The character that a letter after a backslash stands for. -/
def simpleEscape? (c : Char) : Option Char :=
  if c = 'n' then some '\n'
  else if c = 't' then some '\t'
  else if c = 'r' then some '\r'
  else if c = 'v' then some '\x0b'
  else if c = 'e' then some '\x1b'
  else if c = 'f' then some '\x0c'
  else if c = '\\' ∨ c = '$' ∨ c = '\x22' then some c
  else none

/-- The character that a single byte is, if it is one. -/
def asciiChar? (n : Nat) : Option Char :=
  if n < 0x80 then some (Char.ofNat n) else none

/-- The character with this number, if there is one. -/
def codePoint? (n : Nat) : Option Char :=
  if n.isValidChar then some (Char.ofNat n) else none

/-- Up to three digits of base eight: the character with that number. -/
def octalEscape (s : List Char) : Option (List Char × List Char) :=
  let ds := (s.take 3).takeWhile isOctalDigit
  (asciiChar? (numeral 8 ds)).map fun value => ([value], s.drop ds.length)

/-- Up to two digits of base sixteen, after the letter: the character with that number.  Without
digits the backslash and the letter stand for themselves. -/
def hexEscape (s : List Char) : Option (List Char × List Char) :=
  let ds := (s.take 2).takeWhile isHexDigit
  if ds.isEmpty then some (['\\', 'x'], s)
  else (asciiChar? (numeral 16 ds)).map fun value => ([value], s.drop ds.length)

/-- One to six digits of base sixteen and the closing brace, after the opening one: the character with
that number. -/
def codePointEscape (s : List Char) : Option (List Char × List Char) :=
  let ds := (s.take 6).takeWhile isHexDigit
  match s.drop ds.length with
  | [] => none
  | c :: after =>
    if c = '\x7d' ∧ !ds.isEmpty then
      (codePoint? (numeral 16 ds)).map fun value => ([value], after)
    else none

/-- An escape, after its backslash: what it stands for, and the rest.  A backslash that starts no
escape stands for itself. -/
def escape : List Char → Option (List Char × List Char)
  | [] => some (['\\'], [])
  | c :: rest =>
    match simpleEscape? c with
    | some value => some ([value], rest)
    | none =>
      if isOctalDigit c then octalEscape (c :: rest)
      else if c = 'x' then hexEscape rest
      else if c = 'u' then
        match rest with
        | '\x7b' :: inner => codePointEscape inner
        | _ => some (['\\', 'u'], rest)
      else some (['\\'], c :: rest)

/-- A dollar sign before this text interpolates a variable. -/
def startsVariable : List Char → Bool
  | [] => false
  | c :: _ => c == '_' || c == '\x7b' || c.isAlpha || c.toNat ≥ 0x80

/-- The first piece of a text in double quotes: what it stands for, and the rest. -/
def quotedPiece (c : Char) (rest : List Char) : Option (List Char × List Char) :=
  if c = '$' then if startsVariable rest then none else some ([c], rest)
  else if c = '\x7b' then if rest.head? = some '$' then none else some ([c], rest)
  else if c = '\\' then escape rest
  else some ([c], rest)

theorem length_octalEscape {s value rest : List Char} (h : octalEscape s = some (value, rest)) :
    rest.length ≤ s.length := by
  simp only [octalEscape, Option.map_eq_some_iff, Prod.mk.injEq] at h
  obtain ⟨_, _, _, rfl⟩ := h
  simp

theorem length_hexEscape {s value rest : List Char} (h : hexEscape s = some (value, rest)) :
    rest.length ≤ s.length := by
  simp only [hexEscape] at h
  split at h
  · simp_all
  · simp only [Option.map_eq_some_iff, Prod.mk.injEq] at h
    obtain ⟨_, _, _, rfl⟩ := h
    simp

theorem length_codePointEscape {s value rest : List Char}
    (h : codePointEscape s = some (value, rest)) : rest.length ≤ s.length := by
  simp only [codePointEscape] at h
  split at h
  · simp at h
  · next c after hdrop =>
    split at h
    · simp only [Option.map_eq_some_iff, Prod.mk.injEq] at h
      obtain ⟨_, _, _, rfl⟩ := h
      have := congrArg List.length hdrop
      simp only [List.length_drop, List.length_cons] at this
      omega
    · simp at h

theorem length_escape {s value rest : List Char} (h : escape s = some (value, rest)) :
    rest.length ≤ s.length := by
  unfold escape at h
  split at h
  · simp_all
  · next c tail =>
    split at h
    · simp_all
    · split at h
      · exact length_octalEscape h
      · split at h
        · exact Nat.le_succ_of_le (length_hexEscape h)
        · split at h
          · split at h
            · exact Nat.le_succ_of_le (Nat.le_succ_of_le (length_codePointEscape h))
            · simp_all
          · simp_all

theorem length_quotedPiece {c : Char} {s value rest : List Char}
    (h : quotedPiece c s = some (value, rest)) : rest.length ≤ s.length := by
  unfold quotedPiece at h
  split at h
  · split at h <;> simp_all
  · split at h
    · split at h <;> simp_all
    · split at h
      · exact length_escape h
      · simp_all

/-- The text between double quotes. -/
def doubleQuoted? : List Char → Option (List Char)
  | [] => some []
  | c :: rest =>
    match _h : quotedPiece c rest with
    | none => none
    | some (value, after) => (doubleQuoted? after).map (value ++ ·)
termination_by s => s.length
decreasing_by
  have := length_quotedPiece _h
  simp only [List.length_cons]
  omega

/-- The text without the letter for byte strings in front. -/
def dropByteMark : List Char → List Char
  | [] => []
  | c :: rest => if c = 'b' ∨ c = 'B' then rest else c :: rest

/-- The value of a quoted token. -/
def quotedValue? (token : List Char) : Option (List Char) :=
  match dropByteMark token with
  | [] => none
  | quote :: rest =>
    if quote = '\x27' then some (singleQuoted rest.dropLast) else doubleQuoted? rest.dropLast

end PhpInterface.Description
