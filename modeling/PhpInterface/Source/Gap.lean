import PhpInterface.Text.Reader

/-!
# Gaps

Between two tokens of a program stand blanks, comments and text outside the program: a closing tag
leaves the program, and what follows is page text up to the next opening tag.  All of these together
are a gap.  A closing tag also ends a statement wherever a semicolon could do so.  At such a place a
gap therefore stops before the tag, and `Position` says which places these are.

A gap remembers its comments, because the comment right before a method documents it, and its pages,
because a page inside a type or a literal keeps it from being understood.

Every part of a gap takes something (`length_gapPart`), so that reading one comes to an end.
-/

namespace PhpInterface.Source

open Reader

/-- A part of a gap. -/
inductive GapPart where
  | blank
  | comment (text : List Char)
  /-- from a closing tag to the next opening tag -/
  | page (text : List Char)
  deriving DecidableEq, Inhabited

/-- Whether a statement can end at a place. -/
inductive Position where
  /-- more of the statement has to follow -/
  | inner
  /-- a semicolon can follow, and so can a closing tag in its stead -/
  | last
  deriving DecidableEq, Inhabited

/-- A blank of ASCII. -/
def isAsciiBlank (c : Char) : Bool :=
  c == ' ' || (0x09 ≤ c.toNat && c.toNat ≤ 0x0D)

/-- A character that separates tokens.  Of the characters outside ASCII only four do; all others up to
U+FFFF are letters of names. -/
def isSeparator (c : Char) : Bool :=
  isAsciiBlank c || c.toNat == 0xA0 || c.toNat == 0x200B || c.toNat == 0x2060 || c.toNat == 0xFEFF

/-! ## Comments -/

/-- The rest of a line comment.  A question mark belongs to it with the character after it, unless that
is `>` or ends the line; one at the very end of the line is taken with the line end. -/
def lineCommentRest : List Char → List Char × List Char
  | [] => ([], [])
  | '?' :: c :: rest =>
    if c = '\n' then (['?', c], rest)
    else if c = '\r' then
      match rest with
      | '\n' :: after => (['?', c, '\n'], after)
      | _ => ([], '?' :: c :: rest)
    else if c = '>' then ([], '?' :: c :: rest)
    else
      let (text, after) := lineCommentRest rest
      ('?' :: c :: text, after)
  | c :: rest =>
    if c = '?' ∨ c = '\r' ∨ c = '\n' then ([], c :: rest)
    else
      let (text, after) := lineCommentRest rest
      (c :: text, after)

/-- The rest of a block comment, up to and with the first `*/`. -/
def blockCommentRest? : List Char → Option (List Char × List Char)
  | [] => none
  | '*' :: '/' :: rest => some (['*', '/'], rest)
  | c :: rest => (blockCommentRest? rest).map fun (text, after) => (c :: text, after)

/-- A comment: `//` or `#` to the end of the line, or `/*` to the first `*/`.  Before a question mark
and before an opening bracket the hash is a comment by itself. -/
def comment : Reader (List Char)
  | '/' :: '/' :: rest =>
    let (text, after) := lineCommentRest rest
    some ('/' :: '/' :: text, after)
  | '/' :: '*' :: rest => (blockCommentRest? rest).map fun (text, after) => ('/' :: '*' :: text, after)
  | '#' :: '[' :: rest => some (['#'], '[' :: rest)
  | '#' :: '?' :: rest => some (['#'], '?' :: rest)
  | '#' :: rest =>
    let (text, after) := lineCommentRest rest
    some ('#' :: text, after)
  | _ => none

/-! ## Pages -/

/-- What belongs to an opening tag after `<?`, with the program after it. -/
def tagRest : List Char → List Char × List Char
  | '=' :: rest => (['='], rest)
  | p :: h :: q :: rest =>
    if p.toLower = 'p' ∧ h.toLower = 'h' ∧ q.toLower = 'p' then ([p, h, q], rest)
    else ([], p :: h :: q :: rest)
  | s => ([], s)

/-- Page text up to and with the next opening tag, and the program after it. -/
def pageRest : List Char → List Char × List Char
  | [] => ([], [])
  | '<' :: '?' :: rest =>
    let (tag, code) := tagRest rest
    ('<' :: '?' :: tag, code)
  | c :: rest =>
    let (text, code) := pageRest rest
    (c :: text, code)

/-- Only blanks and line comments are left; the flag tells whether a comment is open. -/
def isBareEnd : Bool → List Char → Bool
  | _, [] => true
  | true, c :: rest => isBareEnd (c != '\n') rest
  | false, '/' :: '/' :: rest => isBareEnd true rest
  | false, c :: rest => isAsciiBlank c && isBareEnd false rest

/-- A closing tag with the page text after it.  A page without text at the end of a file ends at once,
so that what looks like a line comment there is one. -/
def page : Reader (List Char)
  | '?' :: '>' :: rest =>
    if isBareEnd false rest then some (['?', '>'], rest)
    else
      let (text, code) := pageRest rest
      some ('?' :: '>' :: text, code)
  | _ => none

/-! ## Gaps -/

/-- An attribute starts here. -/
def startsAttribute : List Char → Bool
  | '#' :: '[' :: _ => true
  | _ => false

/-- One part of a gap.  At the end of a statement it is no page, and where attributes can stand
(`attributes`) it is not the beginning of one. -/
def gapPart (p : Position) (attributes : Bool) : Reader GapPart
  | [] => none
  | c :: rest =>
    if isSeparator c then some (.blank, rest.dropWhile isSeparator)
    else if attributes && startsAttribute (c :: rest) then none
    else
      match p, page (c :: rest) with
      | .inner, some (text, after) => some (.page text, after)
      | _, _ => (comment (c :: rest)).map fun (text, after) => (.comment text, after)

theorem length_lineCommentRest (s : List Char) : (lineCommentRest s).2.length ≤ s.length := by
  fun_induction lineCommentRest s <;> simp_all <;> omega

theorem length_blockCommentRest? {s text rest : List Char}
    (h : blockCommentRest? s = some (text, rest)) : rest.length < s.length := by
  fun_induction blockCommentRest? s generalizing text with
  | case1 => simp at h
  | case2 =>
    simp only [Option.some.injEq, Prod.mk.injEq] at h
    obtain ⟨_, rfl⟩ := h
    simp only [List.length_cons]
    omega
  | case3 c s _ ih =>
    simp only [Option.map_eq_some_iff, Prod.mk.injEq, Prod.exists] at h
    obtain ⟨_, _, h, _, rfl⟩ := h
    simp only [List.length_cons]
    exact Nat.lt_succ_of_lt (ih h)

theorem length_comment {s text rest : List Char} (h : comment s = some (text, rest)) :
    rest.length < s.length := by
  unfold comment at h
  split at h
  · next s =>
    simp only [Option.some.injEq, Prod.mk.injEq] at h
    obtain ⟨_, rfl⟩ := h
    have := length_lineCommentRest s
    simp only [List.length_cons]
    omega
  · simp only [Option.map_eq_some_iff, Prod.mk.injEq, Prod.exists] at h
    obtain ⟨_, _, h, _, rfl⟩ := h
    have := length_blockCommentRest? h
    simp only [List.length_cons]
    omega
  · simp_all
  · simp_all
  · next s _ _ =>
    simp only [Option.some.injEq, Prod.mk.injEq] at h
    obtain ⟨_, rfl⟩ := h
    have := length_lineCommentRest s
    simp only [List.length_cons]
    omega
  · simp at h

theorem length_tagRest (s : List Char) : (tagRest s).2.length ≤ s.length := by
  fun_cases tagRest s with
  | case1 rest => exact Nat.le_succ _
  | case2 p h q rest _ =>
    simp only [List.length_cons]
    omega
  | case3 => exact Nat.le_refl _
  | case4 => exact Nat.le_refl _

theorem length_pageRest (s : List Char) : (pageRest s).2.length ≤ s.length := by
  fun_induction pageRest s with
  | case1 => simp
  | case2 rest tag code h =>
    have := length_tagRest rest
    simp_all
    omega
  | case3 => simp_all; omega

theorem length_page {s text rest : List Char} (h : page s = some (text, rest)) :
    rest.length < s.length := by
  unfold page at h
  split at h
  · next s =>
    have := length_pageRest s
    split at h <;>
    · simp only [Option.some.injEq, Prod.mk.injEq] at h
      obtain ⟨_, rfl⟩ := h
      simp only [List.length_cons]
      omega
  · simp at h

/-- A part of a gap takes something. -/
theorem length_gapPart {p : Position} {attributes : Bool} {s rest : List Char} {part : GapPart}
    (h : gapPart p attributes s = some (part, rest)) : rest.length < s.length := by
  unfold gapPart at h
  split at h
  · simp at h
  · next c s =>
    split at h
    · simp only [Option.some.injEq, Prod.mk.injEq] at h
      obtain ⟨_, rfl⟩ := h
      have := (List.dropWhile_suffix isSeparator (l := s)).length_le
      simp only [List.length_cons]
      omega
    · split at h
      · simp at h
      · split at h
        · next hpage =>
          simp only [Option.some.injEq, Prod.mk.injEq] at h
          obtain ⟨_, rfl⟩ := h
          exact length_page hpage
        · simp only [Option.map_eq_some_iff, Prod.mk.injEq, Prod.exists] at h
          obtain ⟨_, _, h, _, rfl⟩ := h
          exact length_comment h

/-- The parts of a gap, and the text after it. -/
def gapParts (p : Position) (attributes : Bool) (s : List Char) : List GapPart × List Char :=
  match _h : gapPart p attributes s with
  | none => ([], s)
  | some (part, rest) =>
    let (more, last) := gapParts p attributes rest
    (part :: more, last)
termination_by s.length
decreasing_by exact length_gapPart _h

/-- Everything up to the next token at this place. -/
def gapAt (p : Position) : Reader (List GapPart) :=
  fun s => some (gapParts p false s)

/-- Everything up to the next token. -/
def gap : Reader (List GapPart) :=
  gapAt .inner

/-- Everything up to the next token, where that can be an attribute. -/
def openGap : Reader (List GapPart) :=
  fun s => some (gapParts .inner true s)

/-- The comment that a gap ends with, blanks apart. -/
def lastComment? (parts : List GapPart) : Option (List Char) :=
  match (parts.filter (· != .blank)).getLast? with
  | some (.comment text) => some text
  | _ => none

/-- The page texts of a gap. -/
def pages (parts : List GapPart) : List (List Char) :=
  parts.filterMap fun
    | .page text => some text
    | _ => none

/-! ## Tokens -/

/-- A symbol at this place. -/
def symbolAt (p : Position) (s : String) : Reader Unit := do
  let _ ← gapAt p
  exactly s.toList

/-- A symbol. -/
def symbol (s : String) : Reader Unit :=
  symbolAt .inner s

/-- A colon at this place that does not belong to a double one. -/
def colonAt (p : Position) : Reader Unit := do
  symbolAt p ":"
  require (!(← sees (char ':')))

/-- The end of a statement: a semicolon, or a closing tag, which is left standing. -/
def semicolon : Reader Unit := do
  let _ ← gapAt .last
  oneOf [char ';', do require (← sees page)]

end PhpInterface.Source
