import PhpInterface.Source.Call

/-!
# Quoted texts

A text in single quotes holds nothing but characters.  A text in double quotes, a shell command and a
text of several lines can also hold variables and whole expressions, and these have to be right.

A text of several lines ends at a line that starts with its label, but only if a semicolon, a comma, a
closing parenthesis or the end of the line follows there.  The text is taken line by line, and after
everything that is not plain text in it the label is looked for again.
-/

namespace PhpInterface.Source

open Reader

/-- A character that belongs to a label, and starts a variable in a text unless it is a digit. -/
def isLabelPart (c : Char) : Bool :=
  c == '_' || c.isAlphanum || 0x80 ≤ c.toNat

/-- The character ends a line. -/
def endsLine (c : Char) : Bool :=
  c == '\n' || c == '\r'

/-! ## What is not plain text -/

/-- An escape starts here. -/
def startsEscape : List Char → Bool
  | '\\' :: c :: rest =>
    "nrtvef\\$\x22u".toList.contains c || isOctalDigit c || (c == 'x' && rest.head?.any isHexDigit)
  | _ => false

/-- A variable or an expression starts here. -/
def startsInterpolation : List Char → Bool
  | '$' :: c :: _ => c == '\x7b' || (isLabelPart c && !c.isDigit)
  | '\x7b' :: c :: _ => c == '$'
  | _ => false

section

variable (n : Nested)

/-- The index after a variable in a text: a word, an integer or another variable. -/
def textIndex : Reader Unit := do
  char '['
  oneOf
    [do let _ ← word,
     do let _ ← variableName,
     do
      let _ ← optional? (symbol "-")
      let _ ← gap
      let _ ← integerToken]
  symbol "]"

/-- The member after a variable in a text. -/
def textMember : Reader Unit := do
  exactly ['-', '>']
  let _ ← word

/-- A variable in a text, with the index or the member that may follow it at once. -/
def textVariable : Reader Unit := do
  let _ ← variableName
  if ← sees (char '[') then textIndex
  else if ← sees (do exactly ['-', '>']; one isLabelPart) then textMember

/-- A variable or an expression in a text. -/
def interpolation : Reader Unit := do
  require (startsInterpolation (← get))
  if ← sees (char '\x7b') then
    char '\x7b'
    let _ ← n.value .inner
    symbol "\x7d"
  else if ← sees (exactly ['$', '\x7b']) then simpleVariable n
  else textVariable

/-! ## Texts in quotes -/

/-- The rest after a text in single quotes, whose opening quote is taken already. -/
def skipSingleQuoted : List Char → Option (List Char)
  | [] => none
  | '\\' :: _ :: rest => skipSingleQuoted rest
  | c :: rest => if c = '\x27' then some rest else skipSingleQuoted rest

/-- A backslash in a text up to this quote, with the character that belongs to it. -/
def escapedPiece (quote : Char) : Reader Unit := do
  if startsEscape (← get) then
    char '\\'
    let _ ← one fun _ => true
  else
    char '\\'
    let _ ← optional? (one fun c => c == '\x7b' || (c == '\x60' && quote == c))

/-- A piece of a text up to this quote. -/
def quotedPart (quote : Char) : Reader Unit := fun s =>
  match s with
  | [] => none
  | c :: rest =>
    if c = quote then none
    else if c = '\\' then escapedPiece quote s
    else if startsInterpolation s then interpolation n s
    else
      some ((), rest.dropWhile fun d => d != quote && d != '\\' && d != '$' && d != '\x7b')

/-- The rest of a text up to and with this quote. -/
def quotedRest (quote : Char) : Reader Unit := do
  let _ ← many (quotedPart n quote)
  char quote

/-- A text in single or double quotes, after the letter that may stand in front of it. -/
def quotedText : Reader Operand := do
  let (_, text) ← spelled (do
    let _ ← optional? (one fun c => c.toLower == 'b')
    let quote ← one fun c => c == '\x27' || c == '\x22'
    if quote == '\x27' then
      fun s => (skipSingleQuoted s).map fun rest => ((), rest)
    else quotedRest n quote)
  pure { expr := .quoted (String.ofList text), form := .value, pattern := none }

/-- A shell command. -/
def shellCommand : Reader Operand := do
  char '\x60'
  quotedRest n '\x60'
  pure (.plain .closed)

/-! ## Texts of several lines -/

/-- The label stands here, and what follows it makes clear that the text ends. -/
def seesEndLabel (label : List Char) : Reader Bool :=
  sees (do
    exactly label
    let _ ← run fun c => isAsciiBlank c && !endsLine c
    one fun c => c == ';' || c == ',' || c == ')' || endsLine c)

/-- Plain text of a line up to the next line end, or to something that is not plain; `none` if the file
ends before. -/
def plainRest (literal : Bool) : List Char → Option (List Char)
  | [] => none
  | '\\' :: c :: rest =>
    if literal then plainRest literal (c :: rest)
    else if c = '\x7b' ∨ c = '\\' then plainRest literal rest
    else if startsEscape ('\\' :: c :: rest) then some ('\\' :: c :: rest)
    else plainRest literal (c :: rest)
  | c :: rest =>
    if endsLine c || (!literal && startsInterpolation (c :: rest)) then some (c :: rest)
    else plainRest literal rest

/-- Plain text, with the blanks and line ends in front of it, unless the end label follows these. -/
def plainText (label : List Char) (literal : Bool) : Reader Unit := do
  let start ← get
  let _ ← run isAsciiBlank
  require (!(← seesEndLabel label))
  let s ← get
  match plainRest literal s with
  | some rest =>
    require (rest.length < start.length)
    set rest
  | none => failure

/-- A piece of a text of several lines. -/
def linesPart (label : List Char) (literal : Bool) : Reader Unit :=
  if literal then plainText label true
  else
    oneOf
      [plainText label false,
       do
        require (startsEscape (← get))
        char '\\'
        let _ ← one fun _ => true,
       interpolation n]

/-- The end of a line. -/
def lineEnd : Reader Unit :=
  oneOf [exactly ['\r', '\n'], char '\n', char '\r']

/-- The label that ends a text, with the blanks and line ends in front of it. -/
def endLabel (label : List Char) : Reader Unit := do
  let _ ← run isAsciiBlank
  exactly label
  require (!(← sees (one isLabelPart)))

/-- The part of a gap that can stand before the end of a line. -/
def lineGap : Reader Unit := do
  let _ ← many (oneOf
    [do let _ ← one fun c => isSeparator c && !endsLine c,
     do let _ ← comment])

/-- The lines of a text after its first line, up to and with the label. -/
def linesRest (label : List Char) (literal : Bool) : Reader Unit :=
  oneOf
    [endLabel label,
     do
      lineGap
      lineEnd
      let _ ← many1 (linesPart n label literal)
      lineGap
      lineEnd
      endLabel label]

/-- A text of several lines, with its label in front. -/
def linesText : Reader Operand := do
  exactly ['<', '<', '<']
  let _ ← run isAsciiBlank
  let quote ← optional? (one fun c => c == '\x22' || c == '\x27')
  let c ← one isLabelPart
  let more ← run isLabelPart
  match quote with
  | some '\x27' => char '\x27'
  | _ =>
    let _ ← optional? (char '\x22')
  linesRest n (c :: more) (quote == some '\x27')
  pure (.plain .value)

end

end PhpInterface.Source
