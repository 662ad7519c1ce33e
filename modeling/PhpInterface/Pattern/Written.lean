import PhpInterface.Decimal.Numeral
import PhpInterface.Pattern.Basic
import PhpInterface.Pattern.Language
import PhpInterface.Pattern.Property
import PhpInterface.Text.Reader

/-!
# Patterns as written

`Pattern.ofText?` reads a regular expression.  A text that is none is refused: an open group or class, a
repetition of nothing, a range that runs backwards, an unknown escape, and look-around or references
back, which no regular expression has.

Options such as `(?i)` hold from where they stand to the end of the group, over its alternatives.  Without
`u` only ASCII characters belong to classes, and a part that could match half a character is refused.  With
`x` blanks and comments are left out, inside of classes, counts and numbers too.

Limits on the size and the depth of patterns are left out.
-/

namespace PhpInterface

namespace PatternText

/-- The options in effect. -/
structure Options where
  /-- `i`: letters match in any case -/
  anyCase : Bool := false
  /-- `m`: `^` and `$` match at lines -/
  lines : Bool := false
  /-- `s`: the dot matches line ends too -/
  dotAll : Bool := false
  /-- `x`: blanks and comments are left out -/
  spaced : Bool := false
  /-- `u`: characters of all scripts belong to classes and words -/
  unicode : Bool := true
  /-- `R`: carriage returns end lines too -/
  crlf : Bool := false
  deriving DecidableEq, Inhabited

/-- Which characters count as one. -/
def Options.letterCase (o : Options) : LetterCase :=
  if !o.anyCase then .exact else if o.unicode then .unicode else .ascii

/-- What has been read so far of a pattern, apart from the pattern itself. -/
structure Progress where
  options : Options := {}
  /-- the names of groups -/
  names : List (List Char) := []

/-- Reads patterns. -/
abbrev PatternReader (α : Type) : Type :=
  StateT Progress Reader α

/-- A reader that leaves the options alone. -/
def plain {α : Type} (p : Reader α) : PatternReader α :=
  liftM p

/-- The options in effect. -/
def options : PatternReader Options := do
  let p ← get
  pure p.options

/-- Read with the options as they are, and set them back afterwards. -/
def keepingOptions {α : Type} (p : PatternReader α) : PatternReader α := do
  let before ← options
  let a ← p
  modify fun now => { now with options := before }
  pure a

/-- What the reader takes, or nothing if it refuses. -/
def optional? {α : Type} (p : PatternReader α) : PatternReader (Option α) :=
  fun progress s =>
    match p progress s with
    | some ((a, after), rest) => some ((some a, after), rest)
    | none => some ((none, progress), s)

/-! ## Blanks and comments between parts -/

/-- The rest of a text after the blanks and comments that `x` leaves out. -/
def skipSpaced : List Char → List Char
  | [] => []
  | c :: rest =>
    if Text.isBlank c then skipSpaced rest
    else if c = '#' then skipComment rest
    else c :: rest
where
  /-- The rest of a text after a comment. -/
  skipComment : List Char → List Char
    | [] => []
    | c :: rest => if c = '\n' then skipSpaced rest else skipComment rest

/-- Leave out blanks and comments, if the options say so. -/
def skipIn (o : Options) : Reader Unit := fun s =>
  some ((), if o.spaced then skipSpaced s else s)

/-- Leave out blanks and comments, if the options in effect say so. -/
def skip : PatternReader Unit := do
  let o ← options
  plain (skipIn o)

/-- Read something with the blanks after it. -/
def spaced {α : Type} (o : Options) (p : Reader α) : Reader α := do
  let a ← p
  skipIn o
  pure a

/-! ## Characters -/

/-- A digit of base sixteen. -/
def hexDigit (o : Options) : Reader Char :=
  spaced o (Reader.one fun c => c.isDigit || ('a' ≤ c.toLower && c.toLower ≤ 'f'))

/-- Exactly so many digits of base sixteen. -/
def hexDigits (o : Options) : Nat → Reader (List Char)
  | 0 => pure []
  | n + 1 => do
    let d ← hexDigit o
    let more ← hexDigits o n
    pure (d :: more)

/-- Digits of base sixteen in braces. -/
def bracedHex (o : Options) : Reader (List Char) := do
  spaced o (Reader.char '\x7b')
  let ds ← Reader.many1 (hexDigit o)
  spaced o (Reader.char '\x7d')
  pure ds

/-- A character by its number, which has to be one.  Without `u`, two digits after `x` are a byte. -/
def codePoint (o : Options) (letter : Char) (digits : Nat) : Reader Nat := do
  skipIn o
  let braced ← Reader.optional? (bracedHex o)
  let ds ← match braced with
    | some ds => pure ds
    | none => hexDigits o digits
  let n := Decimal.numeral 16 ds
  Reader.require n.isValidChar
  Reader.require (o.unicode || braced.isSome || letter != 'x' || n < 0x80)
  pure n

/-- What an escape stands for: a character, a set of characters or a place. -/
inductive Escape where
  | char (n : Nat)
  | set (s : CharSet)
  | place (p : Place)

/-- The special places in braces after `\b`. -/
def bracedPlace (o : Options) : Reader WordPlace := do
  spaced o (Reader.char '\x7b')
  let w ← Reader.many (spaced o (Reader.one fun c => c.isAlpha || c == '-'))
  Reader.char '\x7d'
  match String.ofList w with
  | "start" => pure .start
  | "end" => pure .stop
  | "start-half" => pure .startHalf
  | "end-half" => pure .stopHalf
  | _ => failure

/-- A set or its complement, which has half characters in it without `u`. -/
def complIf (o : Options) (negated : Bool) (set : CharSet) : Reader CharSet := do
  Reader.require (o.unicode || !negated)
  pure (if negated then .compl set else set)

/-- A class by its property, after its letter. -/
def propertyClass (o : Options) (negated : Bool) : Reader CharSet := do
  Reader.require o.unicode
  skipIn o
  let set? ← if ← Reader.found (spaced o (Reader.char '\x7b')) then do
      let name ← Reader.many (spaced o (Reader.one (· != '\x7d')))
      Reader.char '\x7d'
      pure (CharProperty.ofText? o.letterCase name)
    else do
      let c ← spaced o (Reader.one (· != '\\'))
      pure (CharProperty.plain? o.letterCase [c])
  match set? with
  | some set => complIf o negated set
  | none => failure

/-- An escape, after its backslash.  Every ASCII character that is no letter, digit or angle bracket
can be escaped. -/
def escape (o : Options) : Reader Escape := do
  let named (k : CharClass) (negated : Bool) : Reader Escape :=
    .set <$> complIf o negated (k.set o.unicode)
  let word (place : WordPlace) : Reader Escape := pure (.place (.word place o.unicode))
  let c ← Reader.one fun _ => true
  if c = 'd' then named .digit false
  else if c = 'D' then named .digit true
  else if c = 'w' then named .word false
  else if c = 'W' then named .word true
  else if c = 's' then named .space false
  else if c = 'S' then named .space true
  else if c = 'p' then .set <$> propertyClass o false
  else if c = 'P' then .set <$> propertyClass o true
  else if c = 'A' then pure (.place .textStart)
  else if c = 'z' then pure (.place .textEnd)
  else if c = 'b' then
    match ← Reader.optional? (bracedPlace o) with
    | some place => word place
    | none => word .edge
  else if c = 'B' then word .notEdge
  else if c = '<' then word .start
  else if c = '>' then word .stop
  else if c = 'n' then pure (.char 0x0A)
  else if c = 't' then pure (.char 0x09)
  else if c = 'r' then pure (.char 0x0D)
  else if c = 'a' then pure (.char 0x07)
  else if c = 'f' then pure (.char 0x0C)
  else if c = 'v' then pure (.char 0x0B)
  else if c = 'x' then .char <$> codePoint o c 2
  else if c = 'u' then .char <$> codePoint o c 4
  else if c = 'U' then .char <$> codePoint o c 8
  else
    Reader.require (c.toNat < 0x80 && !c.isAlphanum)
    pure (.char c.toNat)

/-- The characters from one to another. -/
def rangeSet (o : Options) (first last : Nat) : CharSet :=
  .table { ranges := [(first, last)] } o.letterCase

/-- The set of one character. -/
def single (o : Options) (n : Nat) : CharSet :=
  rangeSet o n n

/-! ## Classes in brackets -/

/-- The ranges of the classes with a name between colons. -/
def asciiClass? (name : String) : Option (List (Nat × Nat)) :=
  match name with
  | "alnum" => some [(0x30, 0x39), (0x41, 0x5A), (0x61, 0x7A)]
  | "alpha" => some [(0x41, 0x5A), (0x61, 0x7A)]
  | "ascii" => some [(0x00, 0x7F)]
  | "blank" => some [(0x09, 0x09), (0x20, 0x20)]
  | "cntrl" => some [(0x00, 0x1F), (0x7F, 0x7F)]
  | "digit" => some [(0x30, 0x39)]
  | "graph" => some [(0x21, 0x7E)]
  | "lower" => some [(0x61, 0x7A)]
  | "print" => some [(0x20, 0x7E)]
  | "punct" => some [(0x21, 0x2F), (0x3A, 0x40), (0x5B, 0x60), (0x7B, 0x7E)]
  | "space" => some [(0x09, 0x0D), (0x20, 0x20)]
  | "upper" => some [(0x41, 0x5A)]
  | "word" => some [(0x30, 0x39), (0x41, 0x5A), (0x5F, 0x5F), (0x61, 0x7A)]
  | "xdigit" => some [(0x30, 0x39), (0x41, 0x46), (0x61, 0x66)]
  | _ => none

/-- A class with a name between colons, with whether it is negated. -/
def colonClass : Reader (List (Nat × Nat) × Bool) := do
  Reader.exactly ['[', ':']
  let negated ← Reader.found (Reader.char '^')
  let name ← Reader.run Char.isAlpha
  Reader.exactly [':', ']']
  match asciiClass? (String.ofList name) with
  | none => failure
  | some ranges => pure (ranges, negated)

/-- A member of a class: a character, or a set that cannot be the end of a range. -/
def classMember (o : Options) : Reader (Nat ⊕ CharSet) := do
  let c ← Reader.one fun _ => true
  if c = '\\' then
    match ← escape o with
    | .char n => pure (.inl n)
    | .set s => pure (.inr s)
    | .place _ => failure
  else pure (.inl c.toNat)

/-- The text goes on with a hyphen that makes a range.  A hyphen before the closing bracket or before another
hyphen stands for itself or for an operation. -/
def seesRange (o : Options) : Reader Bool :=
  Reader.sees (do
    spaced o (Reader.char '-')
    Reader.one fun c => c != ']' && c != '-')

/-- A character, a range of characters or a set. -/
def classRange (o : Options) : Reader CharSet := do
  let first ← spaced o (classMember o)
  if ← seesRange o then
    spaced o (Reader.char '-')
    match first, ← classMember o with
    | .inl first, .inl last =>
      Reader.require (first ≤ last && (o.unicode || last < 0x80))
      pure (rangeSet o first last)
    | _, _ => failure
  else
    match first with
    | .inl n =>
      Reader.require (o.unicode || n < 0x80)
      pure (single o n)
    | .inr set => pure set

/-- An operation between two sets. -/
def setOperator : Reader (CharSet → CharSet → CharSet) :=
  Reader.oneOf
    [do
      Reader.exactly ['&', '&']
      pure .inter,
     do
      Reader.exactly ['-', '-']
      pure fun a b => .inter a (.compl b),
     do
      Reader.exactly ['~', '~']
      pure fun a b => .inter (.union a b) (.compl (.inter a b))]

section

variable (o : Options) (nested : Reader CharSet)

/-- An item of a class. -/
def classItem : Reader CharSet := do
  skipIn o
  let s ← get
  match s with
  | [] => failure
  | c :: _ =>
    if c = ']' then failure
    else if ← Reader.sees setOperator then failure
    else if c = '[' then
      match ← Reader.optional? colonClass with
      | some (ranges, negated) => complIf o negated (.table { ranges } o.letterCase)
      | none => nested
    else classRange o

/-- A class in brackets, given the reader of the classes inside it.  A closing bracket right at its
beginning stands for itself, and so do hyphens there. -/
def classStep : Reader CharSet := do
  spaced o (Reader.char '[')
  let negated ← Reader.found (spaced o (Reader.char '^'))
  let hyphens ← Reader.many (spaced o (Reader.char '-'))
  let bracket ← Reader.foundIf hyphens.isEmpty (spaced o (Reader.char ']'))
  let first := hyphens.map (fun _ => single o '-'.toNat) ++
    (if bracket then [single o ']'.toNat] else [])
  let items ← Reader.many (classItem o nested)
  let more ← Reader.many (do
    skipIn o
    let op ← setOperator
    let l ← Reader.many (classItem o nested)
    pure (op, CharSet.unionAll l))
  skipIn o
  Reader.char ']'
  complIf o negated (more.foldl (fun a (op, b) => op a b) (.unionAll (first ++ items)))

end

/-- A class in brackets that is nested at most so deep. -/
def classWithin (o : Options) : Nat → List Char → Option (CharSet × List Char)
  | 0, _ => none
  | depth + 1, s => classStep o (classWithin o depth) s

/-- A class in brackets. -/
def bracketClass (o : Options) : Reader CharSet :=
  fun s => classWithin o (s.length + 1) s

/-! ## Repetitions -/

/-- A decimal number of 32 bits with any blanks around it. -/
def count (o : Options) : Reader Nat := do
  let _ ← Reader.run Text.isBlank
  let ds ← Reader.many1 (spaced o (Reader.one Char.isDigit))
  let _ ← Reader.many (spaced o (Reader.one Text.isBlank))
  let n := Decimal.numeral 10 ds
  Reader.require (n < UInt32.size)
  pure n

/-- How often in braces. -/
def bracedCount (o : Options) : Reader (Nat × Option Nat) := do
  spaced o (Reader.char '\x7b')
  let least ← count o
  let most ← if ← Reader.found (spaced o (Reader.char ',')) then
      if ← Reader.sees (Reader.char '\x7d') then pure none else some <$> count o
    else pure (some least)
  spaced o (Reader.char '\x7d')
  Reader.require (most.all (least ≤ ·))
  pure (least, most)

/-- How often, with the question mark after it that says which match is preferred. -/
def repetition (o : Options) : Reader (Nat × Option Nat) := do
  let times ← Reader.oneOf
    [do
      Reader.char '*'
      pure (0, none),
     do
      Reader.char '+'
      pure (1, none),
     do
      Reader.char '?'
      pure (0, some 1),
     bracedCount o]
  let _ ← Reader.found (Reader.char '?')
  pure times

/-! ## Groups -/

/-- The option that a letter stands for; `U` says which match is preferred and changes nothing here. -/
def setOption? (c : Char) (on : Bool) (o : Options) : Option Options :=
  if c = 'i' then some { o with anyCase := on }
  else if c = 'm' then some { o with lines := on }
  else if c = 's' then some { o with dotAll := on }
  else if c = 'x' then some { o with spaced := on }
  else if c = 'u' then some { o with unicode := on }
  else if c = 'R' then some { o with crlf := on }
  else if c = 'U' then some o
  else none

/-- The options that some letters set; a letter stands at most once, and letters after a hyphen are
switched off. -/
def readOptions (o : Options) (letters : List Char) : Option Options := do
  let on := letters.takeWhile (· ≠ '-')
  let off := (letters.dropWhile (· ≠ '-')).drop 1
  guard (on ++ off).Nodup
  guard (letters.contains '-' → !off.isEmpty)
  let withOn ← on.foldlM (fun o c => setOption? c true o) o
  off.foldlM (fun o c => setOption? c false o) withOn

/-- The name of a group, after its opening angle bracket. -/
def groupName : PatternReader Unit := do
  let name ← plain (do
    let c ← Reader.one fun c => c == '_' || Text.isAlphabetic c
    let rest ← Reader.run fun c =>
      c == '_' || c == '.' || c == '[' || c == ']' || Text.isAlphanumeric c
    Reader.char '>'
    pure (c :: rest))
  let p ← get
  plain (Reader.require (!p.names.contains name))
  set { p with names := name :: p.names }

section

variable (alternatives : PatternReader Pattern)

/-- A group, after its opening parenthesis: its pattern, or `none` if it only sets options. -/
def groupRest : PatternReader (Option Pattern) := do
  let closed (p : PatternReader Pattern) : PatternReader (Option Pattern) := do
    let a ← keepingOptions p
    plain (Reader.char ')')
    pure (some a)
  skip
  if ← plain (Reader.found (Reader.char '?')) then
    if ← plain (Reader.found
        (Reader.oneOf [Reader.exactly ['P', '<'], (do
          Reader.char '<'
          Reader.require (!(← Reader.sees (Reader.one fun c => c == '=' || c == '!'))))])) then
      groupName
      closed alternatives
    else
      let letters ← plain (Reader.run fun c => c.isAlpha || c == '-')
      let o ← options
      match readOptions o letters with
      | none => failure
      | some inner =>
        let change : PatternReader Unit := modify fun now => { now with options := inner }
        if ← plain (Reader.found (Reader.char ':')) then
          closed do
            change
            alternatives
        else
          plain (Reader.require (!letters.isEmpty))
          plain (Reader.char ')')
          change
          pure none
  else closed alternatives

/-- A part of a pattern that can be repeated, or `none` for a group that only sets options. -/
def atom : PatternReader (Option Pattern) := do
  let o ← options
  let c ← plain (Reader.one fun c => !")|*+?".toList.contains c && c != '\x7b')
  if c = '(' then groupRest alternatives
  else if c = '[' then
    plain (do
      let s ← get
      set ('[' :: s)
      let set ← bracketClass o
      pure (some (.one set)))
  else if c = '.' then
    plain (Reader.require o.unicode)
    let lineEnds := if o.crlf then [(0x0A, 0x0A), (0x0D, 0x0D)] else [(0x0A, 0x0A)]
    pure (some (.one (.compl (if o.dotAll then .none else .table { ranges := lineEnds } .exact))))
  else if c = '^' then pure (some (.place (if o.lines then .lineStart o.crlf else .textStart)))
  else if c = '$' then pure (some (.place (if o.lines then .lineEnd o.crlf else .textEnd)))
  else if c = '\\' then
    match ← plain (escape o) with
    | .char n => pure (some (.one (single o n)))
    | .set s => pure (some (.one s))
    | .place p => pure (some (.place p))
  else pure (some (.one (single o c.toNat)))

end

/-- A pattern with the repetitions that follow it. -/
def withRepetitions : Nat → Pattern → PatternReader Pattern
  | 0, p => pure p
  | fuel + 1, p => do
    skip
    let o ← options
    match ← plain (Reader.optional? (repetition o)) with
    | some (least, most) => withRepetitions fuel (.repeated p least most)
    | none => pure p

section

variable (alternatives : PatternReader Pattern)

/-- A part of a pattern with its repetitions; options alone cannot be repeated. -/
def part : PatternReader Pattern := do
  skip
  match ← atom alternatives with
  | none =>
    skip
    let o ← options
    if ← plain (Reader.sees (repetition o)) then failure else pure .empty
  | some p =>
    let s ← plain get
    withRepetitions s.length p

/-- Parts one after the other. -/
def sequence : Nat → PatternReader Pattern
  | 0 => pure .empty
  | fuel + 1 => do
    match ← optional? (part alternatives) with
    | none =>
      skip
      pure .empty
    | some p =>
      let rest ← sequence fuel
      pure (.seq p rest)

/-- Sequences with bars between them. -/
def alternativesStep : Nat → PatternReader Pattern
  | 0 => failure
  | fuel + 1 => do
    let s ← plain get
    let first ← sequence alternatives s.length
    if ← plain (Reader.found (Reader.char '|')) then
      let rest ← alternativesStep fuel
      pure (.alt first rest)
    else pure first

end

/-- Alternatives that are nested at most so deep. -/
def alternativesWithin : Nat → Progress → List Char → Option ((Pattern × Progress) × List Char)
  | 0, _, _ => none
  | depth + 1, progress, s =>
    alternativesStep (alternativesWithin depth) (s.length + 1) progress s

end PatternText

/-- The pattern that a text is, if it is one. -/
def Pattern.ofText? (text : String) : Option Pattern :=
  let s := text.toList
  match PatternText.alternativesWithin (s.length + 1) {} s with
  | some ((p, _), []) => some p
  | _ => none

/-- Regular expressions as a language of patterns.  A name matches if some piece of it does. -/
def Pattern.language : PatternLanguage where
  compile text :=
    match ofText? text with
    | some p => .ok p.found
    | none => .error ("no regular expression: " ++ text)

end PhpInterface
