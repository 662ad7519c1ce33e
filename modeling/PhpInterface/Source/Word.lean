import PhpInterface.Source.Gap
import PhpInterface.Text.Case

/-!
# Words

Names and keywords are words.  Keywords are recognised without regard to case and only where the
grammar asks for them, so nearly every keyword can also be a name.  A qualified name is words with
backslashes between them; the text of one is kept as it is written, with the gaps inside it.

The words `self`, `parent` and `static` refer to the class they are written in.  Where a class is
named they stand for a name, but only alone: no backslash can follow them.
-/

namespace PhpInterface.Source

open Reader

/-- A character that can start a word. -/
def isWordStart (c : Char) : Bool :=
  c == '_' || c.isAlpha || (0x80 ≤ c.toNat && c.toNat ≤ 0xFFFF && !isSeparator c)

/-- A character that can stand in a word. -/
def isWordPart (c : Char) : Bool :=
  isWordStart c || c.isDigit

/-- The word that a text starts with. -/
def rawWord : Reader (List Char) := do
  let c ← one isWordStart
  let rest ← run isWordPart
  pure (c :: rest)

/-- A word. -/
def word : Reader (List Char) := do
  let _ ← gap
  rawWord

/-- The small form of a word, as keywords are given. -/
def smallForm (w : List Char) : String :=
  Text.lower (String.ofList w)

/-- The word that a text starts with, which is not taken; it is empty if there is none. -/
def nextWord : Reader (List Char) := fun s =>
  match rawWord s with
  | some (w, _) => some (w, s)
  | none => some ([], s)

/-- A keyword at this place. -/
def keywordAt (p : Position) (k : String) : Reader Unit := do
  let _ ← gapAt p
  let w ← rawWord
  require (smallForm w == k)

/-- A keyword. -/
def keyword (k : String) : Reader Unit :=
  keywordAt .inner k

/-- One of some keywords. -/
def keywordOf (ks : List String) : Reader String := do
  let w ← word
  let k := smallForm w
  require (ks.contains k)
  pure k

/-- A word that refers to the class it is written in.  Two of the three have to be in small letters. -/
def isRelativeWord (w : List Char) : Bool :=
  String.ofList w == "self" || String.ofList w == "parent" || smallForm w == "static"

/-! ## Names -/

/-- The rest of a qualified name: any number of segments, each after a backslash. -/
def segments (p : Position) : Reader Unit := do
  let _ ← many (do symbolAt p "\\"; word)

/-- The words of a name that starts with a backslash. -/
def rootedWords (p : Position) : Reader Unit := do
  char '\\'
  let _ ← word
  segments p

/-- The words of a name, qualified or not. -/
def nameWords (p : Position) : Reader Unit :=
  oneOf
    [rootedWords p,
     do
      let _ ← rawWord
      segments p]

/-- The words of the name of a class. -/
def classWords (p : Position) : Reader Unit :=
  oneOf
    [rootedWords p,
     do
      let w ← rawWord
      if isRelativeWord w then pure () else segments p]

/-- A name, qualified or not, as it is written. -/
def name (p : Position) : Reader (List Char) := do
  let _ ← gap
  let (_, text) ← spelled (nameWords p)
  pure text

/-- The name of a class, as it is written. -/
def className (p : Position) : Reader (List Char) := do
  let _ ← gap
  let (_, text) ← spelled (classWords p)
  pure text

/-- Names of classes with commas between them. -/
def classNames (p : Position) : Reader (List String) := do
  let l ← sepBy1 (className p) (symbolAt p ",")
  pure (l.map String.ofList)

/-- A variable: a dollar sign and a word, as written. -/
def variableName : Reader (List Char) := do
  let _ ← gap
  let (_, text) ← spelled (do char '$'; word)
  pure text

end PhpInterface.Source
