/-!
# Readers

A reader takes a piece off the front of a text and hands back the rest, or refuses.  A reader that
refuses has taken nothing, so an alternative can be tried in its place.  Repetition stops where a
reader takes nothing, which is why it ends on every text.
-/

namespace PhpInterface

/-- Takes something off the front of a text, or refuses. -/
abbrev Reader (α : Type) : Type :=
  StateT (List Char) Option α

namespace Reader

/-- The next character, which is not taken. -/
def peek : Reader (Option Char) := do
  let s ← get
  pure s.head?

/-- Refuse unless the condition holds. -/
def require (condition : Bool) : Reader Unit :=
  if condition then pure () else failure

/-- Take one character of a class. -/
def one (p : Char → Bool) : Reader Char
  | [] => none
  | c :: rest => if p c then some (c, rest) else none

/-- Take this character. -/
def char (c : Char) : Reader Unit
  | [] => none
  | d :: rest => if d = c then some ((), rest) else none

/-- Take exactly these characters. -/
def exactly : List Char → Reader Unit
  | [], s => some ((), s)
  | c :: more, s =>
    match s with
    | [] => none
    | d :: rest => if d = c then exactly more rest else none

/-- Take the longest run of characters of a class. -/
def run (p : Char → Bool) : Reader (List Char) :=
  fun s => some (s.takeWhile p, s.dropWhile p)

/-- Take what the reader takes, or nothing if it refuses. -/
def optional? {α : Type} (p : Reader α) : Reader (Option α) :=
  fun s =>
    match p s with
    | some (a, rest) => some (some a, rest)
    | none => some (none, s)

/-- Whether the reader would take something; nothing is taken. -/
def sees {α : Type} (p : Reader α) : Reader Bool :=
  fun s => some ((p s).isSome, s)

/-- Take what the reader takes, and tell whether it did. -/
def found {α : Type} (p : Reader α) : Reader Bool := do
  let a ← optional? p
  pure a.isSome

/-- Take what the reader takes if the condition holds, and tell whether something was taken. -/
def foundIf {α : Type} (condition : Bool) (p : Reader α) : Reader Bool :=
  if condition then found p else pure false

/-- Try the readers in order. -/
def oneOf {α : Type} : List (Reader α) → Reader α
  | [] => failure
  | p :: more => fun s =>
    match p s with
    | some result => some result
    | none => oneOf more s

/-- Take as many as there are, with the rest; the repetition stops where nothing is taken. -/
def repeated {α : Type} (p : Reader α) (s : List Char) : List α × List Char :=
  match p s with
  | none => ([], s)
  | some (a, rest) =>
    if _h : rest.length < s.length then
      let (more, last) := repeated p rest
      (a :: more, last)
    else ([], s)
termination_by s.length

/-- Take as many as there are. -/
def many {α : Type} (p : Reader α) : Reader (List α) :=
  fun s => some (repeated p s)

/-- Take one or more. -/
def many1 {α : Type} (p : Reader α) : Reader (List α) := do
  let a ← p
  let more ← many p
  pure (a :: more)

/-- Take one or more with a separator between them. -/
def sepBy1 {α β : Type} (p : Reader α) (sep : Reader β) : Reader (List α) := do
  let a ← p
  let more ← many (do let _ ← sep; p)
  pure (a :: more)

/-- Take any number with a separator between them. -/
def sepBy {α β : Type} (p : Reader α) (sep : Reader β) : Reader (List α) := do
  let l ← optional? (sepBy1 p sep)
  pure (l.getD [])

/-- What the reader takes, with the text it took. -/
def spelled {α : Type} (p : Reader α) : Reader (α × List Char) :=
  fun s =>
    match p s with
    | some (a, rest) => some ((a, s.take (s.length - rest.length)), rest)
    | none => none

end Reader

end PhpInterface
