import PhpInterface.Pattern.CharSet

/-!
# Patterns

A pattern describes a set of texts, and a text matches if some piece of it belongs to that set.  Only
whether there is a match is asked for, never where: so every way to match is followed, and `ends` gives
all places at which a match that starts at a place can end.
-/

namespace PhpInterface

/-- Where a place lies with regard to words. -/
inductive WordPlace where
  | edge
  | notEdge
  | start
  | stop
  /-- not after a character of a word -/
  | startHalf
  /-- not before a character of a word -/
  | stopHalf
  deriving DecidableEq, Inhabited

/-- The place lies so, between two characters that belong to words or not. -/
def WordPlace.holds (before after : Bool) : WordPlace → Bool
  | .edge => before != after
  | .notEdge => before == after
  | .start => !before && after
  | .stop => before && !after
  | .startHalf => !before
  | .stopHalf => !after

/-- A condition on a place in a text. -/
inductive Place where
  | textStart
  | textEnd
  /-- `crlf`: a carriage return ends a line too, but not in front of a line feed -/
  | lineStart (crlf : Bool)
  | lineEnd (crlf : Bool)
  /-- with words of all characters or of those of ASCII -/
  | word (place : WordPlace) (unicode : Bool)
  deriving DecidableEq, Inhabited

/-- A regular expression. -/
inductive Pattern where
  | empty
  | one (set : CharSet)
  | place (p : Place)
  | seq (a b : Pattern)
  | alt (a b : Pattern)
  /-- at least `least` times, and at most `most` times if that is given -/
  | repeated (a : Pattern) (least : Nat) (most : Option Nat)
  deriving Inhabited

namespace Pattern

/-- The character at a place belongs to a word. -/
def inWord (unicode : Bool) (text : Array Char) (i : Nat) : Bool :=
  match text[i]? with
  | some c => (CharClass.word.set unicode).has c
  | none => false

/-- The character before a place. -/
def before? (text : Array Char) (i : Nat) : Option Char :=
  if i = 0 then none else text[i - 1]?

/-- The condition holds at a place. -/
def holdsAt (text : Array Char) (i : Nat) : Place → Bool
  | .textStart => i == 0
  | .textEnd => i == text.size
  | .lineStart crlf =>
    i == 0 || before? text i == some '\n' ||
      (crlf && before? text i == some '\r' && text[i]? != some '\n')
  | .lineEnd crlf =>
    i == text.size || (crlf && text[i]? == some '\r') ||
      (text[i]? == some '\n' && !(crlf && before? text i == some '\r'))
  | .word w unicode => w.holds (i > 0 && inWord unicode text (i - 1)) (inWord unicode text i)

/-- The places that are reached by so many steps from some places. -/
def iterate (step : Nat → List Nat) : Nat → List Nat → List Nat
  | 0, places => places
  | n + 1, places => iterate step n ((places.flatMap step).eraseDups)

/-- The places that are reached by at most so many steps from some places. -/
def reach (step : Nat → List Nat) : Nat → List Nat → List Nat
  | 0, places => places
  | n + 1, places => reach step n ((places ++ places.flatMap step).eraseDups)

/-- The places at which a match that starts at a place can end.  A repetition without a limit reaches
all it can in as many steps as the text has places. -/
def ends (text : Array Char) : Pattern → Nat → List Nat
  | .empty, i => [i]
  | .one set, i =>
    match text[i]? with
    | some c => if set.has c then [i + 1] else []
    | none => []
  | .place p, i => if holdsAt text i p then [i] else []
  | .seq a b, i => ((ends text a i).flatMap (ends text b)).eraseDups
  | .alt a b, i => (ends text a i ++ ends text b i).eraseDups
  | .repeated a least most, i =>
    let start := iterate (ends text a) least [i]
    match most with
    | none => reach (ends text a) (text.size + 1) start
    | some n => reach (ends text a) (n - least) start

/-- Some piece of the text belongs to the pattern. -/
def found (p : Pattern) (text : String) : Bool :=
  let chars := text.toList.toArray
  (List.range (chars.size + 1)).any fun i => !(ends chars p i).isEmpty

end Pattern

end PhpInterface
