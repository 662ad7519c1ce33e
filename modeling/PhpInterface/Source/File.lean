import PhpInterface.Source.Statement

/-!
# Source files

A source file is page text with programs in it.  A text that breaks the grammar anywhere is no source
file.

Whatever stands inside another construct starts after the first character of that construct.  So the
length of a program is more than any depth of nesting in it, and `nested` never runs out of depth.
-/

namespace PhpInterface.Source

open Reader

/-- The readers of constructs that hold others at most so deep. -/
def nested : Nat → Nested
  | 0 =>
    { expression := fun _ => failure
      operand := fun _ _ => failure
      parameters := fun _ => failure
      statement := failure }
  | depth + 1 =>
    { expression := fun p s => expression (nested depth) p s
      operand := fun r p s => operand (nested depth) r p s
      parameters := fun p s => parameters (nested depth) p s
      statement := fun s => statement (nested depth) s }

/-- An expression. -/
def expressionIn (s : List Char) : Option (Expr × List Char) :=
  (nested (s.length + 1)).value .inner s

/-- The items of a program. -/
def program : Reader (List Item) := do
  let s ← get
  let l ← many (nested (s.length + 1)).statement
  let _ ← gap
  let rest ← get
  require rest.isEmpty
  pure (l.filterMap id)

/-- The items of a source file; `none` if it breaks the grammar.  A NUL character does so anywhere. -/
def items? (text : String) : Option (List Item) :=
  let s := text.toList
  if s.contains '\x00' then none
  else (program (pageRest s).2).map Prod.fst

end PhpInterface.Source
