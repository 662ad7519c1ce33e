import PhpInterface.Source.TypeExpr

/-!
# Expressions as written

An expression is kept as far as it can be a literal: numbers, texts, words, signs, parentheses and
arrays.  Every other expression is only known to be one.
-/

namespace PhpInterface.Source

mutual

/-- An expression. -/
inductive Expr where
  /-- a word that stands alone -/
  | word (text : String)
  /-- an integer token -/
  | integer (text : String)
  /-- a float token -/
  | float (text : String)
  /-- a text in single or double quotes, as written with its quotes -/
  | quoted (text : String)
  /-- a sign in front of an expression -/
  | signed (negative : Bool) (operand : Expr)
  /-- an expression in parentheses -/
  | group (inner : Expr)
  /-- an array literal -/
  | array (elements : Elements)
  /-- an expression that is no literal -/
  | other

/-- The elements of an array literal. -/
inductive Elements where
  | nil
  /-- an element without a key -/
  | item (value : Expr) (rest : Elements)
  /-- an element with a key -/
  | keyed (key value : Expr) (rest : Elements)

end

instance : Inhabited Expr := ⟨.other⟩

instance : Inhabited Elements := ⟨.nil⟩

/-- The elements with one more in front, which may have a key. -/
def Elements.cons (element : Option Expr × Expr) (rest : Elements) : Elements :=
  match element with
  | (none, value) => .item value rest
  | (some key, value) => .keyed key value rest

/-- The elements of an array literal, in order. -/
def Elements.ofList : List (Option Expr × Expr) → Elements
  | [] => .nil
  | element :: rest => .cons element (ofList rest)

/-- A parameter as it is written. -/
structure ParameterExpr where
  type : Option TypeExpr
  /-- the variable, with the ampersand in front of it if the parameter is promoted to a property -/
  name : String
  byReference : Bool
  variadic : Bool
  default : Option Expr
  deriving Inhabited

end PhpInterface.Source
