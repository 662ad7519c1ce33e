/-!
# Languages of patterns

A selection of methods can keep only those whose names match a pattern.  How patterns are written, and what
they mean, is left to a language: all that a selection asks of it is to make a condition on names of a text,
or to say what is wrong with the text.
-/

namespace PhpInterface

/-- A way of writing conditions on names. -/
structure PatternLanguage where
  /-- the names that match a pattern, or what is wrong with it -/
  compile : String → Except String (String → Bool)
  deriving Inhabited

end PhpInterface
