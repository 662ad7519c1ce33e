/-!
# Why a class cannot be described
-/

namespace PhpInterface

/-- Why a file cannot be read or written. -/
inductive AccessFailure where
  /-- a part of the path is missing -/
  | notFound
  /-- something stands where a folder is needed -/
  | notDirectory
  | isDirectory
  /-- anything else, in the words of the system -/
  | other (words : String)
  deriving DecidableEq, Inhabited

/-- The causes for which describing a class fails. -/
inductive SourceError where
  /-- the text breaks the grammar -/
  | unparsable
  /-- a class, a trait or what they are built on is built on itself -/
  | circular (name : String)
  | classNotFound (name : String)
  /-- the type has a form that signatures do not have here -/
  | unsupportedType (text : String)
  | unreadable (failure : AccessFailure)
  deriving DecidableEq, Inhabited

/-- The wording of a failure, with the number by which the system knows it. -/
def AccessFailure.message : AccessFailure → String
  | .notFound => "No such file or directory (os error 2)"
  | .notDirectory => "Not a directory (os error 20)"
  | .isDirectory => "Is a directory (os error 21)"
  | .other words => words

/-- The wording of a cause. -/
def SourceError.message : SourceError → String
  | .unparsable => "Failed to parse source file"
  | .circular name => "Circular inheritance involving " ++ name
  | .classNotFound name => "Class '" ++ name ++ "' not found"
  | .unsupportedType text => "Unsupported type declaration '" ++ text ++ "'"
  | .unreadable failure => failure.message

end PhpInterface
