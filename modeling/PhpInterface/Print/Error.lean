/-!
# Why an interface cannot be written
-/

namespace PhpInterface

/-- The causes for which writing an interface fails. -/
inductive PrintError where
  /-- the name of the interface is no qualified name -/
  | invalidName (name : String)
  /-- a class mentioned in a signature has no qualified name -/
  | unresolvableType (name : String)
  /-- the output takes no more -/
  | outputClosed
  deriving DecidableEq, Inhabited

/-- The wording of a cause. -/
def PrintError.message : PrintError → String
  | .invalidName name => "Invalid interface name '" ++ name ++ "'"
  | .unresolvableType name => "Cannot resolve type reference '" ++ name ++ "'"
  | .outputClosed => "Failed to write to output: closed"

end PhpInterface
