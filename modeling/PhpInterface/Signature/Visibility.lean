/-!
# Visibility
-/

namespace PhpInterface

/-- Who may call a method. -/
inductive Visibility where
  /-- public: everyone -/
  | pub
  /-- protected: the class and its descendants -/
  | prot
  /-- private: the class alone -/
  | priv
  deriving DecidableEq, Inhabited

end PhpInterface
