import PhpInterface.Selection
import PhpInterface.Text.Pieces

/-!
# Arguments of the command

The arguments are taken one after the other.  An argument with two hyphens in front is an option, which
takes its value after an equals sign or from the next argument; any other one is the name of the class.
After two hyphens alone nothing is an option.  The first fault ends the reading, and so does asking for
the version.
-/

namespace PhpInterface

/-- What a run of the command is asked to do. -/
structure Request where
  className : String
  interfaceName : String
  source : String
  output : Option String
  parents : List String
  dropMagic : Bool
  dropOldConstructors : Bool
  dropStatic : Bool
  dropAbstract : Bool
  dropInherited : Bool
  dropImplemented : Bool
  pattern : Option String
  deriving DecidableEq, Inhabited

/-- What the arguments mean. -/
inductive Invocation where
  | request (r : Request)
  | version
  | help
  /-- the arguments are not understood -/
  | misuse
  deriving DecidableEq, Inhabited

/-- The options that take a value. -/
inductive ValueOption where
  | source
  | interfaceName
  | parents
  | output
  | pattern
  deriving DecidableEq, Inhabited

/-- The options that take no value. -/
inductive FlagOption where
  | dropMagic
  | dropOldConstructors
  | dropStatic
  | dropAbstract
  | dropInherited
  | dropImplemented
  deriving DecidableEq, Inhabited

/-- The option with this name. -/
def ValueOption.ofName? (name : String) : Option ValueOption :=
  match name with
  | "source" => some .source
  | "interface" => some .interfaceName
  | "extends" => some .parents
  | "output" => some .output
  | "methods-matching" => some .pattern
  | _ => none

/-- The option with this name. -/
def FlagOption.ofName? (name : String) : Option FlagOption :=
  match name with
  | "exclude-magic-methods" => some .dropMagic
  | "exclude-old-style-constructors" => some .dropOldConstructors
  | "exclude-static-methods" => some .dropStatic
  | "exclude-abstract-methods" => some .dropAbstract
  | "exclude-inherited-methods" => some .dropInherited
  | "exclude-implemented-methods" => some .dropImplemented
  | _ => none

/-- What has been read of the arguments. -/
structure Reading where
  classNames : List String := []
  values : List (ValueOption × String) := []
  flags : List FlagOption := []
  deriving Inhabited

namespace Reading

/-- Take the value of an option.  Only the option for parents may stand more than once, and a path
cannot be empty. -/
def addValue? (r : Reading) (o : ValueOption) (value : String) : Option Reading :=
  if o ≠ .parents ∧ (r.values.any fun v => v.1 == o) then none
  else if (o = .source ∨ o = .output) ∧ value.isEmpty then none
  else some { r with values := r.values ++ [(o, value)] }

/-- Take an option without a value, which may stand once. -/
def addFlag? (r : Reading) (o : FlagOption) : Option Reading :=
  if r.flags.contains o then none else some { r with flags := r.flags ++ [o] }

/-- Take the name of the class, which may stand once. -/
def addClass? (r : Reading) (name : String) : Option Reading :=
  if r.classNames.isEmpty then some { r with classNames := [name] } else none

/-- The value given to an option. -/
def value? (r : Reading) (o : ValueOption) : Option String :=
  r.values.lookup o

/-- The parents, of which one value can hold several with commas between them. -/
def parents (r : Reading) : List String :=
  r.values.flatMap fun (o, value) =>
    if o = .parents then (Text.pieces ',' value.toList).map String.ofList else []

/-- The request after all arguments are read.  The source comes from the environment if no option gives
it, and is the working folder if the environment does not either. -/
def finish (r : Reading) (environmentSource : Option String) : Invocation :=
  match r.classNames, r.value? .interfaceName with
  | [className], some interfaceName =>
    let source := ((r.value? .source).or environmentSource).getD "."
    if source.isEmpty then .misuse
    else
      .request
        { className
          interfaceName
          source
          output := r.value? .output
          parents := r.parents
          dropMagic := r.flags.contains .dropMagic
          dropOldConstructors := r.flags.contains .dropOldConstructors
          dropStatic := r.flags.contains .dropStatic
          dropAbstract := r.flags.contains .dropAbstract
          dropInherited := r.flags.contains .dropInherited
          dropImplemented := r.flags.contains .dropImplemented
          pattern := r.value? .pattern }
  | _, _ => .misuse

end Reading

/-- What an argument is by its form. -/
inductive Argument where
  /-- two hyphens alone -/
  | separator
  /-- an option, with the value after an equals sign -/
  | long (name : String) (value : Option String)
  /-- a hyphen and letters -/
  | short (letters : List Char)
  | plain
  deriving DecidableEq, Inhabited

/-- The form of an argument; a hyphen alone is a plain one. -/
def Argument.ofText (text : String) : Argument :=
  match text.toList with
  | ['-', '-'] => .separator
  | '-' :: '-' :: rest =>
    match Text.cut? '=' rest with
    | some (name, value) => .long (String.ofList name) (some (String.ofList value))
    | none => .long (String.ofList rest) none
  | '-' :: c :: rest => .short (c :: rest)
  | _ => .plain

/-- The text can be the value of an option: it does not look like an option itself. -/
def canBeValue (text : String) : Bool :=
  Argument.ofText text == .plain

/-- Read the arguments after two hyphens alone. -/
def readPlain (r : Reading) : List String → Option Reading
  | [] => some r
  | text :: rest =>
    match r.addClass? text with
    | some next => readPlain next rest
    | none => none

/-- Read the arguments, after those that have been read. -/
def readArguments (environmentSource : Option String) : Reading → List String → Invocation
  | r, [] => r.finish environmentSource
  | r, text :: rest =>
    match Argument.ofText text with
    | .separator =>
      match readPlain r rest with
      | some next => next.finish environmentSource
      | none => .misuse
    | .plain =>
      match r.addClass? text with
      | some next => readArguments environmentSource next rest
      | none => .misuse
    | .short letters =>
      match letters.head? with
      | some 'V' => .version
      | some 'h' => .help
      | _ => .misuse
    | .long "version" none => .version
    | .long "help" none => .help
    | .long name value =>
      match FlagOption.ofName? name, ValueOption.ofName? name, value with
      | some o, _, none =>
        match r.addFlag? o with
        | some next => readArguments environmentSource next rest
        | none => .misuse
      | none, some o, some v =>
        match r.addValue? o v with
        | some next => readArguments environmentSource next rest
        | none => .misuse
      | none, some o, none =>
        match rest with
        | [] => .misuse
        | v :: more =>
          match if canBeValue v then r.addValue? o v else none with
          | some next => readArguments environmentSource next more
          | none => .misuse
      | _, _, _ => .misuse

/-- What the arguments mean, with the source that the environment names. -/
def Invocation.ofArguments (arguments : List String) (environmentSource : Option String) :
    Invocation :=
  readArguments environmentSource {} arguments

/-- The settings that a request makes. -/
def Request.settings (r : Request) : List Setting :=
  [.parents r.parents, .dropMagic r.dropMagic, .dropOldConstructors r.dropOldConstructors,
   .dropStatic r.dropStatic, .dropAbstract r.dropAbstract, .dropInherited r.dropInherited,
   .dropImplemented r.dropImplemented, .pattern r.pattern]

end PhpInterface
