import PhpInterface.Print.Signature
import PhpInterface.Text.Utf8

/-!
# Printed interfaces

Printing an interface writes pieces of text one after the other until it is done or meets a failure.
A draft is that whole course: the pieces in order, and the failure after the last of them, if any.
`Draft.toText` is the text of a printing that went well; `Draft.deliver` plays the course into a sink
that has room for a number of bytes and is closed after that.

`Interface.printTo` prints into such a sink directly, with one write after the other, and stops at the first
one that is not taken whole.
-/

namespace PhpInterface

/-- The course of a printing. -/
structure Draft where
  /-- what is written, piece by piece -/
  pieces : List String := []
  /-- why nothing more is written, if it did not come to its end -/
  failure : Option PrintError := none
  deriving Inhabited

namespace Draft

/-- The course that first writes one more piece. -/
def after (piece : String) (d : Draft) : Draft :=
  { d with pieces := piece :: d.pieces }

/-- The course that first writes some more pieces. -/
def afterAll (pieces : List String) (d : Draft) : Draft :=
  { d with pieces := pieces ++ d.pieces }

/-- The course that writes nothing more, for a cause. -/
def stop (cause : PrintError) : Draft where
  failure := some cause

/-- All that is written. -/
def text (d : Draft) : String :=
  d.pieces.foldr (· ++ ·) ""

/-- The text of a printing that came to its end. -/
def toText (d : Draft) : Except PrintError String :=
  match d.failure with
  | none => .ok d.text
  | some cause => .error cause

end Draft

/-- The line that opens the declaration. -/
def Interface.headLine (context : QualifiedName) (parents : List String) : String :=
  "interface " ++ context.short ++
    (if parents.isEmpty then "" else " extends " ++ Text.joinWith ", " parents) ++ "\n"

/-- The methods, each with an empty line after it, and the closing brace. -/
def Interface.draftBody : List Method → Draft
  | [] => { pieces := ["\x7d"] }
  | m :: rest =>
    match m.print with
    | .ok text => ((draftBody rest).after "\n").after text
    | .error cause => .stop cause

/-- The printing of an interface: the opening tag, the namespace, the imports, the declaration.  The
name is looked at after the tag is written, and every mentioned class before the first import is. -/
def Interface.draft (i : Interface) : Draft :=
  Draft.after "<?php\n\n" <|
    match contextOf i.name with
    | .error cause => .stop cause
    | .ok context =>
      Draft.afterAll (if context.isGlobal then [] else ["namespace " ++ context.pathText ++ ";\n\n"]) <|
        match importsOf context i.methods with
        | .error cause => .stop cause
        | .ok imports =>
          Draft.afterAll (imports.map fun name => "use " ++ name.text ++ ";\n") <|
            Draft.afterAll (if imports.isEmpty then [] else ["\n"]) <|
              Draft.after (headLine context i.parents) <|
                Draft.after "\x7b\n" (draftBody i.methods)

/-- The text of an interface. -/
def Interface.print (i : Interface) : Except PrintError String :=
  i.draft.toText

/-! ## Sinks of limited room -/

/-- An output that takes a number of bytes and is closed after that. -/
structure Sink where
  /-- how many bytes it still takes -/
  room : Nat
  /-- what it took, in order -/
  written : List UInt8 := []

namespace Sink

/-- Write a piece.  What fits is taken; the second component tells whether all of it was. -/
def write (sink : Sink) (piece : String) : Sink × Bool :=
  let bytes := Text.utf8 piece
  ({ room := sink.room - bytes.length, written := sink.written ++ bytes.take sink.room },
    bytes.length ≤ sink.room)

end Sink

/-- Write pieces until one is not taken whole. -/
def Sink.writeAll (sink : Sink) : List String → Sink × Bool
  | [] => (sink, true)
  | piece :: rest =>
    match sink.write piece with
    | (next, true) => next.writeAll rest
    | (next, false) => (next, false)

/-- Play a printing into a sink with so much room: what was taken, and the failure it ended with. -/
def Draft.deliver (d : Draft) (room : Nat) : List UInt8 × Option PrintError :=
  match ({ room } : Sink).writeAll d.pieces with
  | (sink, true) => (sink.written, d.failure)
  | (sink, false) => (sink.written, some .outputClosed)

/-! ## Printing as it goes -/

/-- A printing that writes into a sink until it fails. -/
abbrev Printing (α : Type) : Type :=
  ExceptT PrintError (StateM Sink) α

/-- Write a piece.  A sink that does not take all of it ends the printing. -/
def Printing.put (piece : String) : Printing Unit := do
  let (sink, whole) := (← get).write piece
  set sink
  if whole then pure () else throw .outputClosed

/-- Write a piece unless there is no need to. -/
def Printing.putUnless (needless : Bool) (piece : String) : Printing Unit :=
  if needless then pure () else put piece

open Printing in
/-- Print an interface piece by piece. -/
def Interface.write (i : Interface) : Printing Unit := do
  put "<?php\n\n"
  let context ← MonadExcept.ofExcept (contextOf i.name)
  putUnless context.isGlobal ("namespace " ++ context.pathText ++ ";\n\n")
  let imports ← MonadExcept.ofExcept (importsOf context i.methods)
  imports.forM fun name => put ("use " ++ name.text ++ ";\n")
  putUnless imports.isEmpty "\n"
  put (headLine context i.parents)
  put "\x7b\n"
  i.methods.forM fun m => do
    put (← MonadExcept.ofExcept m.print)
    put "\n"
  put "\x7d"

/-- Print an interface into a sink with so much room: what was taken, and the failure it ended with. -/
def Interface.printTo (i : Interface) (room : Nat) : List UInt8 × Option PrintError :=
  match i.write.run.run { room } with
  | (.ok _, sink) => (sink.written, none)
  | (.error cause, sink) => (sink.written, some cause)

end PhpInterface
