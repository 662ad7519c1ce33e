import PhpInterface.Print.Draft
import PhpInterface.Proofs.Outcome

/-!
# Printing into an output

A printing is a course of pieces that may end in a failure.  An output can fail as well, between any two
pieces and inside one of them, even inside a character.  Whatever the output has taken by then is the
beginning of what the whole course writes (`delivery_cut`), so that the room of the output alone decides
which of the two failures is met.  A printing that writes each piece as it comes up is the same
(`Interface.write_eq_play`).

The course itself fails for one cause only once the interface has a name: a signature mentions a class whose
name cannot be read.  The types of the signatures are gone through twice, for the imports and for the lines
of the methods.  Both ways stop at the same type (`errorOf_importsOf`, `failure_draftBody`), and since the
imports come first nothing of the declaration is written by then (`unnamed_type_refused_early`).
-/

namespace PhpInterface

/-! ## Outputs of limited room -/

namespace Text

@[simp] lemma utf8_empty : utf8 "" = [] := rfl

lemma utf8_append (a b : String) : utf8 (a ++ b) = utf8 a ++ utf8 b := by
  simp [utf8]

end Text

namespace Sink

variable (sink : Sink)

/-- A piece that fits is taken whole. -/
lemma write_of_le {piece : String} (h : (Text.utf8 piece).length ≤ sink.room) :
    sink.write piece =
      ({ room := sink.room - (Text.utf8 piece).length, written := sink.written ++ Text.utf8 piece },
        true) := by
  simp [write, h, List.take_of_length_le h]

/-- Of a piece that does not fit the first bytes are taken, and there is no room after that. -/
lemma write_of_lt {piece : String} (h : sink.room < (Text.utf8 piece).length) :
    sink.write piece =
      ({ room := 0, written := sink.written ++ (Text.utf8 piece).take sink.room }, false) := by
  have hroom : sink.room - (Text.utf8 piece).length = 0 := by omega
  simp [write, hroom, h]

/-- Pieces one after the other are taken as if they were one. -/
lemma writeAll_eq (pieces : List String) :
    sink.writeAll pieces =
      ({ room := sink.room - (pieces.flatMap Text.utf8).length
         written := sink.written ++ (pieces.flatMap Text.utf8).take sink.room },
        decide ((pieces.flatMap Text.utf8).length ≤ sink.room)) := by
  induction pieces generalizing sink with
  | nil => simp [writeAll]
  | cons piece rest ih =>
      rw [writeAll, List.flatMap_cons, List.length_append]
      rcases Nat.lt_or_ge sink.room (Text.utf8 piece).length with hlt | hle
      · have hroom : sink.room - ((Text.utf8 piece).length + (rest.flatMap Text.utf8).length) = 0 := by
          omega
        have hfull : ¬ (Text.utf8 piece).length + (rest.flatMap Text.utf8).length ≤ sink.room := by
          omega
        rw [write_of_lt sink hlt, List.take_append_of_le_length (Nat.le_of_lt hlt), hroom, decide_eq_false hfull]
      · have hroom : (rest.flatMap Text.utf8).length ≤ sink.room - (Text.utf8 piece).length ↔
            (Text.utf8 piece).length + (rest.flatMap Text.utf8).length ≤ sink.room := by
          omega
        rw [write_of_le sink hle]
        dsimp only
        rw [ih, List.take_append, List.take_of_length_le hle, List.append_assoc]
        simp only [hroom, Nat.sub_sub]

end Sink

namespace Draft

/-- Play a printing into an output that takes everything. -/
def deliverAll (d : Draft) : List UInt8 × Option PrintError :=
  (d.pieces.foldl (fun written piece => written ++ Text.utf8 piece) [], d.failure)

variable (d : Draft)

lemma foldl_utf8 (pieces : List String) (start : List UInt8) :
    pieces.foldl (fun written piece => written ++ Text.utf8 piece) start =
      start ++ pieces.flatMap Text.utf8 := by
  induction pieces generalizing start with
  | nil => simp
  | cons piece rest ih => rw [List.foldl_cons, ih, List.flatMap_cons, List.append_assoc]

lemma utf8_text : Text.utf8 d.text = d.pieces.flatMap Text.utf8 := by
  rw [text]
  induction d.pieces with
  | nil => rfl
  | cons piece rest ih => rw [List.foldr_cons, Text.utf8_append, ih, List.flatMap_cons]

/-- An output that takes everything has taken the text in the end. -/
lemma deliverAll_eq : d.deliverAll = (Text.utf8 d.text, d.failure) := by
  rw [deliverAll, foldl_utf8, List.nil_append, utf8_text]

/-- An output takes the first bytes of the text.  If there is room for all of it the printing ends as it
does by itself, and else the output is closed before. -/
lemma deliver_eq (room : Nat) :
    d.deliver room =
      ((Text.utf8 d.text).take room,
        if (Text.utf8 d.text).length ≤ room then d.failure else some .outputClosed) := by
  rw [deliver, Sink.writeAll_eq, utf8_text]
  by_cases hroom : (d.pieces.flatMap Text.utf8).length ≤ room
  · rw [decide_eq_true hroom, if_pos hroom, List.nil_append]
  · rw [decide_eq_false hroom, if_neg hroom, List.nil_append]

lemma toText_eq : d.toText = d.failure.elim (.ok d.text) .error := by
  rw [toText]
  cases d.failure with
  | none => rfl
  | some cause => rfl

@[simp] lemma failure_after (piece : String) : (d.after piece).failure = d.failure := rfl

@[simp] lemma failure_afterAll (pieces : List String) : (d.afterAll pieces).failure = d.failure := rfl

@[simp] lemma failure_stop (cause : PrintError) : (stop cause).failure = some cause := rfl

@[simp] lemma text_stop (cause : PrintError) : (stop cause).text = "" := rfl

@[simp] lemma text_after (piece : String) : (d.after piece).text = piece ++ d.text := rfl

@[simp] lemma text_afterAll (pieces : List String) :
    (d.afterAll pieces).text = pieces.foldr (· ++ ·) "" ++ d.text := by
  rw [text, afterAll, List.foldr_append]
  induction pieces with
  | nil => simp [text]
  | cons piece rest ih => rw [List.foldr_cons, List.foldr_cons, ih, String.append_assoc]

end Draft

/-! ## Printing as it goes -/

section Printing

open Printing

/-- Print the course of a printing piece by piece. -/
def Draft.play (d : Draft) : Printing Unit := do
  d.pieces.forM put
  match d.failure with
  | none => pure ()
  | some cause => throw cause

lemma Draft.play_after (piece : String) (d : Draft) :
    (d.after piece).play = put piece >>= fun _ => d.play := by
  rw [play, play, after]
  simp only [List.forM_eq_forM, List.forM_cons, bind_assoc]

lemma Draft.play_afterAll (pieces : List String) (d : Draft) :
    (d.afterAll pieces).play = pieces.forM put >>= fun _ => d.play := by
  induction pieces with
  | nil => rfl
  | cons piece rest ih =>
      rw [show d.afterAll (piece :: rest) = (d.afterAll rest).after piece from rfl, play_after, ih]
      simp only [List.forM_eq_forM, List.forM_cons, bind_assoc]

lemma Interface.play_draftBody (methods : List Method) :
    (Interface.draftBody methods).play =
      (do
        methods.forM fun m => do
          put (← MonadExcept.ofExcept m.print)
          put "\n"
        put "\x7d") := by
  induction methods with
  | nil =>
      rw [show Interface.draftBody [] = ({} : Draft).after "\x7d" from rfl, Draft.play_after]
      exact bind_pure_unit
  | cons m rest ih =>
      rw [Interface.draftBody, List.forM_eq_forM, List.forM_cons]
      cases m.print with
      | error cause => rfl
      | ok line =>
          simp only [Draft.play_after, ih, MonadExcept.ofExcept, pure_bind, bind_assoc, List.forM_eq_forM]

lemma Printing.forM_ite (b : Bool) (piece : String) :
    (if b then [] else [piece]).forM put = putUnless b piece := by
  cases b with
  | true => rfl
  | false => exact bind_pure_unit

lemma Printing.forM_map {α : Type} (f : α → String) (l : List α) :
    (l.map f).forM put = l.forM fun a => put (f a) := by
  induction l with
  | nil => rfl
  | cons a rest ih =>
      rw [List.forM_eq_forM, List.forM_eq_forM] at ih ⊢
      rw [List.map_cons, List.forM_cons, List.forM_cons, ih]

/-- Printing piece by piece follows the course that is laid out beforehand. -/
lemma Interface.write_eq_play (i : Interface) : i.write = i.draft.play := by
  rw [Interface.write, Interface.draft, Draft.play_after]
  congr 1
  funext _
  cases contextOf i.name with
  | error cause => rfl
  | ok context =>
      dsimp only [MonadExcept.ofExcept]
      rw [pure_bind, Draft.play_afterAll, forM_ite]
      congr 1
      funext _
      cases importsOf context i.methods with
      | error cause => rfl
      | ok imports =>
          dsimp only [MonadExcept.ofExcept]
          rw [pure_bind, Draft.play_afterAll, Draft.play_afterAll, forM_ite, forM_map, Draft.play_after,
            Draft.play_after, play_draftBody]
          rfl

lemma Printing.run_put_bind (piece : String) (more : Unit → Printing Unit) (sink : Sink) :
    (put piece >>= more).run.run sink =
      if (sink.write piece).2 then (more ()).run.run (sink.write piece).1
      else (.error .outputClosed, (sink.write piece).1) := by
  change ((if (sink.write piece).2 then pure () else throw .outputClosed : Printing Unit) >>= more).run.run
    (sink.write piece).1 = _
  cases (sink.write piece).2 with
  | true => rfl
  | false => rfl

/-- A course is written as far as the sink takes it, and ends in its own failure if the sink takes all. -/
lemma Draft.run_play (d : Draft) (sink : Sink) :
    d.play.run.run sink =
      match sink.writeAll d.pieces with
      | (next, true) => (d.failure.elim (.ok ()) .error, next)
      | (next, false) => (.error .outputClosed, next) := by
  obtain ⟨pieces, failure⟩ := d
  induction pieces generalizing sink with
  | nil => cases failure <;> rfl
  | cons piece rest ih =>
      rw [show (⟨piece :: rest, failure⟩ : Draft) = Draft.after piece ⟨rest, failure⟩ from rfl, play_after,
        run_put_bind]
      dsimp only [after]
      rw [Sink.writeAll]
      obtain ⟨next, whole⟩ := sink.write piece
      cases whole with
      | true => exact ih next
      | false => rfl

lemma Interface.printTo_eq_deliver (i : Interface) (room : Nat) :
    i.printTo room = i.draft.deliver room := by
  rw [Interface.printTo, Draft.deliver, write_eq_play, Draft.run_play]
  generalize ({ room } : Sink).writeAll i.draft.pieces = taken
  obtain ⟨sink, _ | _⟩ := taken
  · rfl
  · cases i.draft.failure <;> rfl

end Printing

/-! ## Types without a name -/

namespace NamedType

/-- The type is a class whose name cannot be read. -/
def isUnnamed (t : NamedType) : Bool :=
  t.namesClass && (QualifiedName.parse? t.name).isNone

/-- Why the type cannot be printed, if it cannot. -/
def refusal? (t : NamedType) : Option PrintError :=
  if t.isUnnamed then some (.unresolvableType t.name) else none

variable (t : NamedType)

lemma errorOf_qualified (h : t.namesClass = true) : errorOf t.qualified = t.refusal? := by
  rw [qualified, refusal?, isUnnamed, h]
  cases QualifiedName.parse? t.name with
  | none => rfl
  | some name => rfl

lemma refusal?_of_not_namesClass (h : ¬ t.namesClass = true) : t.refusal? = none := by
  simp [refusal?, isUnnamed, h]

lemma errorOf_importIn (context : QualifiedName) : errorOf (t.importIn context) = t.refusal? := by
  rw [importIn]
  split
  · next h => rw [errorOf_bind_pure, errorOf_qualified t h]
  · next h =>
    rw [refusal?_of_not_namesClass t h]
    rfl

lemma errorOf_print : errorOf t.print = t.refusal? := by
  rw [print, errorOf_bind_pure, token]
  split
  · next h => rw [errorOf_bind_pure, errorOf_qualified t h]
  · next h =>
    rw [refusal?_of_not_namesClass t h]
    rfl

/-- The first type that is refused is the first one without a name. -/
lemma findSome?_refusal? (l : List NamedType) :
    l.findSome? refusal? = (l.find? isUnnamed).map fun t => .unresolvableType t.name := by
  induction l with
  | nil => rfl
  | cons t rest ih =>
      rw [List.findSome?_cons, List.find?_cons, refusal?]
      cases t.isUnnamed with
      | true => rfl
      | false => exact ih

end NamedType

/-! ## The course of a printing -/

lemma Parameter.errorOf_print (p : Parameter) : errorOf p.print = p.type.bind NamedType.refusal? := by
  rw [Parameter.print]
  cases p.type with
  | none => rfl
  | some t => exact (errorOf_bind_pure t.print _).trans t.errorOf_print

/-- A signature is refused for the first of its types that has no name, those of the parameters first. -/
lemma Method.errorOf_print (m : Method) : errorOf m.print = m.types.findSome? NamedType.refusal? := by
  have hparameters : errorOf (m.parameters.mapM Parameter.print) =
      (m.parameters.filterMap (·.type)).findSome? NamedType.refusal? := by
    rw [errorOf_mapM]
    induction m.parameters with
    | nil => rfl
    | cons p rest ih =>
        rw [List.findSome?_cons, p.errorOf_print, ih, List.filterMap_cons]
        cases p.type with
        | none => rfl
        | some t => rfl
  rw [Method.print, Method.types, List.findSome?_append, ← hparameters]
  cases m.parameters.mapM Parameter.print with
  | error e => rfl
  | ok parameters =>
      rw [ok_bind, errorOf_ok, Option.none_or]
      cases m.result with
      | none => rfl
      | some t =>
          rw [Option.toList_some, List.findSome?_singleton, ← t.errorOf_print]
          exact errorOf_bind_pure t.print _

lemma errorOf_importsOf (context : QualifiedName) (methods : List Method) :
    errorOf (importsOf context methods) =
      (methods.flatMap Method.types).findSome? NamedType.refusal? := by
  rw [importsOf, errorOf_bind_pure, errorOf_mapM]
  congr 1
  funext t
  exact t.errorOf_importIn context

lemma failure_draftBody (methods : List Method) :
    (Interface.draftBody methods).failure =
      (methods.flatMap Method.types).findSome? NamedType.refusal? := by
  induction methods with
  | nil => rfl
  | cons m rest ih =>
      rw [Interface.draftBody, List.flatMap_cons, List.findSome?_append, ← m.errorOf_print, ← ih]
      cases m.print with
      | error cause => rfl
      | ok text => rfl

/-- A printing fails for the name of the interface, or else for the first type without a name. -/
lemma Interface.failure_draft (i : Interface) :
    i.draft.failure = (errorOf (contextOf i.name)).or
      ((i.methods.flatMap Method.types).findSome? NamedType.refusal?) := by
  rw [Interface.draft, Draft.failure_after]
  cases contextOf i.name with
  | error cause => rfl
  | ok context =>
      dsimp only
      rw [Draft.failure_afterAll, errorOf_ok, Option.none_or]
      cases himports : importsOf context i.methods with
      | error cause =>
          rw [← errorOf_importsOf context, himports]
          rfl
      | ok imports => exact failure_draftBody i.methods

/-- Whatever the room of an output, it takes the first bytes of what an output takes that is never closed,
and the printing ends as it does there if all of them fit.  That is how the text is printed, or why it is
not.  It makes no difference whether the pieces are written as they come up or laid out beforehand. -/
theorem delivery_cut (i : Interface) :
    ∃ (text : String) (outcome : Option PrintError),
      i.draft.deliverAll = (Text.utf8 text, outcome) ∧
      i.print = outcome.elim (.ok text) .error ∧
      (outcome = none ∨ outcome = some (.invalidName i.name) ∨
        ∃ name, outcome = some (.unresolvableType name)) ∧
      ∀ room, i.printTo room = i.draft.deliver room ∧
        i.draft.deliver room =
          ((Text.utf8 text).take (min room (Text.utf8 text).length),
            if (Text.utf8 text).length ≤ room then outcome else some .outputClosed) := by
  refine ⟨i.draft.text, i.draft.failure, i.draft.deliverAll_eq, i.draft.toText_eq, ?_, ?_⟩
  · rw [Interface.failure_draft, NamedType.findSome?_refusal?, contextOf]
    cases QualifiedName.parse? i.name with
    | none => exact Or.inr (Or.inl rfl)
    | some context =>
        rw [errorOf_ok, Option.none_or]
        cases (i.methods.flatMap Method.types).find? NamedType.isUnnamed with
        | none => exact Or.inl rfl
        | some t => exact Or.inr (Or.inr ⟨t.name, rfl⟩)
  · intro room
    refine ⟨i.printTo_eq_deliver room, ?_⟩
    rw [i.draft.deliver_eq, ← List.take_eq_take_min]

/-! ## Failures before the declaration -/

/-- What is written before the imports: the opening tag, and the namespace if there is one. -/
def Interface.header (context : QualifiedName) : String :=
  "<?php\n\n" ++ (if context.isGlobal then "" else "namespace " ++ context.pathText ++ ";\n\n")

section

variable {i : Interface} {context : QualifiedName}

lemma Interface.failure_draft_of_contextOf (hcontext : contextOf i.name = .ok context) :
    i.draft.failure = errorOf (importsOf context i.methods) := by
  rw [Interface.failure_draft, hcontext, errorOf_importsOf, errorOf_ok, Option.none_or]

/-- Where the imports cannot be collected, the header is all that is written. -/
lemma Interface.text_draft_of_refused (hcontext : contextOf i.name = .ok context) {cause : PrintError}
    (hrefused : importsOf context i.methods = .error cause) :
    i.draft.text = Interface.header context := by
  rw [Interface.draft, hcontext]
  dsimp only
  rw [hrefused, Draft.text_after, Draft.text_afterAll, Draft.text_stop, Interface.header]
  cases context.isGlobal with
  | true => rfl
  | false => simp

/-- Every signature prints once the imports are collected. -/
lemma Method.exists_print_of_importsOf {methods : List Method} {imports : List QualifiedName}
    (himports : importsOf context methods = .ok imports) {m : Method} (hm : m ∈ methods) :
    ∃ line, m.print = .ok line := by
  apply eq_ok_of_errorOf
  have hnone : (methods.flatMap Method.types).findSome? NamedType.refusal? = none := by
    rw [← errorOf_importsOf context, himports, errorOf_ok]
  rw [m.errorOf_print, List.findSome?_eq_none_iff]
  intro t ht
  exact List.findSome?_eq_none_iff.1 hnone t (List.mem_flatMap.2 ⟨m, hm, ht⟩)

end

/-- A class whose name cannot be read is met before anything of the declaration is written, and of several
such classes the first one in the signatures is reported.  If there is none every signature prints; and
a signature alone is refused for the first such class of its own, so that the lines of the methods could
not be refused for another one. -/
theorem unnamed_type_refused_early {i : Interface} {context : QualifiedName}
    (hcontext : contextOf i.name = .ok context) :
    (∀ imports, importsOf context i.methods = .ok imports →
      (∀ m ∈ i.methods, ∃ line, m.print = .ok line) ∧ i.draft.deliverAll.2 = none) ∧
    (∀ cause, importsOf context i.methods = .error cause →
      ∃ t, (i.methods.flatMap Method.types).find? NamedType.isUnnamed = some t ∧
        i.draft.deliverAll =
          (Text.utf8 (Interface.header context), some (.unresolvableType t.name))) ∧
    ((∀ t ∈ i.methods.flatMap Method.types, t.namesClass = true →
        ∃ q, QualifiedName.parse? t.name = some q) →
      i.draft.deliverAll.2 = none ∧
        ∀ room name, (i.draft.deliver room).2 ≠ some (.unresolvableType name)) ∧
    ∀ m ∈ i.methods,
      errorOf m.print = (m.types.find? NamedType.isUnnamed).map fun t => .unresolvableType t.name := by
  have hfailure := Interface.failure_draft_of_contextOf hcontext
  rw [i.draft.deliverAll_eq]
  refine ⟨?_, ?_, ?_, fun m _ => m.errorOf_print.trans (NamedType.findSome?_refusal? m.types)⟩
  · intro imports himports
    refine ⟨fun m hm => Method.exists_print_of_importsOf himports hm, ?_⟩
    rw [hfailure, himports, errorOf_ok]
  · intro cause hrefused
    have hfirst := errorOf_importsOf context i.methods
    rw [NamedType.findSome?_refusal?, hrefused, errorOf_error, eq_comm, Option.map_eq_some_iff] at hfirst
    obtain ⟨t, ht, rfl⟩ := hfirst
    refine ⟨t, ht, ?_⟩
    rw [Interface.text_draft_of_refused hcontext hrefused, hfailure, hrefused, errorOf_error]
  · intro hnamed
    have hnone : (i.methods.flatMap Method.types).find? NamedType.isUnnamed = none := by
      rw [List.find?_eq_none]
      intro t ht hunnamed
      rw [NamedType.isUnnamed, Bool.and_eq_true, Option.isNone_iff_eq_none] at hunnamed
      obtain ⟨q, hq⟩ := hnamed t ht hunnamed.1
      rw [hq] at hunnamed
      cases hunnamed.2
    have hends : i.draft.failure = none := by
      rw [hfailure, errorOf_importsOf, NamedType.findSome?_refusal?, hnone, Option.map_none]
    refine ⟨hends, fun room name => ?_⟩
    rw [i.draft.deliver_eq, hends]
    dsimp only
    split <;> simp

/-- The second of two methods has two types without a name: the parameter's is reported. -/
theorem unnamed_type_refused_early_second :
    let i : Interface :=
      { name := "\\App\\Api"
        methods :=
          [{ name := "find", result := some ⟨"\\Lib\\X", false, true⟩ },
           { name := "take"
             parameters := [{ name := "n", type := some ⟨"int", true, false⟩ },
               { name := "x", type := some ⟨"Lib\\\\X", false, false⟩ }]
             result := some ⟨"", false, false⟩ }] }
    contextOf i.name = .ok ⟨["App"], "Api"⟩ ∧
      i.draft.deliverAll =
        (Text.utf8 "<?php\n\nnamespace App;\n\n", some (.unresolvableType "Lib\\\\X")) := by
  intro i
  have hcontext : contextOf i.name = .ok ⟨["App"], "Api"⟩ := by decide +kernel
  have hrefused : importsOf ⟨["App"], "Api"⟩ i.methods = .error (.unresolvableType "Lib\\\\X") := by
    decide +kernel
  obtain ⟨t, ht, hdelivered⟩ := (unnamed_type_refused_early hcontext).2.1 _ hrefused
  have hname : t.name = "Lib\\\\X" := by
    cases ht
    rfl
  rw [hname] at hdelivered
  exact ⟨hcontext, hdelivered⟩

end PhpInterface
