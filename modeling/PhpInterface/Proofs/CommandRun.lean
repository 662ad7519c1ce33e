import PhpInterface.Command.Run
import PhpInterface.Pattern.Written
import PhpInterface.Proofs.ArgumentReading
import PhpInterface.Proofs.Outcome
import PhpInterface.Proofs.WrittenFiles

/-!
# Runs of the command

A run that is asked for an interface does all of its work or none.  What can go wrong is said by `Fault`
without the run: of each step as soon as what the step needs is there, so that a request can have several
faults.  The steps have an order, `CommandError.stage`, and a failed run reports the fault of the earliest
step, in words that are told by `Reported`.  A run without faults renders the interface and prints it or puts
it into one file.  All of this holds for every language of patterns and every file system.
-/

namespace PhpInterface

/-- The place of a failed step among the steps of a run. -/
def CommandError.stage : CommandError → Nat
  | .badPattern _ => 0
  | .step (.path _) => 1
  | .step (.source _) => 2
  | .step (.print _) => 3
  | .cannotWrite _ _ => 4

namespace Request

/-- What can go wrong with a request. -/
inductive Fault (language : PatternLanguage) (r : Request) (fs : FileSystem) : CommandError → Prop
  | pattern {text cause : String} (htext : r.pattern = some text)
      (hbad : language.compile text = .error cause) : Fault language r fs (.badPattern cause)
  | listing {e : PathError} (hfiles : fs.sources r.source sourceExtensions = .error e) :
      Fault language r fs (.step (.path e))
  | resolution {files : List SourceFile} {e : SourceError}
      (hfiles : fs.sources r.source sourceExtensions = .ok files)
      (hclass : classNamed (files.map (·.content)) r.className = .error e) :
      Fault language r fs (.step (.source e))
  | rendering {selection : Selection} {files : List SourceFile} {c : ClassInfo} {e : PrintError}
      (hselection : ({} : Selection).setEach language r.settings = .ok selection)
      (hfiles : fs.sources r.source sourceExtensions = .ok files)
      (hclass : classNamed (files.map (·.content)) r.className = .ok c)
      (hprint : (selection.interfaceOf c r.interfaceName).print = .error e) :
      Fault language r fs (.step (.print e))
  /-- nothing can be written to the output file -/
  | writing {path : String} {failure : AccessFailure} (houtput : r.output = some path)
      (hwrite : ∀ bytes, fs.write path bytes = .error failure) :
      Fault language r fs (.cannotWrite path failure)

/-- The interface that is asked for is rendered as this text. -/
structure Renders (language : PatternLanguage) (r : Request) (fs : FileSystem) (selection : Selection)
    (files : List SourceFile) (c : ClassInfo) (text : String) : Prop where
  selected : ({} : Selection).setEach language r.settings = .ok selection
  listed : fs.sources r.source sourceExtensions = .ok files
  resolved : classNamed (files.map (·.content)) r.className = .ok c
  printed : (selection.interfaceOf c r.interfaceName).print = .ok text

/-- The fault of the earliest step. -/
def FirstFault (language : PatternLanguage) (r : Request) (fs : FileSystem) (e : CommandError) : Prop :=
  r.Fault language fs e ∧ ∀ other, r.Fault language fs other → other = e ∨ e.stage < other.stage

/-! ## The words of a report -/

/-- The text with four blanks in front of each of its lines. -/
def indented (s : String) : String :=
  "    " ++ String.ofList (s.toList.flatMap fun c => if c = '\n' then ['\n', ' ', ' ', ' ', ' '] else [c])

/-- What the system says about a failure. -/
inductive SystemSays : AccessFailure → String → Prop
  | notFound : SystemSays .notFound "No such file or directory (os error 2)"
  | notDirectory : SystemSays .notDirectory "Not a directory (os error 20)"
  | isDirectory : SystemSays .isDirectory "Is a directory (os error 21)"
  | other (words : String) : SystemSays (.other words) words

/-- The words for a fault: what could not be done and, where that is told, why. -/
inductive Worded (r : Request) : CommandError → String → Option String → Prop
  | badPattern (cause : String) :
      Worded r (.badPattern cause) "Invalid --methods-matching pattern" (some cause)
  | missing (path : String) :
      Worded r (.step (.path (.missing path))) ("Failed to list sources in " ++ r.source)
        (some ("Invalid path: " ++ path ++ " does not exist"))
  | notSource (path : String) :
      Worded r (.step (.path (.notSource path))) ("Failed to list sources in " ++ r.source)
        (some ("Invalid path: " ++ path ++ " is not a source file"))
  | unparsable : Worded r (.step (.source .unparsable)) "Failed to parse source file" none
  | circular (name : String) :
      Worded r (.step (.source (.circular name))) ("Circular inheritance involving " ++ name) none
  | classNotFound (name : String) :
      Worded r (.step (.source (.classNotFound name))) ("Class '" ++ name ++ "' not found") none
  | unsupportedType (text : String) :
      Worded r (.step (.source (.unsupportedType text)))
        ("Unsupported type declaration '" ++ text ++ "'") none
  | unreadable {failure : AccessFailure} {words : String} (h : SystemSays failure words) :
      Worded r (.step (.source (.unreadable failure))) words none
  | invalidName (name : String) :
      Worded r (.step (.print (.invalidName name))) ("Failed to render interface " ++ r.interfaceName)
        (some ("Invalid interface name '" ++ name ++ "'"))
  | unresolvableType (name : String) :
      Worded r (.step (.print (.unresolvableType name))) ("Failed to render interface " ++ r.interfaceName)
        (some ("Cannot resolve type reference '" ++ name ++ "'"))
  | outputClosed :
      Worded r (.step (.print .outputClosed)) ("Failed to render interface " ++ r.interfaceName)
        (some "Failed to write to output: closed")
  | cannotWrite (path : String) {failure : AccessFailure} {words : String} (h : SystemSays failure words) :
      Worded r (.cannotWrite path failure) ("Failed to write " ++ path) (some words)

/-- How a fault is reported: on one line, or with what is told about it below. -/
inductive Reported (r : Request) (e : CommandError) : String → Prop
  | plain {what : String} (h : r.Worded e what none) : Reported r e ("Error: " ++ what ++ "\n")
  | caused {what why : String} (h : r.Worded e what (some why)) :
      Reported r e ("Error: " ++ what ++ "\n\nCaused by:\n" ++ indented why ++ "\n")

/-- Lines with a line break and blanks between them are an indented text. -/
lemma toList_joinWith_lines (s : List Char) :
    (Text.joinWith "\n    " ((Text.pieces '\n' s).map String.ofList)).toList =
      s.flatMap fun c => if c = '\n' then ['\n', ' ', ' ', ' ', ' '] else [c] := by
  induction s with
  | nil => rfl
  | cons c rest ih =>
      obtain ⟨line, more, hlines⟩ := List.exists_cons_of_ne_nil (Text.pieces_ne_nil '\n' rest)
      rw [List.flatMap_cons, ← ih, Text.pieces, hlines]
      by_cases hc : c = '\n'
      · rw [if_pos hc, if_pos hc, List.map_cons, List.map_cons, Text.joinWith]
        · simp
        · exact List.cons_ne_nil _ _
      · rw [if_neg hc, if_neg hc]
        cases more with
        | nil => simp [Text.joinWith]
        | cons next others => simp [Text.joinWith]

lemma withCause_eq (message cause : String) :
    withCause message cause = message ++ "\n\nCaused by:\n" ++ indented cause := by
  rw [← String.toList_inj, withCause, indented]
  simp only [String.toList_append, toList_joinWith_lines, String.toList_ofList]
  simp

lemma systemSays_message (failure : AccessFailure) : SystemSays failure failure.message := by
  cases failure with
  | notFound => exact .notFound
  | notDirectory => exact .notDirectory
  | isDirectory => exact .isDirectory
  | other words => exact .other words

lemma reported_withCause {r : Request} {e : CommandError} {what why : String}
    (hmessage : e.message r = withCause what why) (h : r.Worded e what (some why)) :
    r.Reported e (e.report r) := by
  have hreport : e.report r = "Error: " ++ what ++ "\n\nCaused by:\n" ++ indented why ++ "\n" := by
    rw [CommandError.report, hmessage, withCause_eq]
    simp only [String.append_assoc]
  rw [hreport]
  exact .caused h

/-- Every fault is reported in its words. -/
lemma reported_report (r : Request) (e : CommandError) : r.Reported e (e.report r) := by
  cases e with
  | badPattern cause => exact reported_withCause rfl (.badPattern cause)
  | step e =>
      cases e with
      | path e =>
          cases e with
          | missing path => exact reported_withCause rfl (.missing path)
          | notSource path => exact reported_withCause rfl (.notSource path)
      | source e =>
          cases e with
          | unparsable => exact .plain .unparsable
          | circular name => exact .plain (.circular name)
          | classNotFound name => exact .plain (.classNotFound name)
          | unsupportedType text => exact .plain (.unsupportedType text)
          | unreadable failure => exact .plain (.unreadable (systemSays_message failure))
      | print e =>
          cases e with
          | invalidName name => exact reported_withCause rfl (.invalidName name)
          | unresolvableType name => exact reported_withCause rfl (.unresolvableType name)
          | outputClosed => exact reported_withCause rfl .outputClosed
  | cannotWrite path failure =>
      exact reported_withCause rfl (.cannotWrite path (systemSays_message failure))

/-! ## The text of the interface -/

section Steps

variable {language : PatternLanguage} {r : Request} {fs : FileSystem} {selection : Selection}
  {files : List SourceFile} {c : ClassInfo}

lemma setEach_settings_eq_error_iff {cause : String} :
    ({} : Selection).setEach language r.settings = .error cause ↔
      ∃ text, r.pattern = some text ∧ language.compile text = .error cause := by
  have hlast : ({} : Selection).setEach language r.settings =
      ({ parents := r.parents, dropMagic := r.dropMagic, dropOldConstructors := r.dropOldConstructors,
         dropStatic := r.dropStatic, dropAbstract := r.dropAbstract, dropInherited := r.dropInherited,
         dropImplemented := r.dropImplemented } : Selection).set language (.pattern r.pattern) := by
    rw [Selection.setEach, settings]
    exact bind_pure (m := Except String) _
  rw [hlast]
  cases r.pattern with
  | none => simp [Selection.set]
  | some text => simp [Selection.set, bind_eq_error_iff, pure, Except.pure]

lemma firstFault_pattern {cause : String}
    (hselection : ({} : Selection).setEach language r.settings = .error cause) :
    r.FirstFault language fs (.badPattern cause) := by
  obtain ⟨text, htext, hbad⟩ := setEach_settings_eq_error_iff.mp hselection
  refine ⟨.pattern htext hbad, fun other hother => ?_⟩
  cases hother with
  | pattern htext' hbad' =>
      rw [htext, Option.some.injEq] at htext'
      rw [← htext', hbad, Except.error.injEq] at hbad'
      exact .inl (by rw [hbad'])
  | _ => exact .inr (Nat.zero_lt_succ _)

/-- The pattern of a selection that can be made is none of the faults. -/
lemma ne_badPattern (hselection : ({} : Selection).setEach language r.settings = .ok selection)
    {e : CommandError} (h : r.Fault language fs e) (cause : String) : e ≠ .badPattern cause := by
  rintro rfl
  cases h with
  | pattern htext hbad =>
      rw [setEach_settings_eq_error_iff.mpr ⟨_, htext, hbad⟩] at hselection
      cases hselection

/-- A step is at fault only after the steps it needs have gone well, so no two of them are. -/
lemma firstFault_step (hselection : ({} : Selection).setEach language r.settings = .ok selection)
    {e : GenerateError} (h : r.Fault language fs (.step e)) : r.FirstFault language fs (.step e) := by
  refine ⟨h, fun other hother => ?_⟩
  have hpattern := ne_badPattern hselection hother
  cases h with
  | listing hfiles => cases hother <;> simp_all [CommandError.stage]
  | resolution hfiles hclass => cases hother <;> simp_all [CommandError.stage]
  | rendering hselection' hfiles hclass hprint => cases hother <;> simp_all [CommandError.stage]

/-- Once the interface is rendered, only the output file can be at fault. -/
lemma Renders.eq_cannotWrite {text : String} (hrenders : r.Renders language fs selection files c text)
    {e : CommandError} (h : r.Fault language fs e) :
    ∃ path failure, e = .cannotWrite path failure ∧ r.output = some path ∧
      ∀ bytes, fs.write path bytes = .error failure := by
  obtain ⟨hselection, hfiles, hclass, hprint⟩ := hrenders
  have hpattern := ne_badPattern hselection h
  cases h <;> simp_all

lemma Renders.firstFault_writing {text path : String} {failure : AccessFailure}
    (hrenders : r.Renders language fs selection files c text) (houtput : r.output = some path)
    (hwrite : fs.write path (Text.utf8 text) = .error failure) :
    r.FirstFault language fs (.cannotWrite path failure) := by
  refine ⟨.writing houtput (FileSystem.write_eq_error hwrite), fun other hother => .inl ?_⟩
  obtain ⟨path', failure', rfl, hpath', hwrite'⟩ := hrenders.eq_cannotWrite hother
  rw [houtput, Option.some.injEq] at hpath'
  have hsame := hwrite' (Text.utf8 text)
  rw [← hpath', hwrite, Except.error.injEq] at hsame
  rw [hpath', hsame]

lemma Renders.not_fault {text : String} (hrenders : r.Renders language fs selection files c text)
    (hwrite : ∀ path, r.output = some path → ∃ after, fs.write path (Text.utf8 text) = .ok after)
    (e : CommandError) : ¬r.Fault language fs e := by
  intro he
  obtain ⟨path, failure, -, hpath, hfailed⟩ := hrenders.eq_cannotWrite he
  obtain ⟨after, hafter⟩ := hwrite path hpath
  rw [hfailed] at hafter
  cases hafter

end Steps

/-- The steps up to the text end with the first fault, or with the text. -/
lemma text_cases (language : PatternLanguage) (r : Request) (fs : FileSystem) :
    (∃ e, r.text language (fs.at? r.source) = .error e ∧ r.FirstFault language fs e) ∨
      ∃ selection files c text, r.text language (fs.at? r.source) = .ok text ∧
        r.Renders language fs selection files c text := by
  rw [text]
  cases hselection : ({} : Selection).setEach language r.settings with
  | error cause => exact .inl ⟨_, rfl, firstFault_pattern hselection⟩
  | ok selection =>
      dsimp only
      rw [generate, ← FileSystem.sources]
      cases hfiles : fs.sources r.source sourceExtensions with
      | error e => exact .inl ⟨_, rfl, firstFault_step hselection (.listing hfiles)⟩
      | ok files =>
          rw [asFailure, ok_bind]
          cases hclass : classNamed (files.map (·.content)) r.className with
          | error e => exact .inl ⟨_, rfl, firstFault_step hselection (.resolution hfiles hclass)⟩
          | ok c =>
              rw [asFailure, ok_bind]
              cases hprint : (selection.interfaceOf c r.interfaceName).print with
              | error e =>
                  have hfault := Fault.rendering hselection hfiles hclass hprint
                  exact .inl ⟨_, rfl, firstFault_step hselection hfault⟩
              | ok text => exact .inr ⟨selection, files, c, text, rfl, hselection, hfiles, hclass, hprint⟩

/-! ## The whole run -/

section Runs

variable {language : PatternLanguage} {r : Request} {fs : FileSystem}

lemma run_of_text_error {e : CommandError} (h : r.text language (fs.at? r.source) = .error e) :
    r.run language fs = { exitCode := 1, stdout := "", stderr := e.report r, files := fs } := by
  rw [run, h]

lemma run_of_printed {text : String} (h : r.text language (fs.at? r.source) = .ok text)
    (houtput : r.output = none) :
    r.run language fs = { exitCode := 0, stdout := text ++ "\n", stderr := "", files := fs } := by
  rw [run, h]
  simp only [houtput]

lemma run_of_written {text path : String} {files : FileSystem}
    (h : r.text language (fs.at? r.source) = .ok text) (houtput : r.output = some path)
    (hwrite : fs.write path (Text.utf8 text) = .ok files) :
    r.run language fs = { exitCode := 0, stdout := "", stderr := "", files := files } := by
  rw [run, h]
  simp only [houtput, hwrite]

lemma run_of_unwritten {text path : String} {failure : AccessFailure}
    (h : r.text language (fs.at? r.source) = .ok text) (houtput : r.output = some path)
    (hwrite : fs.write path (Text.utf8 text) = .error failure) :
    r.run language fs =
      { exitCode := 1
        stdout := ""
        stderr := (CommandError.cannotWrite path failure).report r
        files := fs } := by
  rw [run, h]
  simp only [houtput, hwrite]

end Runs

end Request

/-- A run that is asked for an interface does all of its work or none of it, in whatever language patterns are
written.  If it fails it has printed nothing and changed no file, and reports the first fault in its words.
If it succeeds there is no fault.  Then it prints the rendered interface and changes no file, or it writes
into the output file, and changes no other place; the same arguments without the option for that file print
what it writes and a line break. -/
theorem run_all_or_nothing (language : PatternLanguage) (fs : FileSystem) {arguments : List String}
    {environmentSource : Option String} {r : Request} {o : Outcome}
    (h : Invocation.ofArguments arguments environmentSource = .request r)
    (hrun : runCommand language fs arguments environmentSource = o) :
    (o.exitCode ≠ 0 →
      o.stdout = "" ∧ o.files = fs ∧ ∃ e, r.FirstFault language fs e ∧ r.Reported e o.stderr) ∧
    (o.exitCode = 0 →
      (∀ e, ¬r.Fault language fs e) ∧ o.stderr = "" ∧
      ∃ selection files c text, r.Renders language fs selection files c text ∧
        (r.output = none → o.stdout = text ++ "\n" ∧ o.files = fs) ∧
        (∀ path, r.output = some path →
          o.stdout = "" ∧ fs.Rewritten o.files path (Text.utf8 text) ∧
          Invocation.ofArguments (withoutOutput arguments) environmentSource =
            .request { r with output := none } ∧
          runCommand language fs (withoutOutput arguments) environmentSource =
            { exitCode := 0, stdout := text ++ "\n", stderr := "", files := fs })) := by
  have hplain := ofArguments_withoutOutput h
  obtain rfl : r.run language fs = o := by rw [← hrun, runCommand, h]
  obtain ⟨e, htext, hfirst⟩ | ⟨selection, files, c, text, htext, hrenders⟩ := r.text_cases language fs
  · rw [Request.run_of_text_error htext]
    exact ⟨fun _ => ⟨rfl, rfl, e, hfirst, r.reported_report e⟩, nofun⟩
  · have hprinted : runCommand language fs (withoutOutput arguments) environmentSource =
        { exitCode := 0, stdout := text ++ "\n", stderr := "", files := fs } := by
      rw [runCommand, hplain]
      exact Request.run_of_printed (r := { r with output := none }) htext rfl
    cases houtput : r.output with
    | none =>
        rw [Request.run_of_printed htext houtput]
        have hnot := hrenders.not_fault (by rw [houtput]; nofun)
        exact ⟨fun hfailed => absurd rfl hfailed,
          fun _ => ⟨hnot, rfl, selection, files, c, text, hrenders, fun _ => ⟨rfl, rfl⟩, nofun⟩⟩
    | some path =>
        cases hwrite : fs.write path (Text.utf8 text) with
        | error failure =>
            rw [Request.run_of_unwritten htext houtput hwrite]
            have hfirst := hrenders.firstFault_writing houtput hwrite
            exact ⟨fun _ => ⟨rfl, rfl, _, hfirst, r.reported_report _⟩, nofun⟩
        | ok after =>
            rw [Request.run_of_written htext houtput hwrite]
            have hnot := hrenders.not_fault fun path' hpath' =>
              ⟨after, Option.some.inj (houtput.symm.trans hpath') ▸ hwrite⟩
            refine ⟨fun hfailed => absurd rfl hfailed,
              fun _ => ⟨hnot, rfl, selection, files, c, text, hrenders, nofun, fun path' hpath' => ?_⟩⟩
            cases hpath'
            exact ⟨rfl, FileSystem.rewritten_of_write hwrite, hplain, hprinted⟩

/-- A working folder with a source and with outputs of before, inside of the root. -/
def shelf : FileSystem where
  root := .folder
    [("shelf", .folder
      [("src", .folder [("c.php", .file (Text.utf8 "<?php class C \x7b function f() \x7b\x7d \x7d"))]),
       ("out", .folder [("i.php", .file [65]), ("j.php", .file [66])])])]
  working := ["shelf"]

/-- A request for the interface of a class on the shelf, or of one that is not there. -/
def shelfRequest (className path : String) (pattern : Option String) : Request where
  className := className
  interfaceName := "I"
  source := "src"
  output := some path
  parents := []
  dropMagic := false
  dropOldConstructors := false
  dropStatic := false
  dropAbstract := false
  dropInherited := false
  dropImplemented := false
  pattern := pattern

/-- Arguments with a path to the output that starts at the root and takes detours. -/
def detourArguments : List String :=
  ["--source=src", "--output", "/../shelf/out/./i.php", "C", "--interface=I"]

/-- Arguments with a fault in the pattern, the class and the output. -/
def faultyArguments : List String :=
  ["D", "--interface", "I", "--methods-matching=(", "--output=no/i.php"]

theorem run_all_or_nothing_shelf :
    (∃ text, shelf.Rewritten (runCommand Pattern.language shelf detourArguments none).files
        "/../shelf/out/./i.php" (Text.utf8 text) ∧
      (runCommand Pattern.language shelf ["--source=src", "C", "--interface=I"] none).stdout =
        text ++ "\n") ∧
    ((runCommand Pattern.language shelf faultyArguments (some "src")).files = shelf ∧
      (runCommand Pattern.language shelf faultyArguments (some "src")).stderr =
        "Error: Invalid --methods-matching pattern\n\nCaused by:\n    no regular expression: (\n" ∧
      ∃ e, (shelfRequest "D" "no/i.php" (some "(")).FirstFault Pattern.language shelf e ∧
        (shelfRequest "D" "no/i.php" (some "(")).Reported e
          (runCommand Pattern.language shelf faultyArguments (some "src")).stderr) := by
  have hdetour : Invocation.ofArguments detourArguments none =
      .request (shelfRequest "C" "/../shelf/out/./i.php" none) := by decide +kernel
  have hfaulty : Invocation.ofArguments faultyArguments (some "src") =
      .request (shelfRequest "D" "no/i.php" (some "(")) := by decide +kernel
  constructor
  · obtain ⟨-, -, _, _, _, text, -, -, hwritten⟩ :=
      (run_all_or_nothing Pattern.language shelf hdetour rfl).2 (by decide +kernel)
    obtain ⟨-, hfiles, -, hprinted⟩ := hwritten _ rfl
    have hplain : withoutOutput detourArguments = ["--source=src", "C", "--interface=I"] := by
      decide +kernel
    rw [hplain] at hprinted
    exact ⟨text, hfiles, by rw [hprinted]⟩
  · obtain ⟨-, hfiles, e, hfirst, hreported⟩ :=
      (run_all_or_nothing Pattern.language shelf hfaulty rfl).1 (by decide +kernel)
    exact ⟨hfiles, by decide +kernel, e, hfirst, hreported⟩

end PhpInterface
