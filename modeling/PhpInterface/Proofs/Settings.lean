import Mathlib.Data.List.Basic
import Mathlib.Data.List.Induction
import Mathlib.Logic.Function.Basic
import PhpInterface.Pattern.Written
import PhpInterface.Selection

/-!
# Sequences of settings

A selection is changed by one setting after another, and a setting whose pattern is none changes nothing.
What comes of a whole sequence can be told without going through it: for each subject the last accepted
setting counts (`lastOf`), and the selection is put together from those (`setAll_eq_ofLast`).

The causes for leaving a method out are tried one after another.  None of them hides another one, because a
method is in the interface only if every subject keeps it (`isNone_omission?_ofLast`).  So the interface is
what all the settings in force keep, each of them taken by itself (`settings_compose`), and the laws of a
sequence of settings are laws of `lastOf`.

All of this holds for every language of patterns, whatever texts it takes for patterns and whatever names
they match.
-/

namespace PhpInterface

/-! ## One setting -/

namespace Setting

/-- What a setting is about. -/
inductive Subject where
  | parents
  | magic
  | oldConstructors
  | static
  | abstract
  | inherited
  | implemented
  | pattern
  deriving DecidableEq

/-- All that a setting can be about. -/
def Subject.all : List Subject :=
  [.parents, .magic, .oldConstructors, .static, .abstract, .inherited, .implemented, .pattern]

lemma Subject.mem_all (subject : Subject) : subject ∈ Subject.all := by
  cases subject <;> decide

def subject : Setting → Subject
  | .parents _ => .parents
  | .dropMagic _ => .magic
  | .dropOldConstructors _ => .oldConstructors
  | .dropStatic _ => .static
  | .dropAbstract _ => .abstract
  | .dropInherited _ => .inherited
  | .dropImplemented _ => .implemented
  | .pattern _ => .pattern

/-- The setting has no pattern, or one of the language. -/
def isAccepted (lang : PatternLanguage) : Setting → Bool
  | .pattern (some text) => (lang.compile text).isOk
  | _ => true

/-- The methods that the exclusion of a subject is about. -/
def Subject.concerns (c : ClassInfo) (m : ClassMethod) : Subject → Bool
  | .magic => isMagic m.name
  | .oldConstructors => Text.caselessEq m.name c.shortName
  | .static => m.static
  | .abstract => m.isAbstract
  | .inherited => !Text.caselessEq m.declaringClass c.name
  | .implemented => m.implementedInterface.isSome
  | .parents | .pattern => false

/-- The interfaces that the setting wants extended. -/
def names : Setting → List String
  | .parents names => names
  | _ => []

/-- The setting switches an exclusion on. -/
def isOn : Setting → Bool
  | .dropMagic on | .dropOldConstructors on | .dropStatic on | .dropAbstract on | .dropInherited on
  | .dropImplemented on => on
  | .parents _ | .pattern _ => false

/-- The condition on names that the setting asks for. -/
def pattern? (lang : PatternLanguage) : Setting → Option (String → Bool)
  | .pattern text => text.bind fun text => (lang.compile text).toOption
  | _ => none

/-- The setting by itself keeps a method of a class. -/
def keeps (lang : PatternLanguage) (c : ClassInfo) (m : ClassMethod) (a : Setting) : Bool :=
  !(a.isOn && a.subject.concerns c m) && (a.pattern? lang).all (· m.name)

section

variable {lang : PatternLanguage} {c : ClassInfo} {m : ClassMethod} {a b : Setting}

lemma pattern?_of_subject_ne (h : a.subject ≠ .pattern) : a.pattern? lang = none := by
  cases a with
  | pattern text => exact absurd rfl h
  | _ => rfl

lemma keeps_of_subject_ne (h : a.subject ≠ .pattern) :
    a.keeps lang c m = !(a.isOn && a.subject.concerns c m) := by
  rw [keeps, pattern?_of_subject_ne h, Option.all_none, Bool.and_true]

lemma keeps_of_subject_eq (h : a.subject = .pattern) :
    a.keeps lang c m = (a.pattern? lang).all (· m.name) := by
  rw [keeps, h, Subject.concerns, Bool.and_false, Bool.not_false, Bool.true_and]

lemma subject_ne_of_isOn (h : a.isOn = true) : a.subject ≠ .pattern := by
  intro hsubject
  cases a with
  | pattern text => cases h
  | _ => cases hsubject

/-- What an exclusion keeps once it is on is kept by any other setting of it. -/
lemma keeps_of_isOn (hon : a.isOn = true) (hsubject : b.subject = a.subject)
    (ha : a.keeps lang c m = true) : b.keeps lang c m = true := by
  have hne := subject_ne_of_isOn hon
  rw [keeps_of_subject_ne hne, hon, Bool.true_and, Bool.not_eq_true'] at ha
  rw [keeps_of_subject_ne (hsubject ▸ hne), hsubject, ha, Bool.and_false, Bool.not_false]

end

/-! ## The last setting of a subject -/

/-- The last accepted setting about a subject. -/
def lastOf (lang : PatternLanguage) (subject : Subject) (settings : List Setting) : Option Setting :=
  (settings.filter fun a => a.isAccepted lang && a.subject = subject).getLast?

section

variable {lang : PatternLanguage} {subject : Subject} {settings before after : List Setting} {a b : Setting}

lemma subject_of_lastOf (h : lastOf lang subject settings = some a) : a.subject = subject := by
  have hmem := List.mem_of_getLast? h
  rw [List.mem_filter, Bool.and_eq_true, decide_eq_true_iff] at hmem
  exact hmem.2.2

lemma lastOf_append (subject : Subject) (before after : List Setting) :
    lastOf lang subject (before ++ after) = (lastOf lang subject after).or (lastOf lang subject before) := by
  rw [lastOf, List.filter_append, List.getLast?_append]
  rfl

lemma lastOf_cons (subject : Subject) (a : Setting) (after : List Setting) :
    lastOf lang subject (a :: after) =
      (lastOf lang subject after).or (if a.isAccepted lang && a.subject = subject then some a else none) := by
  rw [← List.singleton_append, lastOf_append]
  congr 1
  rw [lastOf, List.filter_cons]
  split <;> rfl

/-- An accepted setting is the last of its subject, until the next one. -/
lemma lastOf_concat_of_accepted (h : a.isAccepted lang = true) (settings : List Setting) :
    (lastOf lang · (settings ++ [a])) = Function.update (lastOf lang · settings) a.subject (some a) := by
  funext subject
  rw [lastOf_append, lastOf_cons, h, Bool.true_and, Function.update_apply]
  by_cases hsubject : a.subject = subject
  · simp [hsubject, lastOf]
  · simp [hsubject, Ne.symm hsubject, lastOf]

lemma lastOf_concat_of_refused (h : a.isAccepted lang = false) (settings : List Setting) :
    (lastOf lang · (settings ++ [a])) = (lastOf lang · settings) := by
  funext subject
  rw [lastOf_append, lastOf_cons, h]
  rfl

/-- Two settings of different subjects can change places. -/
lemma lastOf_swap (hne : a.subject ≠ b.subject) (before after : List Setting) :
    (lastOf lang · (before ++ b :: a :: after)) = (lastOf lang · (before ++ a :: b :: after)) := by
  funext subject
  simp only [lastOf_append, lastOf_cons, Option.or_assoc]
  congr 1
  by_cases ha : a.subject = subject
  · have hb : b.subject ≠ subject := fun hb => hne (ha.trans hb.symm)
    simp [hb]
  · simp [ha]

/-- A setting has no effect if a later one has the same subject. -/
lemma lastOf_overruled (hsubject : a.subject = b.subject) (hb : b.isAccepted lang = true)
    (before between after : List Setting) :
    (lastOf lang · (before ++ (between ++ b :: after))) =
      (lastOf lang · (before ++ a :: (between ++ b :: after))) := by
  funext subject
  simp only [lastOf_append, lastOf_cons, Option.or_assoc]
  by_cases ha : a.subject = subject
  · simp [← hsubject, ha, hb]
  · simp [ha]

end

end Setting

/-! ## The selection made by the last settings -/

namespace Selection

open Setting

/-- The selection in which each subject is as its last setting says. -/
def ofLast (lang : PatternLanguage) (last : Subject → Option Setting) : Selection where
  parents := (last .parents).elim [] names
  dropMagic := (last .magic).any isOn
  dropOldConstructors := (last .oldConstructors).any isOn
  dropStatic := (last .static).any isOn
  dropAbstract := (last .abstract).any isOn
  dropInherited := (last .inherited).any isOn
  dropImplemented := (last .implemented).any isOn
  pattern := (last .pattern).bind (pattern? lang)

section

variable {lang : PatternLanguage}

/-- Whether a setting is accepted does not depend on what it changes. -/
lemma isOk_set (lang : PatternLanguage) (s : Selection) (a : Setting) :
    (s.set lang a).isOk = a.isAccepted lang := by
  cases a with
  | pattern text =>
      cases text with
      | none => rfl
      | some text =>
          rw [set, isAccepted]
          cases lang.compile text with
          | error cause => rfl
          | ok isMatch => rfl
  | _ => rfl

lemma trySet_of_refused {a : Setting} (h : a.isAccepted lang = false) (s : Selection) :
    s.trySet lang a = s := by
  have hset := isOk_set lang s a
  rw [trySet]
  cases hnext : s.set lang a with
  | error cause => rfl
  | ok next => rw [hnext, h] at hset; cases hset

/-- One setting changes its own subject only. -/
lemma set_ofLast (last : Subject → Option Setting) {a : Setting} (h : a.isAccepted lang = true) :
    (ofLast lang last).set lang a =
      .ok (ofLast lang (Function.update last a.subject (some a))) := by
  cases a with
  | pattern text =>
      cases text with
      | none => simp [set, ofLast, subject, pattern?]
      | some text =>
          rw [isAccepted] at h
          cases hcompiled : lang.compile text with
          | error cause =>
              rw [hcompiled] at h
              cases h
          | ok isMatch =>
              rw [set, hcompiled]
              simp [ofLast, subject, pattern?, hcompiled, Except.toOption, bind, Except.bind, pure, Except.pure]
  | _ => simp [set, ofLast, subject, names, isOn]

/-- After a sequence of settings each subject is as its last accepted setting says. -/
lemma setAll_eq_ofLast (settings : List Setting) :
    ({} : Selection).setAll lang settings = ofLast lang (lastOf lang · settings) := by
  induction settings using List.reverseRecOn with
  | nil => rfl
  | append_singleton settings a ih =>
      rw [setAll, List.foldl_append, List.foldl_cons, List.foldl_nil]
      change (({} : Selection).setAll lang settings).trySet lang a = _
      rw [ih]
      cases h : a.isAccepted lang with
      | true => rw [trySet, set_ofLast _ h, lastOf_concat_of_accepted h]
      | false => rw [trySet_of_refused h, lastOf_concat_of_refused h]

end

/-! ## What is kept -/

/-- The exclusion of a subject is on. -/
def drops (s : Selection) : Subject → Bool
  | .magic => s.dropMagic
  | .oldConstructors => s.dropOldConstructors
  | .static => s.dropStatic
  | .abstract => s.dropAbstract
  | .inherited => s.dropInherited
  | .implemented => s.dropImplemented
  | .parents | .pattern => false

section

variable {lang : PatternLanguage} {c : ClassInfo} {m : ClassMethod}

/-- A cause that does not apply leaves the word to the causes after it. -/
lemma isNone_ite (applies : Bool) (cause : Omission) (others : Option Omission) :
    (if applies then some cause else others).isNone = (!applies && others.isNone) := by
  cases applies <;> rfl

/-- The causes for leaving a method out are independent: it is kept if none of them applies. -/
lemma isNone_omission? (s : Selection) (c : ClassInfo) (m : ClassMethod) :
    (s.omission? c m).isNone =
      (m.visibility == .pub && ((Subject.all.all fun subject => !(s.drops subject && subject.concerns c m)) &&
        s.pattern.all (· m.name))) := by
  rw [omission?]
  by_cases hpub : m.visibility = .pub
  · simp only [Subject.all, List.all_cons, List.all_nil, drops, Subject.concerns, Bool.and_assoc, hpub, ne_eq,
      not_true_eq_false, if_false, isNone_ite, beq_self_eq_true, Bool.and_false, Bool.not_false, Bool.true_and]
    cases s.pattern with
    | none => rfl
    | some isMatch => cases hmatch : isMatch m.name <;> simp [hmatch]
  · simp [hpub]

lemma drops_ofLast (last : Subject → Option Setting) (subject : Subject) :
    ((ofLast lang last).drops subject && subject.concerns c m) =
      ((last subject).any isOn && subject.concerns c m) := by
  cases subject with
  | parents => simp [Subject.concerns]
  | pattern => simp [Subject.concerns]
  | _ => rfl

/-- The last setting of a subject keeps a method unless its exclusion is on and about the method, or its
pattern is not found in the name. -/
lemma all_keeps {subject : Subject} {last : Option Setting} (hlast : ∀ a ∈ last, a.subject = subject) :
    last.all (keeps lang c m) =
      (!(last.any isOn && subject.concerns c m) && (last.bind (pattern? lang)).all (· m.name)) := by
  cases last with
  | none => rfl
  | some a => rw [Option.all_some, Option.any_some, Option.bind_some, keeps, hlast a rfl]

/-- A public method is kept exactly if the last setting of each subject by itself keeps it. -/
lemma isNone_omission?_ofLast {last : Subject → Option Setting}
    (hlast : ∀ subject, ∀ a ∈ last subject, a.subject = subject) :
    ((ofLast lang last).omission? c m).isNone =
      (m.visibility == .pub && Subject.all.all fun subject => (last subject).all (keeps lang c m)) := by
  have hpattern (subject : Subject) (hne : subject ≠ .pattern) : (last subject).bind (pattern? lang) = none := by
    rw [Option.bind_eq_none_iff]
    intro a ha
    exact pattern?_of_subject_ne (hlast subject a ha ▸ hne)
  rw [isNone_omission?]
  congr 1
  simp only [drops_ofLast, all_keeps (hlast _)]
  rw [Bool.eq_iff_iff, Bool.and_eq_true, List.all_eq_true, List.all_eq_true]
  constructor
  · rintro ⟨hexclusions, hmatch⟩ subject hmem
    rw [hexclusions subject hmem, Bool.true_and]
    by_cases hsubject : subject = .pattern
    · rw [hsubject]
      exact hmatch
    · rw [hpattern subject hsubject, Option.all_none]
  · intro h
    refine ⟨fun subject hmem => (Bool.and_eq_true_iff.1 (h subject hmem)).1, ?_⟩
    exact (Bool.and_eq_true_iff.1 (h .pattern (Subject.mem_all _))).2

end

/-- What a sequence of settings makes of a class. -/
lemma interfaceOf_setAll (lang : PatternLanguage) (c : ClassInfo) (name : String) (settings : List Setting) :
    (({} : Selection).setAll lang settings).interfaceOf c name =
      { name := name
        parents := (lastOf lang .parents settings).elim [] names
        methods := (c.methods.filter fun m =>
          m.visibility == .pub && Subject.all.all fun subject =>
            (lastOf lang subject settings).all (keeps lang c m)).map (·.toMethod) } := by
  have hlast (subject : Subject) (a : Setting) (ha : a ∈ lastOf lang subject settings) : a.subject = subject :=
    subject_of_lastOf ha
  rw [setAll_eq_ofLast, interfaceOf]
  simp only [isNone_omission?_ofLast hlast]
  rfl

/-- One setting by itself. -/
lemma interfaceOf_setAll_singleton {lang : PatternLanguage} (c : ClassInfo) (name : String) {a : Setting}
    (h : a.isAccepted lang = true) :
    ((({} : Selection).setAll lang [a]).interfaceOf c name).methods =
      (c.methods.filter fun m => m.visibility == .pub && a.keeps lang c m).map (·.toMethod) := by
  have hlast (subject : Subject) : lastOf lang subject [a] = if a.subject = subject then some a else none := by
    simp [lastOf, h]
  have hkeeps (m : ClassMethod) :
      (Subject.all.all fun subject => (lastOf lang subject [a]).all (keeps lang c m)) = a.keeps lang c m := by
    rw [Bool.eq_iff_iff, List.all_eq_true]
    constructor
    · intro hall
      simpa [hlast] using hall a.subject a.subject.mem_all
    · intro hkept subject _
      rw [hlast]
      split
      · exact hkept
      · rfl
  rw [interfaceOf_setAll]
  simp only [hkeeps]

/-- Of two sequences of which the first keeps fewer methods in each subject, the first makes a part of the
interface that the second makes. -/
lemma sublist_methods {lang : PatternLanguage} {c : ClassInfo} {settings others : List Setting}
    (h : ∀ m subject, (lastOf lang subject settings).all (keeps lang c m) = true →
      (lastOf lang subject others).all (keeps lang c m) = true) (name : String) :
    ((({} : Selection).setAll lang settings).interfaceOf c name).methods.Sublist
      ((({} : Selection).setAll lang others).interfaceOf c name).methods := by
  rw [interfaceOf_setAll, interfaceOf_setAll]
  refine List.Sublist.map _ (List.monotone_filter_right _ ?_)
  intro m hm
  rw [Bool.and_eq_true, List.all_eq_true] at hm ⊢
  exact ⟨hm.1, fun subject hsubject => h m subject (hm.2 subject hsubject)⟩

section

variable {lang : PatternLanguage} {c : ClassInfo} {m : ClassMethod} {before after : List Setting}
  {a b : Setting} {subject : Subject}

/-- An exclusion that is switched on, or a pattern where there was none, keeps no more than what was set about
it before. -/
lemma keeps_of_narrowing
    (ha : a.isOn = true ∨ a.subject = .pattern ∧ (({} : Selection).setAll lang before).pattern = none)
    (hb : lastOf lang a.subject before = some b) (h : a.keeps lang c m = true) : b.keeps lang c m = true := by
  have hsubject := subject_of_lastOf hb
  rcases ha with hon | ⟨hpattern, hnone⟩
  · exact keeps_of_isOn hon hsubject h
  · have hlast : (lastOf lang .pattern before).bind (pattern? lang) = none := by
      rw [setAll_eq_ofLast] at hnone
      exact hnone
    rw [← hpattern, hb, Option.bind_some] at hlast
    rw [keeps_of_subject_eq (hsubject.trans hpattern), hlast, Option.all_none]

/-- So it keeps no more in any subject, whatever is set later. -/
lemma all_keeps_of_insert
    (ha : a.isOn = true ∨ a.subject = .pattern ∧ (({} : Selection).setAll lang before).pattern = none)
    (h : (lastOf lang subject (before ++ a :: after)).all (keeps lang c m) = true) :
    (lastOf lang subject (before ++ after)).all (keeps lang c m) = true := by
  rw [lastOf_append, lastOf_cons, Option.or_assoc] at h
  rw [lastOf_append]
  cases hafter : lastOf lang subject after with
  | some b => simpa [hafter] using h
  | none =>
      rw [hafter, Option.none_or] at h
      rw [Option.none_or]
      by_cases hnew : (a.isAccepted lang && a.subject = subject) = true
      · rw [if_pos hnew, Option.some_or, Option.all_some] at h
        rw [Bool.and_eq_true, decide_eq_true_iff] at hnew
        cases hbefore : lastOf lang subject before with
        | none => rfl
        | some b => exact keeps_of_narrowing ha (hnew.2 ▸ hbefore) h
      · rwa [if_neg hnew, Option.none_or] at h

end

/-- After each setting of a session there is the interface of all settings so far, or nothing if the
setting was refused. -/
lemma getElem?_session (lang : PatternLanguage) (c : ClassInfo) (name : String) (s : Selection)
    (settings : List Setting) (k : Nat) :
    (session lang c name s settings)[k]? = settings[k]?.map fun a =>
      if a.isAccepted lang then some ((s.setAll lang (settings.take (k + 1))).interfaceOf c name)
      else none := by
  induction settings generalizing s k with
  | nil => rfl
  | cons a rest ih =>
      have haccepted := isOk_set lang s a
      rw [session]
      cases hset : s.set lang a with
      | error cause =>
          rw [hset] at haccepted
          cases k with
          | zero => simp [← haccepted, Except.isOk, Except.toBool]
          | succ k => simp [ih, setAll, trySet, hset]
      | ok next =>
          rw [hset] at haccepted
          cases k with
          | zero => simp [← haccepted, setAll, trySet, hset, Except.isOk, Except.toBool]
          | succ k => simp [ih, setAll, trySet, hset]

end Selection

/-! ## Composition -/

open Setting

/-- A sequence of settings makes of a class the public methods that the last accepted setting of each subject
by itself keeps, in their order, and extends the names that were set last; a session gives that after each
setting.  So settings of different subjects commute, a setting has no effect if its subject is set again
later, and an exclusion that is switched on or a pattern where there was none only takes methods away.  The
language of patterns may be any. -/
theorem settings_compose (lang : PatternLanguage) (c : ClassInfo) (name : String)
    (settings : List Setting) :
    (({} : Selection).setAll lang settings).interfaceOf c name =
      { name := name
        parents := (lastOf lang .parents settings).elim [] names
        methods := (c.methods.filter fun m => m.visibility == .pub &&
          Subject.all.all fun subject =>
            (lastOf lang subject settings).all (keeps lang c m)).map (·.toMethod) } ∧
    (∀ k, (Selection.session lang c name {} settings)[k]? = settings[k]?.map fun a =>
      if a.isAccepted lang then
        some ((({} : Selection).setAll lang (settings.take (k + 1))).interfaceOf c name)
      else none) ∧
    (∀ a, a.isAccepted lang = true → ((({} : Selection).setAll lang [a]).interfaceOf c name).methods =
      (c.methods.filter fun m => m.visibility == .pub && a.keeps lang c m).map (·.toMethod)) ∧
    (∀ before a b after, settings = before ++ a :: b :: after → a.subject ≠ b.subject →
      ({} : Selection).setAll lang (before ++ b :: a :: after) = ({} : Selection).setAll lang settings) ∧
    (∀ before a between b after, settings = before ++ a :: (between ++ b :: after) →
      a.subject = b.subject → b.isAccepted lang = true →
      ({} : Selection).setAll lang (before ++ (between ++ b :: after)) = ({} : Selection).setAll lang settings) ∧
    ∀ before a after, settings = before ++ a :: after →
      (a.isOn = true ∨ a.subject = .pattern ∧ (({} : Selection).setAll lang before).pattern = none) →
      ((({} : Selection).setAll lang settings).interfaceOf c name).methods.Sublist
        ((({} : Selection).setAll lang (before ++ after)).interfaceOf c name).methods := by
  refine ⟨Selection.interfaceOf_setAll lang c name settings, Selection.getElem?_session lang c name {} settings,
    fun a ha => Selection.interfaceOf_setAll_singleton c name ha, ?_, ?_, ?_⟩
  · rintro before a b after rfl hne
    rw [Selection.setAll_eq_ofLast, Selection.setAll_eq_ofLast, lastOf_swap hne]
  · rintro before a between b after rfl hsubject hb
    rw [Selection.setAll_eq_ofLast, Selection.setAll_eq_ofLast, lastOf_overruled hsubject hb]
  · rintro before a after rfl ha
    exact Selection.sublist_methods (fun m subject h => Selection.all_keeps_of_insert ha h) name

/-- A class with a method for most causes to leave one out. -/
def cart : ClassInfo where
  name := "App\\Cart"
  methods :=
    [{ name := "__get", declaringClass := "App\\Cart" },
     { name := "getItems", declaringClass := "app\\cart", static := true },
     { name := "getLog", declaringClass := "App\\Cart", visibility := .priv },
     { name := "getTotal", declaringClass := "App\\Base" },
     { name := "add", declaringClass := "App\\Cart" }]

/-- Settings with a pattern that is none, and with subjects that are set twice. -/
def cartSettings : List Setting :=
  [.dropStatic true, .pattern (some "("), .parents ["A"], .dropMagic true, .dropStatic false,
    .pattern (some "^_*get"), .parents ["B", "C"], .dropInherited true]

/-- With regular expressions for patterns, the second setting of the session is refused.  The first one can
change places with it or be left out, and the pattern and the last exclusion take methods away. -/
theorem settings_compose_cart :
    ((({} : Selection).setAll Pattern.language cartSettings).interfaceOf cart "I").methods.map (·.name) =
      ["getItems"] ∧
    ((({} : Selection).setAll Pattern.language cartSettings).interfaceOf cart "I").parents = ["B", "C"] ∧
    (Selection.session Pattern.language cart "I" {} cartSettings)[1]? = some none ∧
    ({} : Selection).setAll Pattern.language (.pattern (some "(") :: .dropStatic true :: cartSettings.drop 2) =
      ({} : Selection).setAll Pattern.language cartSettings ∧
    ({} : Selection).setAll Pattern.language (cartSettings.drop 1) =
      ({} : Selection).setAll Pattern.language cartSettings ∧
    ((({} : Selection).setAll Pattern.language cartSettings).interfaceOf cart "I").methods.Sublist
      ((({} : Selection).setAll Pattern.language (cartSettings.take 7)).interfaceOf cart "I").methods ∧
    ((({} : Selection).setAll Pattern.language (cartSettings.take 7)).interfaceOf cart "I").methods.map
      (·.name) = ["getItems", "getTotal"] ∧
    ((({} : Selection).setAll Pattern.language cartSettings).interfaceOf cart "I").methods.Sublist
      ((({} : Selection).setAll Pattern.language (cartSettings.take 5 ++ cartSettings.drop 6)).interfaceOf
        cart "I").methods ∧
    ((({} : Selection).setAll Pattern.language (cartSettings.take 5 ++ cartSettings.drop 6)).interfaceOf
      cart "I").methods.map (·.name) = ["getItems", "add"] := by
  obtain ⟨hwhole, hsession, -, hswap, hoverruled, htaken⟩ :=
    settings_compose Pattern.language cart "I" cartSettings
  have hrefused : (Setting.pattern (some "(")).isAccepted Pattern.language = false := by decide +kernel
  have hnone : (({} : Selection).setAll Pattern.language (cartSettings.take 5)).pattern = none :=
    Option.isNone_iff_eq_none.1 (by decide +kernel)
  refine ⟨by decide +kernel, by rw [hwhole]; decide +kernel, ?_, hswap [] _ _ _ rfl (by decide),
    hoverruled [] _ [.pattern (some "("), .parents ["A"], .dropMagic true] _ _ rfl rfl rfl,
    htaken (cartSettings.take 7) _ [] rfl (Or.inl rfl), by decide +kernel,
    htaken (cartSettings.take 5) _ (cartSettings.drop 6) rfl (Or.inr ⟨rfl, hnone⟩), by decide +kernel⟩
  rw [hsession]
  show some (if (Setting.pattern (some "(")).isAccepted Pattern.language then _ else none) = some none
  rw [hrefused]
  rfl

end PhpInterface
