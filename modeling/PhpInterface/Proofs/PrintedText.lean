import Mathlib.Data.List.Infix
import PhpInterface.Proofs.Delivery
import PhpInterface.Proofs.PrintedTypes
import PhpInterface.Proofs.Tokens

/-!
# The text of a printed interface

The printer puts strings together and can fail at every type.  Here is the text it arrives at, as one list of
characters: `NamedType.text`, `Parameter.text`, `Method.lineText` and so on up to `programText`, in the shape
in which a reader takes them off again, token by token.  `Interface.print_eq` says that a *plain* interface is
printed, and as this text.

An interface is plain (`Interface.isPlain`) if nothing in it is lost or changed by printing: its names are
identifiers, its types can be told from one another by their words, no parameter needs a default, and a
comment ends where the grammar ends it.  Only the names of classes have to avoid keywords, and only those
of `nameKeywords`; a method or a parameter may have any identifier for its name.
-/

namespace PhpInterface

open Source

/-! ## Plain interfaces -/

/-- A letter, a digit or an underscore. -/
def isNameChar (c : Char) : Bool :=
  c == '_' || c.isAlpha || c.isDigit

/-- An identifier of ASCII characters. -/
def isIdentifier : List Char → Bool
  | [] => false
  | c :: rest => !c.isDigit && (c :: rest).all isNameChar

/-- The keywords that the grammar takes for something else where a printed file has the name of a class. -/
def nameKeywords : List String :=
  ["const", "function", "parent", "private", "protected", "public", "self", "static"]

/-- An identifier that is no such keyword, in whatever case. -/
def isPlainName (w : List Char) : Bool :=
  isIdentifier w && !nameKeywords.contains (smallForm w)

/-- All segments of a name are of one kind. -/
def AllSegments (kind : List Char → Bool) (path : List String) : Prop :=
  ∀ segment ∈ path, kind segment.toList = true

/-- The builtin types that can be written in a signature by their names. -/
def plainBuiltins : List String :=
  ["array", "bool", "callable", "float", "int", "iterable", "object", "string"]

/-- The full name of a class whose short name is not taken for a type of the language. -/
def isPlainClass (name : String) : Bool :=
  (Text.pieces separator name.toList).all isPlainName &&
    !languageTypes.contains (smallForm (Text.lastPiece separator name.toList))

/-- A builtin type, the class around it or its parent, or a class by its full name. -/
def NamedType.isPlain (t : NamedType) : Bool :=
  if t.builtin then plainBuiltins.contains t.name
  else if t.isRelative then t.name == "self" || t.name == "parent"
  else isPlainClass t.name

/-- A parameter that a call cannot leave out, unless it takes all remaining arguments. -/
def Parameter.isPlain (p : Parameter) : Bool :=
  isIdentifier p.name.toList && p.type.all NamedType.isPlain && (!p.optional || p.variadic)

/-- A documentation comment: it ends at the first place where it can. -/
def isPlainComment (comment : String) : Bool :=
  isDocumentation comment && decide (['*', '/'] <:+ comment.toList) &&
    decide (¬ ['*', '/'] <:+: comment.toList.dropLast) && !comment.toList.contains '\x00'

def Method.isPlain (m : Method) : Bool :=
  isIdentifier m.name.toList && m.parameters.all Parameter.isPlain && m.result.all NamedType.isPlain &&
    m.doc.all isPlainComment

def Interface.isPlain (i : Interface) : Bool :=
  i.parents.isEmpty && (Text.pieces separator (QualifiedName.dropRoot i.name.toList)).all isIdentifier &&
    i.methods.all Method.isPlain

/-! ## The texts of its parts -/

/-- The word of a printed type. -/
def NamedType.word (t : NamedType) : List Char :=
  if t.namesClass then Text.lastPiece separator t.name.toList else t.name.toList

/-- A printed type: a question mark stands before the word if `null` is accepted. -/
def NamedType.text (t : NamedType) : List Char :=
  (if t.nullable then ['?'] else []) ++ t.word

/-- The marks before the name of a parameter, and the name. -/
def Parameter.variableText (p : Parameter) : List Char :=
  (if p.byReference then ['&'] else []) ++ ((if p.variadic then ['.', '.', '.'] else []) ++
    '$' :: p.name.toList)

/-- A printed parameter. -/
def Parameter.text (p : Parameter) : List Char :=
  match p.type with
  | some t => t.text ++ ' ' :: p.variableText
  | none => p.variableText

/-- Printed parameters with commas between them. -/
def parametersText : List Parameter → List Char
  | [] => []
  | p :: rest => p.text ++ rest.flatMap fun q => ',' :: ' ' :: q.text

/-- The printed result type of a method, with the colon before it. -/
def Method.resultText (m : Method) : List Char :=
  match m.result with
  | some t => ':' :: ' ' :: t.text
  | none => []

/-- The printed signature of a method. -/
def Method.signatureText (m : Method) : List Char :=
  m.name.toList ++ '(' :: (parametersText m.parameters ++ ')' :: m.resultText)

/-- The line of a printed method, from its first word on. -/
def Method.lineText (m : Method) : List Char :=
  ['p', 'u', 'b', 'l', 'i', 'c'] ++ ' ' ::
    ((if m.static then ['s', 't', 'a', 't', 'i', 'c', ' '] else []) ++
      (['f', 'u', 'n', 'c', 't', 'i', 'o', 'n'] ++ ' ' :: (m.signatureText ++ [';'])))

/-- The indentation of a printed method. -/
def indentText : List Char :=
  [' ', ' ', ' ', ' ']

/-- The documentation of a printed method, up to the first word of the method. -/
def Method.docText (m : Method) : List Char :=
  match m.doc with
  | some comment => comment.toList ++ '\n' :: indentText
  | none => []

/-- The printed methods, with an empty line after each. -/
def methodsText (methods : List Method) : List Char :=
  methods.flatMap fun m => indentText ++ (m.docText ++ (m.lineText ++ ['\n', '\n']))

/-- The printed namespace, unless it is the global one. -/
def spaceText (context : QualifiedName) : List Char :=
  if context.isGlobal then []
  else ['n', 'a', 'm', 'e', 's', 'p', 'a', 'c', 'e'] ++ ' ' :: (context.pathText.toList ++ [';', '\n', '\n'])

/-- A printed import. -/
def importText (name : QualifiedName) : List Char :=
  ['u', 's', 'e'] ++ ' ' :: (name.text.toList ++ [';', '\n'])

/-- The printed methods in braces. -/
def bodyText (methods : List Method) : List Char :=
  '\x7b' :: '\n' :: (methodsText methods ++ ['\x7d'])

/-- The printed declaration of an interface that extends no other. -/
def declarationText (short : String) (methods : List Method) : List Char :=
  ['i', 'n', 't', 'e', 'r', 'f', 'a', 'c', 'e'] ++ ' ' :: (short.toList ++ '\n' :: bodyText methods)

/-- What stands after the opening tag and the empty line. -/
def programText (context : QualifiedName) (imports : List QualifiedName) (methods : List Method) :
    List Char :=
  spaceText context ++ (imports.flatMap importText ++ ((if imports.isEmpty then [] else ['\n']) ++
    declarationText context.short methods))

/-! ## Identifiers -/

section

variable {c : Char} {w : List Char}

lemma isNameChar_iff :
    isNameChar c = true ↔ c.toNat = 95 ∨ (65 ≤ c.toNat ∧ c.toNat ≤ 90) ∨
      (97 ≤ c.toNat ∧ c.toNat ≤ 122) ∨ (48 ≤ c.toNat ∧ c.toNat ≤ 57) := by
  have hline : '_'.toNat = 95 := rfl
  rw [isNameChar, Bool.or_eq_true, Bool.or_eq_true, beq_iff_eq, eq_iff_toNat, hline, isAlpha_iff,
    Char.isDigit_iff_toNat, or_assoc, or_assoc]
  exact Iff.rfl

lemma isBlank_of_isNameChar (h : isNameChar c = true) : Text.isBlank c = false := by
  by_contra hblank
  rw [isNameChar_iff] at h
  simp only [Bool.not_eq_false, Text.isBlank, Text.blankRanges, List.any_cons, List.any_nil, Bool.or_eq_true,
    Bool.and_eq_true, decide_eq_true_eq, Bool.false_eq_true, or_false] at hblank
  omega

lemma isWordPart_of_isNameChar (h : isNameChar c = true) : isWordPart c = true := by
  rw [isNameChar_iff] at h
  rw [isWordPart_iff, isWordStart_iff]
  omega

lemma isIdentifier_cases (h : isIdentifier w = true) :
    ∃ c rest, w = c :: rest ∧ c.isDigit = false ∧ isNameChar c = true ∧ ∀ d ∈ rest, isNameChar d = true := by
  cases w with
  | nil => cases h
  | cons c rest =>
      rw [isIdentifier, Bool.and_eq_true, Bool.not_eq_true', List.all_cons, Bool.and_eq_true,
        List.all_eq_true] at h
      exact ⟨c, rest, rfl, h.1, h.2.1, h.2.2⟩

lemma isWord_of_isIdentifier (h : isIdentifier w = true) : isWord w = true := by
  obtain ⟨c, rest, rfl, hdigit, hc, hrest⟩ := isIdentifier_cases h
  have hstart : isWordStart c = true := by
    have hpart := isWordPart_of_isNameChar hc
    rwa [isWordPart, hdigit, Bool.or_false] at hpart
  rw [isWord, hstart, Bool.true_and, List.all_eq_true]
  exact fun d hd => isWordPart_of_isNameChar (hrest d hd)

lemma isSegment_of_isIdentifier (h : isIdentifier w = true) : isSegment w = true := by
  have hword := isWord_of_isIdentifier h
  cases w with
  | nil => cases h
  | cons c rest =>
      rw [isWord, Bool.and_eq_true, List.all_eq_true] at hword
      rw [isSegment, isIdentifierStart_of_isWordStart hword.1, Bool.true_and, List.all_eq_true]
      exact fun d hd => isIdentifierPart_of_isWordPart (hword.2 d hd)

lemma isNameChar_of_mem (h : isIdentifier w = true) : ∀ c ∈ w, isNameChar c = true := by
  obtain ⟨c, rest, rfl, -, hc, hrest⟩ := isIdentifier_cases h
  exact List.forall_mem_cons.2 ⟨hc, hrest⟩

lemma isIdentifier_of_isPlainName (h : isPlainName w = true) : isIdentifier w = true := by
  rw [isPlainName, Bool.and_eq_true] at h
  exact h.1

lemma isWord_of_isPlainName (h : isPlainName w = true) : isWord w = true :=
  isWord_of_isIdentifier (isIdentifier_of_isPlainName h)

lemma contains_of_isPlainName {ks : List String} (h : isPlainName w = true)
    (hks : ∀ k ∈ ks, nameKeywords.contains k = true) : ks.contains (smallForm w) = false := by
  rw [isPlainName, Bool.and_eq_true, Bool.not_eq_true'] at h
  by_contra hmem
  rw [Bool.not_eq_false, List.contains_iff_mem] at hmem
  rw [hks _ hmem] at h
  cases h.2

lemma isRelativeWord_of_isPlainName (h : isPlainName w = true) : isRelativeWord w = false := by
  have hkeywords : ["self", "parent", "static"].contains (smallForm w) = false :=
    contains_of_isPlainName h (by decide)
  by_contra hrelative
  rw [Bool.not_eq_false, isRelativeWord, Bool.or_eq_true, Bool.or_eq_true, beq_iff_eq, beq_iff_eq,
    beq_iff_eq] at hrelative
  rcases hrelative with (hw | hw) | hw
  · rw [smallForm, hw] at hkeywords
    exact absurd hkeywords (by decide)
  · rw [smallForm, hw] at hkeywords
    exact absurd hkeywords (by decide)
  · rw [hw] at hkeywords
    exact absurd hkeywords (by decide)

/-- A name that is made of identifiers can be read, and its segments are those. -/
lemma exists_parse?_of_pieces {kind : List Char → Bool} (hkind : ∀ w, kind w = true → isIdentifier w = true)
    (name : String) (h : (Text.pieces separator (QualifiedName.dropRoot name.toList)).all kind = true) :
    ∃ q, QualifiedName.parse? name = some q ∧
      q.short.toList = Text.lastPiece separator (QualifiedName.dropRoot name.toList) ∧
      AllSegments kind (q.path ++ [q.short]) := by
  rw [List.all_eq_true] at h
  have hsegments : (Text.pieces separator (QualifiedName.dropRoot name.toList)).all isSegment = true := by
    rw [List.all_eq_true]
    exact fun piece hpiece => isSegment_of_isIdentifier (hkind piece (h piece hpiece))
  have hparse : ∃ q, QualifiedName.parse? name = some q := by
    rw [QualifiedName.parse?]
    exact ⟨_, if_pos hsegments⟩
  obtain ⟨q, hq⟩ := hparse
  have hpieces := (QualifiedName.parse?_eq_some_iff.1 hq).1
  refine ⟨q, hq, ?_, ?_⟩
  · rw [Text.lastPiece, ← hpieces]
    simp
  · intro segment hsegment
    exact h _ (hpieces ▸ List.mem_map_of_mem hsegment)

lemma dropRoot_of_plain (h : (Text.pieces separator w).all isPlainName = true) :
    QualifiedName.dropRoot w = w := by
  cases w with
  | nil => rfl
  | cons c rest =>
      rw [QualifiedName.dropRoot, if_neg]
      rintro rfl
      rw [Text.pieces, if_pos rfl, List.all_cons] at h
      cases h

end

/-! ## Printing the parts -/

namespace NamedType

variable {t : NamedType}

/-- A plain type is one of the ten words of the language, or it is a class that has a name. -/
lemma isPlain_cases (h : t.isPlain = true) :
    t.namesClass = false ∧ (t.builtin = true ∧ t.name ∈ plainBuiltins ∨
      t.builtin = false ∧ t.name ∈ ["self", "parent"]) ∨
    t.namesClass = true ∧ isPlainClass t.name = true := by
  rw [isPlain] at h
  rw [namesClass]
  split at h
  · next hbuiltin =>
    rw [hbuiltin]
    exact Or.inl ⟨rfl, Or.inl ⟨rfl, List.contains_iff_mem.1 h⟩⟩
  · next hbuiltin =>
    rw [Bool.not_eq_true] at hbuiltin
    rw [hbuiltin]
    split at h
    · next hrelative =>
      rw [hrelative]
      exact Or.inl ⟨rfl, Or.inr ⟨rfl, by simpa using h⟩⟩
    · next hrelative =>
      rw [Bool.not_eq_true] at hrelative
      rw [hrelative]
      exact Or.inr ⟨rfl, h⟩

/-- The name of a class that a plain type mentions, with its short name as the word to be printed. -/
lemma exists_qualified (h : isPlainClass t.name = true) (hclass : t.namesClass = true) :
    ∃ q, QualifiedName.parse? t.name = some q ∧ q.text = t.name ∧ q.short.toList = t.word ∧
      AllSegments isPlainName (q.path ++ [q.short]) := by
  rw [isPlainClass, Bool.and_eq_true] at h
  have hroot := dropRoot_of_plain h.1
  obtain ⟨q, hq, hshort, hsegments⟩ := exists_parse?_of_pieces (fun w => isIdentifier_of_isPlainName) t.name
    (by rw [hroot, h.1])
  refine ⟨q, hq, ?_, ?_, hsegments⟩
  · rw [← String.toList_inj, QualifiedName.toList_text_of_parse? hq, hroot]
  · rw [hshort, hroot, word, if_pos hclass]

/-- A printed type is its text. -/
lemma print_eq (h : t.isPlain = true) : t.print = .ok (String.ofList t.text) := by
  have htoken : t.token = .ok (String.ofList t.word) := by
    rcases isPlain_cases h with ⟨hclass, -⟩ | ⟨hclass, hplain⟩
    · rw [token, if_neg (by rw [hclass]; exact Bool.false_ne_true), word,
        if_neg (by rw [hclass]; exact Bool.false_ne_true), String.ofList_toList]
      rfl
    · obtain ⟨q, hq, -, hshort, -⟩ := exists_qualified hplain hclass
      rw [token, if_pos hclass, qualified_eq_ok_iff.2 hq, ← hshort, String.ofList_toList]
      rfl
  rw [print, htoken, text]
  cases t.nullable <;> simp [bind, Except.bind, pure, Except.pure]

/-- The word of a plain type is an identifier that is neither a visibility nor the word `never`. -/
lemma isIdentifier_word (h : t.isPlain = true) :
    isIdentifier t.word = true ∧ visibilityWords.contains (smallForm t.word) = false ∧
      (String.ofList t.word == "never") = false := by
  rcases isPlain_cases h with ⟨hclass, hname⟩ | ⟨hclass, hplain⟩
  · have hwords : ∀ name ∈ plainBuiltins ++ ["self", "parent"], isIdentifier name.toList = true ∧
        visibilityWords.contains (smallForm name.toList) = false ∧
        (String.ofList name.toList == "never") = false := by
      decide
    rw [word, if_neg (by rw [hclass]; exact Bool.false_ne_true)]
    refine hwords t.name (List.mem_append.2 ?_)
    exact hname.imp And.right And.right
  · obtain ⟨q, -, -, hshort, hsegments⟩ := exists_qualified hplain hclass
    have hname := hsegments q.short (by simp)
    rw [hshort] at hname
    rw [isPlainClass, Bool.and_eq_true, Bool.not_eq_true'] at hplain
    refine ⟨isIdentifier_of_isPlainName hname, contains_of_isPlainName hname (by decide), ?_⟩
    · rw [beq_eq_false_iff_ne]
      intro hnever
      have hsmall : smallForm t.word = "never" := by
        rw [smallForm, hnever]
        decide
      rw [word, if_pos hclass] at hsmall
      rw [hsmall] at hplain
      exact absurd hplain.2 (by decide)

/-- In a scope where its word means the class, a printed type is read as the type. -/
lemma ofName_word {scope : Scope} (h : t.isPlain = true)
    (hmeans : t.namesClass = true → scope.resolve (String.ofList t.word) = t.name) :
    NamedType.ofName scope (String.ofList t.word) = { t with nullable := false } := by
  rcases isPlain_cases h with ⟨hclass, hname⟩ | ⟨hclass, hplain⟩
  · have hword : String.ofList t.word = t.name := by
      rw [word, if_neg (by rw [hclass]; exact Bool.false_ne_true), String.ofList_toList]
    rw [hword]
    rcases hname with ⟨hbuiltin, hname⟩ | ⟨hbuiltin, hname⟩
    · have hall : ∀ name ∈ plainBuiltins,
          languageTypes.contains (Text.lower name) = true ∧ Text.lower name = name := by
        decide
      obtain ⟨hlanguage, hsmall⟩ := hall t.name hname
      rw [ofName, if_pos hlanguage, hsmall, hbuiltin]
    · have hall : ∀ name ∈ ["self", "parent"], languageTypes.contains (Text.lower name) = false ∧
          (Text.lower name == "self" || Text.lower name == "parent") = true ∧ Text.lower name = name := by
        decide
      obtain ⟨hlanguage, hrelative, hsmall⟩ := hall t.name hname
      rw [ofName, if_neg (by rw [hlanguage]; exact Bool.false_ne_true), if_pos hrelative, hsmall, hbuiltin]
  · obtain ⟨q, -, -, hshort, hsegments⟩ := exists_qualified hplain hclass
    have hkeyword := hsegments q.short (by simp)
    rw [hshort, isPlainName, Bool.and_eq_true, Bool.not_eq_true'] at hkeyword
    have hlanguage : languageTypes.contains (smallForm t.word) = false := by
      rw [isPlainClass, Bool.and_eq_true, Bool.not_eq_true'] at hplain
      rw [word, if_pos hclass]
      exact hplain.2
    have hrelative : (smallForm t.word == "self" || smallForm t.word == "parent") = false := by
      rw [Bool.or_eq_false_iff, beq_eq_false_iff_ne, beq_eq_false_iff_ne]
      constructor
      all_goals
        intro hsmall
        rw [hsmall] at hkeyword
        exact absurd hkeyword.2 (by decide)
    have hbuiltin : t.builtin = false := by
      rw [namesClass, Bool.and_eq_true, Bool.not_eq_true'] at hclass
      exact hclass.1
    rw [smallForm] at hlanguage hrelative
    rw [ofName, hlanguage, hrelative, hmeans hclass, hbuiltin]
    rfl

end NamedType

namespace Text

variable {s : List Char}

/-- Nothing is trimmed off a text with no blank at its ends. -/
lemma trimBlank_eq_self (hfirst : ∀ c ∈ s.head?, isBlank c = false)
    (hlast : ∀ c ∈ s.getLast?, isBlank c = false) : trimBlank s = s := by
  have hdrop : ∀ l : List Char, (∀ c ∈ l.head?, isBlank c = false) → l.dropWhile isBlank = l := by
    intro l hl
    cases l with
    | nil => rfl
    | cons c l => exact List.dropWhile_cons_of_neg (by rw [hl c rfl]; exact Bool.false_ne_true)
  rw [trimBlank, hdrop s hfirst, hdrop s.reverse (by rwa [List.head?_reverse]), List.reverse_reverse]

lemma trimBlank_cons_space (s : List Char) : trimBlank (' ' :: s) = trimBlank s := rfl

end Text

namespace Parameter

variable {p : Parameter}

lemma isPlain_iff :
    p.isPlain = true ↔ isIdentifier p.name.toList = true ∧ (∀ t ∈ p.type, t.isPlain = true) ∧
      (p.optional && !p.variadic) = false := by
  rw [isPlain, Bool.and_eq_true, Bool.and_eq_true, Option.all_eq_true, and_assoc]
  cases p.optional <;> cases p.variadic <;> simp

/-- A printed parameter ends with its name. -/
lemma exists_text_eq (p : Parameter) : ∃ front, p.text = front ++ '$' :: p.name.toList := by
  rw [text, variableText]
  cases p.type with
  | none => exact ⟨_, (List.append_assoc _ _ _).symm⟩
  | some t =>
      refine ⟨t.text ++ ' ' :: ((if p.byReference then ['&'] else []) ++
        if p.variadic then ['.', '.', '.'] else []), ?_⟩
      simp

/-- A printed parameter starts with a question mark, with a letter, or with one of the marks before its
name. -/
lemma head?_text (h : p.isPlain = true) :
    ∀ c ∈ p.text.head?, c = '?' ∨ isNameChar c = true ∨ c = '&' ∨ c = '.' ∨ c = '$' := by
  intro c hc
  rw [text] at hc
  split at hc
  · next t htype =>
    obtain ⟨d, rest, hword, -, hd, -⟩ :=
      isIdentifier_cases (NamedType.isIdentifier_word ((isPlain_iff.1 h).2.1 t htype)).1
    rw [NamedType.text, hword] at hc
    cases hnull : t.nullable with
    | true =>
        rw [hnull] at hc
        cases hc
        exact Or.inl rfl
    | false =>
        rw [hnull] at hc
        cases hc
        exact Or.inr (Or.inl hd)
  · rw [variableText] at hc
    cases hreference : p.byReference <;> cases hvariadic : p.variadic <;>
      simp [hreference, hvariadic] at hc <;> simp [← hc]

/-- A printed parameter is its text. -/
lemma print_eq (h : p.isPlain = true) : p.print = .ok (String.ofList p.text) := by
  obtain ⟨hname, htype, hoptional⟩ := isPlain_iff.1 h
  have hdefault : p.printDefault = "" := by
    rw [printDefault, hoptional]
    rfl
  have htrim : Text.trimBlank p.text = p.text := by
    refine Text.trimBlank_eq_self (fun c hc => ?_) fun c hc => ?_
    · rcases head?_text h c hc with rfl | hc | rfl | rfl | rfl
      · rfl
      · exact isBlank_of_isNameChar hc
      · rfl
      · rfl
      · rfl
    · obtain ⟨front, hfront⟩ := exists_text_eq p
      have hnameChars := isNameChar_of_mem hname
      obtain ⟨d, rest, hcons, -⟩ := isIdentifier_cases hname
      rw [hfront, hcons, List.getLast?_append_of_ne_nil _ (List.cons_ne_nil _ _),
        List.getLast?_cons_cons, ← hcons] at hc
      exact isBlank_of_isNameChar (hnameChars c (List.mem_of_getLast? hc))
  have hline : ∀ type : String, (type ++ " " ++ (if p.byReference then "&" else "") ++
      (if p.variadic then "..." else "") ++ "$" ++ p.name ++ p.printDefault).toList =
      type.toList ++ ' ' :: p.variableText := by
    intro type
    rw [hdefault, variableText]
    cases p.byReference <;> cases p.variadic <;> simp
  rw [print]
  cases hcase : p.type with
  | none =>
      have htext : p.text = p.variableText := by rw [text, hcase]
      refine congrArg Except.ok ?_
      rw [Text.trim, hline, String.toList_empty, List.nil_append, Text.trimBlank_cons_space, ← htext, htrim]
  | some t =>
      have htext : p.text = t.text ++ ' ' :: p.variableText := by rw [text, hcase]
      dsimp only
      rw [NamedType.print_eq (htype t hcase)]
      refine congrArg Except.ok ?_
      rw [Text.trim, hline, String.toList_ofList, ← htext, htrim]

end Parameter

lemma toList_joinWith_map (l : List Parameter) :
    (Text.joinWith ", " (l.map fun p => String.ofList p.text)).toList = parametersText l := by
  cases l with
  | nil => rfl
  | cons p rest =>
      rw [List.map_cons, parametersText]
      induction rest generalizing p with
      | nil => simp [Text.joinWith]
      | cons q rest ih =>
          rw [List.map_cons, Text.joinWith, String.toList_append, String.toList_append, ih q,
            String.toList_ofList, List.flatMap_cons]
          · simp
          · simp

namespace Method

variable {m : Method}

lemma isPlain_iff :
    m.isPlain = true ↔ isIdentifier m.name.toList = true ∧ (∀ p ∈ m.parameters, p.isPlain = true) ∧
      (∀ t ∈ m.result, t.isPlain = true) ∧ ∀ comment ∈ m.doc, isPlainComment comment = true := by
  rw [isPlain, Bool.and_eq_true, Bool.and_eq_true, Bool.and_eq_true, Option.all_eq_true, Option.all_eq_true,
    List.all_eq_true, and_assoc, and_assoc]
  exact Iff.rfl

/-- A printed method is its text, on lines of its own. -/
lemma print_eq (h : m.isPlain = true) :
    m.print = .ok (String.ofList (indentText ++ (m.docText ++ (m.lineText ++ ['\n'])))) := by
  obtain ⟨-, hparameters, hresult, -⟩ := isPlain_iff.1 h
  have hprinted := mapM_eq_ok_map fun p hp => Parameter.print_eq (hparameters p hp)
  have hline : ∀ result : String, result.toList = m.resultText →
      ((match m.doc with
        | some comment => memberIndent ++ comment ++ "\n"
        | none => "") ++ memberIndent ++ "public " ++ (if m.static then "static " else "") ++
        "function " ++ m.name ++ "(" ++
        Text.joinWith ", " (m.parameters.map fun p => String.ofList p.text) ++ ")" ++ result ++ ";\n") =
        String.ofList (indentText ++ (m.docText ++ (m.lineText ++ ['\n']))) := by
    intro result hresult
    rw [← String.toList_inj, String.toList_ofList, lineText, signatureText, docText]
    cases m.doc <;> cases m.static <;> simp [memberIndent, indentText, toList_joinWith_map, hresult]
  rw [print, hprinted]
  cases hcase : m.result with
  | none => exact congrArg Except.ok (hline "" (by rw [resultText, hcase]; rfl))
  | some t =>
      dsimp only [ok_bind]
      rw [NamedType.print_eq (hresult t hcase)]
      exact congrArg Except.ok (hline _ (by rw [resultText, hcase]; simp))

end Method

/-! ## Printing the whole -/

lemma draftBody_eq {methods : List Method} (h : ∀ m ∈ methods, m.isPlain = true) :
    (Interface.draftBody methods).failure = none ∧
      (Interface.draftBody methods).text.toList = methodsText methods ++ ['\x7d'] := by
  induction methods with
  | nil => exact ⟨rfl, rfl⟩
  | cons m rest ih =>
      obtain ⟨hfailure, htext⟩ := ih fun n hn => h n (List.mem_cons_of_mem _ hn)
      rw [Interface.draftBody, Method.print_eq (h m List.mem_cons_self)]
      refine ⟨hfailure, ?_⟩
      dsimp only
      rw [Draft.text_after, Draft.text_after, String.toList_append, String.toList_append, htext,
        methodsText, methodsText, List.flatMap_cons]
      simp

lemma toList_foldr_append (l : List String) : (l.foldr (· ++ ·) "").toList = l.flatMap String.toList := by
  induction l with
  | nil => rfl
  | cons piece rest ih => rw [List.foldr_cons, String.toList_append, ih, List.flatMap_cons]

lemma Interface.isPlain_iff {i : Interface} :
    i.isPlain = true ↔ i.parents = [] ∧
      (Text.pieces separator (QualifiedName.dropRoot i.name.toList)).all isIdentifier = true ∧
      ∀ m ∈ i.methods, m.isPlain = true := by
  rw [Interface.isPlain, Bool.and_eq_true, Bool.and_eq_true, List.isEmpty_iff, and_assoc,
    List.all_eq_true (l := i.methods)]

/-- A plain interface is printed, and this is its text. -/
lemma Interface.print_eq {i : Interface} {context : QualifiedName} {imports : List QualifiedName}
    (h : i.isPlain = true) (hcontext : contextOf i.name = .ok context)
    (himports : importsOf context i.methods = .ok imports) :
    ∃ text, i.print = .ok text ∧
      text.toList = ['<', '?', 'p', 'h', 'p', '\n', '\n'] ++ programText context imports i.methods := by
  obtain ⟨hparents, -, hmethods⟩ := Interface.isPlain_iff.1 h
  have htext := (draftBody_eq hmethods).2
  refine ⟨i.draft.text, ?_, ?_⟩
  · rw [Interface.print, Draft.toText_eq, Interface.failure_draft_of_contextOf hcontext, himports]
    rfl
  · have huses : (fun name : QualifiedName => ("use " ++ name.text ++ ";\n").toList) = importText := by
      funext name
      simp [importText]
    rw [Interface.draft, hcontext]
    dsimp only
    rw [himports]
    dsimp only
    simp only [Draft.text_after, Draft.text_afterAll, String.toList_append, toList_foldr_append, htext,
      Interface.headLine, hparents, programText, spaceText, declarationText, bodyText, List.flatMap_map, ← huses]
    cases context.isGlobal <;> cases imports.isEmpty <;> simp

/-! ## Characters that it does not have

A source file has no NUL.  A printed one has none unless a comment brings it in. -/

section

variable {w : List Char}

lemma nul_not_mem_of_isIdentifier (h : isIdentifier w = true) : '\x00' ∉ w := by
  intro hmem
  cases isNameChar_of_mem h _ hmem

lemma nul_not_mem_glue {l : List (List Char)} (h : ∀ w ∈ l, isIdentifier w = true) :
    '\x00' ∉ Text.glue separator l := by
  induction l with
  | nil => simp [Text.glue]
  | cons w l ih =>
      have hw := nul_not_mem_of_isIdentifier (h w List.mem_cons_self)
      have hl := ih fun v hv => h v (List.mem_cons_of_mem _ hv)
      cases l with
      | nil => simpa [Text.glue] using hw
      | cons v l => simpa [Text.glue, separator] using ⟨hw, hl⟩

lemma nul_not_mem_textOf {path : List String} (h : AllSegments isIdentifier path) :
    '\x00' ∉ (QualifiedName.textOf path).toList := by
  rw [QualifiedName.textOf, String.toList_ofList]
  refine nul_not_mem_glue fun w hw => ?_
  obtain ⟨segment, hsegment, rfl⟩ := List.mem_map.1 hw
  exact h segment hsegment

lemma NamedType.nul_not_mem_text {t : NamedType} (h : t.isPlain = true) : '\x00' ∉ t.text := by
  have hword := nul_not_mem_of_isIdentifier (isIdentifier_word h).1
  rw [text]
  cases t.nullable <;> simpa using hword

lemma Parameter.nul_not_mem_text {p : Parameter} (h : p.isPlain = true) : '\x00' ∉ p.text := by
  obtain ⟨hidentifier, htype, -⟩ := isPlain_iff.1 h
  have hname := nul_not_mem_of_isIdentifier hidentifier
  have hvariable : '\x00' ∉ p.variableText := by
    rw [variableText]
    cases p.byReference <;> cases p.variadic <;> simpa using hname
  rw [text]
  split
  · next t ht => simpa using ⟨NamedType.nul_not_mem_text (htype t ht), hvariable⟩
  · exact hvariable

lemma nul_not_mem_parametersText {l : List Parameter} (h : ∀ p ∈ l, p.isPlain = true) :
    '\x00' ∉ parametersText l := by
  cases l with
  | nil => exact List.not_mem_nil
  | cons p rest =>
      have hp := Parameter.nul_not_mem_text (h p List.mem_cons_self)
      have hrest : ∀ q ∈ rest, '\x00' ∉ q.text := fun q hq =>
        Parameter.nul_not_mem_text (h q (List.mem_cons_of_mem _ hq))
      simpa [parametersText] using ⟨hp, hrest⟩

lemma Method.nul_not_mem_lineText {m : Method} (h : m.isPlain = true) : '\x00' ∉ m.lineText := by
  obtain ⟨hidentifier, hparameters, htype, -⟩ := isPlain_iff.1 h
  have hname := nul_not_mem_of_isIdentifier hidentifier
  have hresult : '\x00' ∉ m.resultText := by
    rw [resultText]
    split
    · next t ht => simpa using NamedType.nul_not_mem_text (htype t ht)
    · exact List.not_mem_nil
  rw [lineText, signatureText]
  cases m.static <;> simpa using ⟨hname, nul_not_mem_parametersText hparameters, hresult⟩

lemma Method.nul_not_mem_docText {m : Method} (h : m.isPlain = true) : '\x00' ∉ m.docText := by
  rw [docText]
  split
  · next comment hdoc =>
    have hplain := (isPlain_iff.1 h).2.2.2 comment hdoc
    simp only [isPlainComment, Bool.and_eq_true, Bool.not_eq_true', List.contains_eq_mem,
      decide_eq_false_iff_not] at hplain
    simpa [indentText] using hplain.2
  · exact List.not_mem_nil

lemma nul_not_mem_methodsText {methods : List Method} (h : ∀ m ∈ methods, m.isPlain = true) :
    '\x00' ∉ methodsText methods := by
  have hall : ∀ m ∈ methods, '\x00' ∉ m.docText ∧ '\x00' ∉ m.lineText := fun m hm =>
    ⟨Method.nul_not_mem_docText (h m hm), Method.nul_not_mem_lineText (h m hm)⟩
  simpa [methodsText, indentText] using hall

lemma nul_not_mem_programText {context : QualifiedName} {imports : List QualifiedName} {methods : List Method}
    (hcontext : AllSegments isIdentifier (context.path ++ [context.short]))
    (himports : ∀ name ∈ imports, AllSegments isPlainName (name.path ++ [name.short]))
    (hmethods : ∀ m ∈ methods, m.isPlain = true) : '\x00' ∉ programText context imports methods := by
  have hspace : '\x00' ∉ spaceText context := by
    have hpath : '\x00' ∉ context.pathText.toList :=
      nul_not_mem_textOf fun segment hsegment => hcontext segment (List.mem_append_left _ hsegment)
    rw [spaceText]
    split
    · exact List.not_mem_nil
    · simpa using hpath
  have huses : ∀ name ∈ imports, '\x00' ∉ importText name := by
    intro name hname
    have htext : '\x00' ∉ name.text.toList := nul_not_mem_textOf fun segment hsegment =>
      isIdentifier_of_isPlainName (himports name hname segment hsegment)
    simpa [importText] using htext
  have hdeclaration : '\x00' ∉ declarationText context.short methods := by
    have hshort := nul_not_mem_of_isIdentifier (hcontext context.short (by simp))
    simpa [declarationText, bodyText] using ⟨hshort, nul_not_mem_methodsText hmethods⟩
  rw [programText]
  cases imports.isEmpty <;> simpa using ⟨hspace, huses, hdeclaration⟩

end

end PhpInterface
