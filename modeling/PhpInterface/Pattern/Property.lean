import PhpInterface.Pattern.CharSet
import PhpInterface.Text.Script

/-!
# Classes by property

A class of characters can be asked for by a property of Unicode: a general category, a script, or one of the
properties of letters and blanks.  Case, blanks, hyphens and underscores in the names do not matter, nor does
the word "is" in front of them.
-/

namespace PhpInterface

namespace CharProperty

open Text (CharTable)

/-- A name as it is compared.  The name that would be "c" without the word in front of it is another one. -/
def normalize (name : List Char) : String :=
  let kept (s : List Char) : List Char :=
    (s.filter fun c => c.toNat < 0x80 && c != ' ' && c != '_' && c != '-').map Char.toLower
  let started := (name.take 2).map Char.toLower = ['i', 's']
  let rest := kept (if started then name.drop 2 else name)
  String.ofList (if started ∧ rest = ['c'] then ['i', 's', 'c'] else rest)

/-- The tables of the categories with one of these letters in front. -/
def categoriesOf (letters : List String) : List CharTable :=
  (Text.categories.filter fun (names, _) => names.any letters.contains).map (·.2)

/-- Groups of categories, with the letters of their members. -/
def categoryGroups : List (List String × List String) :=
  [(["l", "letter"], ["lu", "ll", "lt", "lm", "lo"]),
   (["lc", "casedletter"], ["lu", "ll", "lt"]),
   (["m", "mark", "combiningmark"], ["mn", "mc", "me"]),
   (["n", "number"], ["nd", "nl", "no"]),
   (["p", "punctuation", "punct"], ["pc", "pd", "ps", "pe", "pi", "pf", "po"]),
   (["s", "symbol"], ["sm", "sc", "sk", "so"]),
   (["z", "separator"], ["zs", "zl", "zp"])]

/-- The value that stands under one of its names. -/
def named? {α : Type} (name : String) (entries : List (List String × α)) : Option α :=
  (entries.find? fun (names, _) => names.contains name).map (·.2)

section

variable (letterCase : LetterCase)

/-- The characters that have a category. -/
def assigned : CharSet :=
  .ofTables (Text.categories.map (·.2)) letterCase

/-- A general category, or a group of them. -/
def category? (name : String) : Option CharSet :=
  match name with
  | "any" => some (.compl .none)
  | "assigned" => some (assigned letterCase)
  | "ascii" => some (.table { ranges := [(0x00, 0x7F)] } letterCase)
  | "cn" | "unassigned" => some (.compl (assigned letterCase))
  | "c" | "other" =>
    some (.union (.ofTables (categoriesOf ["cc", "cf", "co"]) letterCase) (.compl (assigned letterCase)))
  | _ =>
    match named? name Text.categories with
    | some t => some (.table t letterCase)
    | none => (named? name categoryGroups).map fun members => .ofTables (categoriesOf members) letterCase

/-- A script. -/
def script? (name : String) : Option CharSet :=
  (named? name Text.scripts).map fun ranges => .table { ranges } letterCase

/-- A property of letters or blanks. -/
def binary? (name : String) : Option CharSet :=
  match name with
  | "alphabetic" | "alpha" => some (.ofTables Text.alphabetic letterCase)
  | "lowercase" | "lower" => some (.ofTables Text.lowercase letterCase)
  | "uppercase" | "upper" => some (.ofTables Text.uppercase letterCase)
  | "whitespace" | "wspace" | "space" => some (.table { ranges := Text.blankRanges } letterCase)
  | _ => none

/-- A property with a value. -/
def valued? (property value : List Char) : Option CharSet :=
  match normalize property with
  | "generalcategory" | "gc" => category? letterCase (normalize value)
  | "script" | "sc" => script? letterCase (normalize value)
  | _ => none

/-- A property without a value. -/
def plain? (name : List Char) : Option CharSet :=
  let name := normalize name
  (binary? letterCase name).or ((category? letterCase name).or (script? letterCase name))

/-- The parts of a text before and after a separator. -/
def splitAt? (separator : List Char) : List Char → Option (List Char × List Char)
  | [] => none
  | c :: rest =>
    if separator.isPrefixOf (c :: rest) then some ([], (c :: rest).drop separator.length)
    else (splitAt? separator rest).map fun (before, after) => (c :: before, after)

/-- What stands between the braces of a class. -/
def ofText? (s : List Char) : Option CharSet :=
  match splitAt? ['!', '='] s with
  | some (property, value) => (valued? letterCase property value).map .compl
  | none =>
    match (splitAt? [':'] s).or (splitAt? ['='] s) with
    | some (property, value) => valued? letterCase property value
    | none => plain? letterCase s

end

end CharProperty

end PhpInterface
