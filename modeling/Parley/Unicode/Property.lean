import Parley.Text.Blank
import Parley.Unicode.Category
import Parley.Unicode.Folding
import Parley.Unicode.PropertyList
import Parley.Unicode.Script

/-!
# Properties of characters

Many properties follow from others: the upper-case characters, say, are the upper-case letters
and a short list of characters on top of them. A `Derivation` says how a property is put
together, and `Derivation.characters` does it. What is said here is what the standard defines,
but for the changes of case: these are what the case of a character and the tables of
`Parley.Unicode.Folding` tell, and the characters that are mapped to several are listed.
-/

namespace Parley

namespace Unicode

/-- How a class of characters is put together. -/
inductive Derivation where
  /-- The general categories with some short names. -/
  | category (names : List String)
  /-- The scripts with some codes. -/
  | scripts (codes : List String)
  /-- A property that is given by a list. -/
  | listed (name : String)
  /-- A class that is given outright. -/
  | given (cls : CharClass)
  /-- The characters that have another form in lower or upper case. -/
  | folded
  | union (a b : Derivation)
  | intersection (a b : Derivation)
  | difference (a b : Derivation)

namespace Derivation

/-- The members of the class. -/
def characters : Derivation → CharClass
  | category names => categories names
  | scripts codes => scriptTable.charactersOf codes
  | listed name => propertyTable.charactersOf [name]
  | given cls => cls
  | folded => foldable
  | union a b => a.characters.union b.characters
  | intersection a b => a.characters.intersection b.characters
  | difference a b => a.characters.difference b.characters

end Derivation

/-! ### Letters and their case -/

/-- Upper-case characters. -/
def uppercase : Derivation :=
  .union (.category ["lu"]) (.listed "oupper")

/-- Lower-case characters. -/
def lowercase : Derivation :=
  .union (.category ["ll"]) (.listed "olower")

/-- Characters that have a case. -/
def cased : Derivation :=
  .union (.union uppercase lowercase) (.category ["lt"])

/-- Alphabetic characters. -/
def alphabetic : Derivation :=
  .union cased (.union (.category ["lm", "lo", "nl"]) (.listed "oalpha"))

/-- Characters that are passed over where the neighbours of a letter decide its case. -/
def caseIgnorable : Derivation :=
  .union (.category ["mn", "me", "cf", "lm", "sk"])
    (.given (.ofNotation ["27 2E 3A B7 387 55F 5F4 2018-2019 2024 2027 FE13 FE52 FE55 FF07 FF0E",
      "FF1A"]))

/-- Characters that some change of case changes. -/
def changesWhenCasemapped : Derivation :=
  .union .folded
    (.given (.ofNotation ["130-131 149 1F0 587 1E96-1E9A 1F50 1F52 1F54 1F56 1FB2 1FB4 1FB6-1FB7",
      "1FC2 1FC4 1FC6-1FC7 1FD2 1FD6-1FD7 1FE2 1FE4 1FE6-1FE7 1FF2 1FF4 1FF6-1FF7 FB00-FB04",
      "FB13-FB17"]))

/-- Characters that change when they are put in lower case. -/
def changesWhenLowercased : Derivation :=
  .intersection (.union uppercase (.category ["lt"])) changesWhenCasemapped

/-- Characters that change when they are put in upper case. -/
def changesWhenUppercased : Derivation :=
  .intersection (.union lowercase (.category ["lt"])) changesWhenCasemapped

/-- Characters that change when they begin a title. Letters of Georgian do not; digraphs change
unless their first letter alone is in upper case. -/
def changesWhenTitlecased : Derivation :=
  .union (.given (.ofNotation ["1C4 1C7 1CA 1F1"]))
    (.difference changesWhenUppercased
      (.given (.ofNotation ["1C5 1C8 1CB 1F2 10D0-10FA 10FD-10FF 1F88-1F8F 1F98-1F9F",
        "1FA8-1FAF 1FBC 1FCC 1FFC"])))

/-- Characters that change when they are folded. Letters of Cherokee are folded to upper
case. -/
def changesWhenCasefolded : Derivation :=
  .union (.difference changesWhenLowercased (.given (.ofNotation ["13A0-13F5"])))
    (.given (.ofNotation ["B5 DF 149 17F 345 3C2 3D0-3D1 3D5-3D6 3F0-3F1 3F5 587 13F8-13FD",
      "1C80-1C88 1E9A-1E9B 1F80-1F87 1F90-1F97 1FA0-1FA7 1FB2-1FB4 1FB7 1FC2-1FC4 1FC7",
      "1FF2-1FF4 1FF7 AB70-ABBF FB00-FB06 FB13-FB17"]))

/-! ### Names and notations -/

/-- Characters of mathematical notation. -/
def mathematical : Derivation :=
  .union (.category ["sm"]) (.listed "omath")

/-- Characters that the notation of patterns keeps for itself. -/
def patternCharacters : Derivation :=
  .union (.listed "patsyn") (.listed "patws")

/-- Characters at which a name may begin. -/
def nameStart : Derivation :=
  .difference (.union (.category ["lu", "ll", "lt", "lm", "lo", "nl"]) (.listed "oids"))
    patternCharacters

/-- Characters with which a name may go on. -/
def nameContinue : Derivation :=
  .difference (.union nameStart (.union (.category ["mn", "mc", "nd", "pc"]) (.listed "oidc")))
    patternCharacters

/-- Characters whose compatible forms do not begin a name though they do. -/
def unstableStart : CharClass :=
  .ofNotation ["37A E33 EB3 309B-309C FC5E-FC63 FDFA-FDFB FE70 FE72 FE74 FE76 FE78 FE7A FE7C",
    "FE7E FF9E-FF9F"]

/-- Characters whose compatible forms do not go on with a name though they do. -/
def unstableContinue : CharClass :=
  .ofNotation ["37A 309B-309C FC5E-FC63 FDFA-FDFB FE70 FE72 FE74 FE76 FE78 FE7A FE7C FE7E"]

/-! ### Display -/

/-- Characters that extend the one before them. -/
def graphemeExtend : Derivation :=
  .union (.category ["mn", "me"]) (.listed "ogrext")

/-- Characters that stand for themselves when they are displayed. -/
def graphemeBase : Derivation :=
  .difference (.given assigned)
    (.union (.category ["cc", "cf", "co", "zl", "zp"]) graphemeExtend)

/-- Characters that are not displayed where they are not known. -/
def defaultIgnorable : Derivation :=
  .difference (.union (.union (.listed "odi") (.listed "vs")) (.category ["cf"]))
    (.union (.union (.listed "space") (.listed "pcm"))
      (.given (.ofNotation ["FFF9-FFFB 13430-1343F"])))

/-! ### Properties by name -/

/-- The characters with a property that a character has or has not. -/
def binary? (name : String) : Option CharClass :=
  match name with
  | "upper" | "uppercase" => some uppercase.characters
  | "lower" | "lowercase" => some lowercase.characters
  | "cased" => some cased.characters
  | "alpha" | "alphabetic" => some alphabetic.characters
  | "ci" | "caseignorable" => some caseIgnorable.characters
  | "cwcm" | "changeswhencasemapped" => some changesWhenCasemapped.characters
  | "cwl" | "changeswhenlowercased" => some changesWhenLowercased.characters
  | "cwu" | "changeswhenuppercased" => some changesWhenUppercased.characters
  | "cwt" | "changeswhentitlecased" => some changesWhenTitlecased.characters
  | "cwcf" | "changeswhencasefolded" => some changesWhenCasefolded.characters
  | "math" => some mathematical.characters
  | "ids" | "idstart" => some nameStart.characters
  | "idc" | "idcontinue" => some nameContinue.characters
  | "xids" | "xidstart" => some (nameStart.difference (.given unstableStart)).characters
  | "xidc" | "xidcontinue" => some (nameContinue.difference (.given unstableContinue)).characters
  | "grext" | "graphemeextend" => some graphemeExtend.characters
  | "grbase" | "graphemebase" => some graphemeBase.characters
  | "di" | "defaultignorablecodepoint" => some defaultIgnorable.characters
  | _ => propertyTable.characters? name

/-! ### Classes in constant use -/

/-- White space. -/
def space : CharClass := ⟨blankRanges⟩

/-- Decimal digits. -/
def digit : CharClass := categories ["nd"]

/-- Characters of numbers. -/
def numeric : CharClass := categories ["nd", "nl", "no"]

/-- Characters of alphabets. -/
def letter : CharClass := alphabetic.characters

/-- Characters of words: alphabetic ones, marks, digits, connectors and join controls. -/
def word : CharClass :=
  letter.union (Derivation.union (.category ["mn", "mc", "me", "nd", "pc"])
    (.listed "joinc")).characters

end Unicode

end Parley
