import VarSchema.Unicode.Property
import VarSchema.Unicode.Script

/-!
# Classes of characters for the division of texts

`GraphemeBreak.set?`, `WordBreak.set?` and `SentenceBreak.set?` give the characters of a class that matters
where a text is divided into user-perceived characters, words and sentences. A class that is the remainder
or that no character has any more has no set.
-/

namespace VarSchema

namespace Segmentation

def listed (table : String) : CharSet := .ofTable table

def categories (cs : List Category) : CharSet := Category.union cs

def without (some others : List CharSet) : CharSet := (CharSet.unions some).minus (.unions others)

def script (code : String) : CharSet := .unions ((Script.all.filter (·.code = code)).map Script.set)

def numberSigns : CharSet := listed "600-605 6dd 890-891 8e2 110bd 110cd"

/-- Joiners and what extends the character before it. -/
def marks : CharSet := .union Derived.graphemeExtend (Category.set .spacingMark)

def regionalIndicator : CharSet := .ofTable Listed.regionalIndicator

end Segmentation

open Segmentation

namespace GraphemeBreak

/-- Syllables without a final consonant; each starts a block of the syllables with one. -/
def openSyllables : CharSet := listed "ac00-d788/1c"

/-- The characters of a class of user-perceived characters, by the short name of the class. -/
def set? (name : String) : Option CharSet :=
  match name with
  | "CN" => some (without
      [categories [.control, .format, .lineSeparator, .paragraphSeparator],
        .inter Category.unassigned Derived.defaultIgnorable]
      [listed "a d 200c 200d", .ofTable Listed.prependedConcatenationMark, Derived.graphemeExtend])
  | "CR" => some (listed "d")
  | "EX" => some (.union Derived.graphemeExtend (.ofTable Listed.emojiModifier))
  | "L" => some (listed "1100-115f a960-a97c")
  | "LF" => some (listed "a")
  | "LV" => some openSyllables
  | "LVT" => some (without [listed "ac00-d7a3"] [openSyllables])
  | "PP" => some (.union (.ofTable Listed.prependedConcatenationMark)
      (listed "d4e 111c2-111c3 113d1 1193f 11941 11a3a 11a84-11a89 11d46 11f02"))
  | "RI" => some regionalIndicator
  | "SM" => some (without [Category.set .spacingMark, listed "e33 eb3"]
      [Derived.graphemeExtend, listed "102b-102c 1038 1062-1064 1067-106d 1083 1087-108c 108f
        109a-109c 1a61 1a63 1a64 aa7b aa7d 11720-11721"])
  | "T" => some (listed "11a8-11ff d7cb-d7fb")
  | "V" => some (listed "1160-11a7 d7b0-d7c6 16d63 16d67-16d6a")
  | "ZWJ" => some (listed "200d")
  | _ => none

end GraphemeBreak

namespace WordBreak

def extend : CharSet := without [marks, .ofTable Listed.emojiModifier] [listed "200d"]

def katakana : CharSet := .union (script "Kana") (listed "3031-3035 309b-309c 30a0 30fc ff70")

def hebrewLetter : CharSet := .inter (script "Hebr") (Category.set .otherLetter)

/-- Characters of scripts that do not divide their words. -/
def undivided : CharSet :=
  listed "e01-e3a e40-e4e e81-e82 e84 e86-e8a e8c-ea3 ea5 ea7-ebd ec0-ec4 ec6 ec8-ece edc-edf
    1000-103f 1050-108f 109a-109f 1780-17d3 17d7 17dc-17dd 1950-196d 1970-1974 1980-19ab 19b0-19c9
    19da 19de-19df 1a20-1a5e 1a60-1a7c 1aa0-1aad a9e0-a9ef a9fa-a9fe aa60-aac2 aadb-aadf 11700-1171a
    1171d-1172b 1173a-1173b 1173f-11746"

/-- The characters of a class of words, by the short name of the class. -/
def set? (name : String) : Option CharSet :=
  match name with
  | "CR" => some (listed "d")
  | "DQ" => some (listed "22")
  | "EX" => some (.union (Category.set .connectorPunctuation) (listed "202f"))
  | "Extend" => some extend
  | "FO" => some (without [Category.set .format]
      [Derived.graphemeExtend, numberSigns, listed "70f 200b 200c 200d"])
  | "HL" => some hebrewLetter
  | "KA" => some katakana
  | "LE" => some (without
      [Derived.alphabetic, listed "2c2-2c5 2d2-2d7 2de-2df 2e5-2eb 2ed 2ef-2ff 55a-55c 55e 58a 5f3 70f
        a708-a716 a720-a721 a789-a78a ab5b"]
      [.ofTable Listed.ideographic, katakana, script "Hira", undivided, extend, hebrewLetter])
  | "LF" => some (listed "a")
  | "MB" => some (listed "2e 2018-2019 2024 fe52 ff07 ff0e")
  | "ML" => some (listed "3a b7 387 55f 5f4 2027 fe13 fe55 ff1a")
  | "MN" => some (listed "2c 3b 37e 589 60c 60d 66c 7f8 2044 fe10 fe14 fe50 fe54 ff0c ff1b")
  | "NL" => some (listed "b c 85 2028 2029")
  | "NU" => some (.unions [Category.set .decimalNumber, numberSigns, listed "66b"])
  | "RI" => some regionalIndicator
  | "SQ" => some (listed "27")
  | "WSegSpace" => some (listed "20 1680 2000-2006 2008-200a 205f 3000")
  | "ZWJ" => some (listed "200d")
  | _ => none

end WordBreak

namespace SentenceBreak

def extend : CharSet := .union marks (listed "200d")

def lower : CharSet := without [Derived.lowercase] [extend, listed "10d0-10fa 10fd-10ff"]

def upper : CharSet :=
  without [Category.set .titlecaseLetter, Derived.uppercase] [listed "1c90-1cba 1cbd-1cbf"]

def fullStop : CharSet := listed "2e 2024 fe52 ff0e"

/-- Other marks that end a sentence. -/
def terminal : CharSet := without [.ofTable Listed.sentenceTerminal] [fullStop]

/-- The characters of a class of sentences, by the short name of the class. -/
def set? (name : String) : Option CharSet :=
  match name with
  | "AT" => some fullStop
  | "CL" => some (without
      [categories [.openPunctuation, .closePunctuation, .initialPunctuation, .finalPunctuation],
        listed "22 27 275b-2760 2e00-2e01 2e06-2e08 2e0b 1f676-1f678"]
      [listed "5f3", fullStop, terminal])
  | "CR" => some (listed "d")
  | "EX" => some extend
  | "FO" => some (without [Category.set .format] [extend, numberSigns, listed "70f"])
  | "LE" => some (without [Derived.alphabetic, listed "5f3 70f"] [lower, upper, extend])
  | "LF" => some (listed "a")
  | "LO" => some lower
  | "NU" => some (.unions [Category.set .decimalNumber, numberSigns, listed "66b 66c"])
  | "SC" => some (listed "2c 2d 3a 55d 60c-60d 7f8 1802 1808 2013-2014 3001 fe10-fe11 fe13 fe31-fe32
      fe50-fe51 fe55 fe58 fe63 ff0c-ff0d ff1a ff64")
  | "SE" => some (listed "85 2028 2029")
  | "SP" => some (without [.ofTable Listed.whiteSpace] [listed "85 2028 2029 d a"])
  | "ST" => some terminal
  | "UP" => some upper
  | _ => none

end SentenceBreak

end VarSchema
