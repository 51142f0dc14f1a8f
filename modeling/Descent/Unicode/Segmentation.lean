import Descent.Unicode.Property
import Descent.Unicode.Script

/-!
# Segmentation properties

The classes of characters by which a text is segmented into graphemes, words and sentences, as the
standard's annex on text segmentation defines them from other properties. In each of the three
divisions a character has at most one class.
-/

namespace Descent.Unicode.Segmentation

/-- The characters of a script. -/
def script (name : String) : CodeSet := (Script.named? name).getD CodeSet.empty

/-! ## Graphemes -/

def carriageReturn : CodeSet := .single 0xD

def lineFeed : CodeSet := .single 0xA

def zeroWidthJoiner : CodeSet := .single 0x200D

def graphemeExtend : CodeSet := Property.graphemeExtend.union Property.emojiModifier

def graphemeControl : CodeSet :=
  (CodeSet.unionAll [Category.lineSeparator, Category.paragraphSeparator, Category.control,
    Category.format, Category.unassigned.inter Property.defaultIgnorableCodePoint]).diff
    (.unionAll [carriageReturn, lineFeed, zeroWidthJoiner, graphemeExtend,
      Property.prependedConcatenationMark])

/-- Signs that attach to the grapheme after them. -/
def graphemePrepend : CodeSet :=
  .read ["600-605 6dd 70f 890-891 8e2 d4e 110bd 110cd 111c2-111c3 113d1 1193f 11941",
    "11a3a 11a84-11a89 11d46 11f02"]

def graphemeSpacingMark : CodeSet :=
  ((Category.spacingMark.diff graphemeExtend).union (.read ["e33 eb3"])).diff
    (.read ["102b-102c 1038 1062-1064 1067-106d 1083 1087-108c 108f 109a-109c 1a61",
      "1a63-1a64 aa7b aa7d 11720-11721"])

/-- Leading consonants of syllables. -/
def syllableLead : CodeSet := .read ["1100-115f a960-a97c"]

/-- Vowels of syllables. -/
def syllableVowel : CodeSet := .read ["1160-11a7 d7b0-d7c6 16d63 16d67-16d6a"]

/-- Trailing consonants of syllables. -/
def syllableTail : CodeSet := .read ["11a8-11ff d7cb-d7fb"]

/-- Syllables without a trailing consonant: every 28th of the composed syllables. -/
def syllableOpen : CodeSet := .ofAscending ((List.range 399).map fun k => 0xAC00 + 28 * k)

/-- Syllables with a trailing consonant. -/
def syllableClosed : CodeSet := (CodeSet.range 0xAC00 0xD7A3).diff syllableOpen

def graphemeNamed : List (List String × CodeSet) := [
  (["cr"], carriageReturn),
  (["lf"], lineFeed),
  (["cn", "control"], graphemeControl),
  (["ex", "extend"], graphemeExtend),
  (["zwj"], zeroWidthJoiner),
  (["ri", "regionalindicator"], Property.regionalIndicator),
  (["pp", "prepend"], graphemePrepend),
  (["sm", "spacingmark"], graphemeSpacingMark),
  (["l"], syllableLead),
  (["v"], syllableVowel),
  (["t"], syllableTail),
  (["lv"], syllableOpen),
  (["lvt"], syllableClosed)]

/-! ## Words -/

/-- Signs that span the digits after them. -/
def numberSign : CodeSet := Property.prependedConcatenationMark.diff (.single 0x70F)

/-- Digits, and the separators of decimals and thousands. -/
def numeric : CodeSet := Category.decimalNumber.union (.range 0x66B 0x66C)

def wordExtend : CodeSet :=
  (CodeSet.unionAll [Property.graphemeExtend, Category.spacingMark, Property.emojiModifier]).diff
    zeroWidthJoiner

def wordFormat : CodeSet :=
  Category.format.diff
    (.unionAll [wordExtend, Property.prependedConcatenationMark, .read ["200b-200d"]])

def katakana : CodeSet := (script "katakana").union (.read ["3031-3035 309b-309c 30a0 30fc ff70"])

def hebrewLetter : CodeSet := (script "hebrew").inter Category.otherLetter

/-- Characters of scripts that are written without spaces between words. -/
def unspaced : CodeSet :=
  .read [
    "e01-e3a e40-e4e e81-e82 e84 e86-e8a e8c-ea3 ea5 ea7-ebd ec0-ec4 ec6 ec8-ece edc-edf",
    "1000-103f 1050-108f 109a-109f 1780-17d3 17d7 17dc-17dd 1950-196d 1970-1974 1980-19ab",
    "19b0-19c9 19da 19de-19df 1a20-1a5e 1a60-1a7c 1aa0-1aad a9e0-a9ef a9fa-a9fe aa60-aac2",
    "aadb-aadf 11700-1171a 1171d-1172b 1173a-1173b 1173f-11746"]

def wordLetter : CodeSet :=
  (CodeSet.unionAll [Property.alphabetic, .single 0x70F,
    .read ["2c2-2c5 2d2-2d7 2de-2df 2e5-2eb 2ed 2ef-2ff 55a-55c 55e 58a 5f3",
      "a708-a716 a720-a721 a789-a78a ab5b"]]).diff
    (.unionAll [Property.ideographic, katakana, unspaced, script "hiragana", wordExtend,
      hebrewLetter])

def wordNumeric : CodeSet := (numeric.union numberSign).diff (.single 0x66C)

def wordNamed : List (List String × CodeSet) := [
  (["cr"], carriageReturn),
  (["lf"], lineFeed),
  (["nl", "newline"], .read ["b-c 85 2028-2029"]),
  (["extend"], wordExtend),
  (["zwj"], zeroWidthJoiner),
  (["ri", "regionalindicator"], Property.regionalIndicator),
  (["fo", "format"], wordFormat),
  (["ka", "katakana"], katakana),
  (["hl", "hebrewletter"], hebrewLetter),
  (["le", "aletter"], wordLetter),
  (["sq", "singlequote"], .single 0x27),
  (["dq", "doublequote"], .single 0x22),
  (["mb", "midnumlet"], .read ["2e 2018-2019 2024 fe52 ff07 ff0e"]),
  (["ml", "midletter"], .read ["3a b7 387 55f 5f4 2027 fe13 fe55 ff1a"]),
  (["mn", "midnum"], .read ["2c 3b 37e 589 60c-60d 66c 7f8 2044 fe10 fe14 fe50 fe54 ff0c ff1b"]),
  (["nu", "numeric"], wordNumeric),
  (["ex", "extendnumlet"], Category.connectorPunctuation.union (.single 0x202F)),
  (["wsegspace"], .read ["20 1680 2000-2006 2008-200a 205f 3000"])]

/-! ## Sentences -/

/-- Full stops, which need not end a sentence. -/
def fullStop : CodeSet := .read ["2e 2024 fe52 ff0e"]

def sentenceSeparator : CodeSet := .read ["85 2028-2029"]

def sentenceExtend : CodeSet :=
  .unionAll [Property.graphemeExtend, Category.spacingMark, zeroWidthJoiner]

def sentenceFormat : CodeSet :=
  Category.format.diff (.unionAll [sentenceExtend, Property.prependedConcatenationMark])

def sentenceSpace : CodeSet :=
  Property.whiteSpace.diff (.unionAll [sentenceSeparator, carriageReturn, lineFeed])

/-- Lower case, but for the letters of a script that has no case in running text. -/
def sentenceLower : CodeSet :=
  Property.lowercase.diff (.unionAll [Property.graphemeExtend, .read ["10d0-10fa 10fd-10ff"]])

def sentenceUpper : CodeSet :=
  (Property.uppercase.union Category.titlecaseLetter).diff (.read ["1c90-1cba 1cbd-1cbf"])

def sentenceLetter : CodeSet :=
  (CodeSet.unionAll [Property.alphabetic, .single 0x5F3, .single 0x70F]).diff
    (.unionAll [sentenceLower, sentenceUpper, sentenceExtend])

def sentenceTerminal : CodeSet := Property.sentenceTerminal.diff fullStop

/-- Brackets and quotation marks. -/
def sentenceClose : CodeSet :=
  (CodeSet.unionAll [Category.openPunctuation, Category.closePunctuation,
    Category.initialPunctuation, Category.finalPunctuation,
    .read ["22 27 275b-2760 2e00-2e01 2e06-2e08 2e0b 1f676-1f678"]]).diff
    (.unionAll [fullStop, sentenceTerminal])

def sentenceNamed : List (List String × CodeSet) := [
  (["cr"], carriageReturn),
  (["lf"], lineFeed),
  (["ex", "extend"], sentenceExtend),
  (["se", "sep"], sentenceSeparator),
  (["fo", "format"], sentenceFormat),
  (["sp"], sentenceSpace),
  (["lo", "lower"], sentenceLower),
  (["up", "upper"], sentenceUpper),
  (["le", "oletter"], sentenceLetter),
  (["nu", "numeric"], numeric.union numberSign),
  (["at", "aterm"], fullStop),
  (["sc", "scontinue"],
    .read [
    "2c-2d 3a 55d 60c-60d 7f8 1802 1808 2013-2014 3001 fe10-fe11 fe13 fe31-fe32 fe50-fe51 fe55",
    "fe58 fe63 ff0c-ff0d ff1a ff64"]),
  (["st", "sterm"], sentenceTerminal),
  (["cl", "close"], sentenceClose)]

end Descent.Unicode.Segmentation
