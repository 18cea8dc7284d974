import EntityFinder.Text.Bytes

set_option autoImplicit false

/-!
# Word stems

Takes the usual endings off an English word, step by step, so that its forms agree. A step looks
for the first of some endings that the word has and replaces it, if what stands before the ending
is long enough. Length is measured in runs of vowels that are followed by a consonant. A word is
taken as bytes, of which those beyond ASCII are consonants.

## Main definitions

* `EntityFinder.FullText.Stem.measure`: the length of a word in runs of vowels.
* `EntityFinder.FullText.Stem.replaceEnding`: a step.
* `EntityFinder.FullText.Stem.stem`: a word without its endings.
-/

namespace EntityFinder.FullText.Stem

open Text (byte bytesOf)

/-- A word, or what is left of it. -/
abbrev Word := List UInt8

/-! ## Vowels and consonants -/

/-- The letters that are always vowels. -/
def vowels : List UInt8 := bytesOf "aeiou"

/-- Whether a letter is a vowel, behind a consonant or not. A `y` is one behind a consonant. -/
def isVowel (afterConsonant : Bool) (b : UInt8) : Bool :=
  vowels.contains b || afterConsonant && b == byte 'y'

/-- For each letter whether it is a consonant. -/
def consonants : Bool → Word → List Bool
  | _, [] => []
  | afterConsonant, b :: rest =>
    let isConsonant := !isVowel afterConsonant b
    isConsonant :: consonants isConsonant rest

/-- How often a vowel is followed by a consonant. -/
def turns : List Bool → Nat
  | false :: true :: rest => turns rest + 1
  | _ :: rest => turns rest
  | [] => 0

/-- The length of a word in runs of vowels that are followed by a consonant. -/
def measure (w : Word) : Nat :=
  turns (consonants false w)

/-- Whether a word has a vowel; a `y` counts unless it comes first. -/
def hasVowel : Word → Bool
  | [] => false
  | b :: rest => isVowel false b || rest.any (isVowel true)

/-- The letters that do not close a short syllable. -/
def openers : List UInt8 := bytesOf "wxy"

/-- Whether a word ends in a short syllable: a consonant, a vowel and a consonant that closes. -/
def endsShort (w : Word) : Bool :=
  match (consonants false w).reverse, w.reverse with
  | true :: false :: true :: _, last :: _ => !openers.contains last
  | _, _ => false

/-- Whether a word ends in one of some letters. -/
def endsIn (letters : String) (w : Word) : Bool :=
  w.getLast?.any (bytesOf letters).contains

/-! ## Endings -/

/-- What stands before an ending, if a word has it and is longer. -/
def before? (ending : String) (w : Word) : Option Word :=
  let letters := bytesOf ending
  let n := w.length - letters.length
  if letters.length < w.length ∧ w.drop n = letters then some (w.take n) else none

/-- What becomes of an ending. -/
structure Rule where
  /-- The ending. -/
  ending : String
  /-- What replaces it. -/
  replacement : String
  /-- What the rest of the word has to be like. -/
  condition : Word → Bool

/-- Replaces the first of some endings that a word has, and tells whether it has one and the
condition holds. -/
def replaceEnding? (rules : List Rule) (w : Word) : Option Word :=
  match rules.findSome? fun r => (before? r.ending w).map fun rest => (r, rest) with
  | none => none
  | some (r, rest) => if r.condition rest then some (rest ++ bytesOf r.replacement) else none

/-- Replaces the first of some endings that a word has, if the condition holds. -/
def replaceEnding (rules : List Rule) (w : Word) : Word :=
  (replaceEnding? rules w).getD w

/-- Rules with the same condition, as pairs of endings and replacements. -/
def rulesUnder (condition : Word → Bool) (endings : List (String × String)) : List Rule :=
  endings.map fun (ending, replacement) => ⟨ending, replacement, condition⟩

/-- Whether a word has at least one turn. -/
def isLong (w : Word) : Bool := 0 < measure w

/-- Whether a word has more than one turn. -/
def isVeryLong (w : Word) : Bool := 1 < measure w

/-! ## Steps -/

/-- Plurals. -/
def pluralRules : List Rule :=
  rulesUnder (fun _ => true) [("sses", "ss"), ("ies", "i"), ("ss", "ss"), ("s", "")]

/-- The past in a word with a double vowel. -/
def agreedRule : Rule := ⟨"eed", "ee", isLong⟩

/-- The past and the present participle. -/
def participleRules : List Rule :=
  rulesUnder hasVowel [("ed", ""), ("ing", "")]

/-- What is added again to a word without its participle. -/
def restoringRules : List Rule :=
  rulesUnder (fun _ => true) [("at", "ate"), ("bl", "ble"), ("iz", "ize")]

/-- A word without the second of two equal consonants at its end, if they may not stand there. -/
def undouble? (w : Word) : Option Word :=
  match w.reverse with
  | last :: previous :: _ =>
    if last = previous ∧ !vowels.contains last ∧ !endsIn "lsz" w then some w.dropLast else none
  | _ => none

/-- Mends the end of a word that has lost its participle. -/
def mend (w : Word) : Word :=
  match replaceEnding? restoringRules w with
  | some restored => restored
  | none =>
    match undouble? w with
    | some single => single
    | none => if measure w = 1 ∧ endsShort w then w ++ bytesOf "e" else w

/-- Takes a participle off. -/
def dropParticiple (w : Word) : Word :=
  match before? agreedRule.ending w with
  | some _ => replaceEnding [agreedRule] w
  | none =>
    match replaceEnding? participleRules w with
    | some rest => mend rest
    | none => w

/-- A `y` at the end of a word with another vowel. -/
def finalRules : List Rule := rulesUnder hasVowel [("y", "i")]

/-- Endings that stand for other endings. -/
def doubleRules : List Rule :=
  rulesUnder isLong
    [("ational", "ate"), ("tional", "tion"), ("enci", "ence"), ("anci", "ance"), ("izer", "ize"),
     ("logi", "log"), ("bli", "ble"), ("alli", "al"), ("entli", "ent"), ("eli", "e"),
     ("ousli", "ous"), ("ization", "ize"), ("ation", "ate"), ("ator", "ate"), ("alism", "al"),
     ("iveness", "ive"), ("fulness", "ful"), ("ousness", "ous"), ("aliti", "al"),
     ("iviti", "ive"), ("biliti", "ble")]

/-- Endings of adjectives and nouns. -/
def derivedRules : List Rule :=
  rulesUnder isLong
    [("ical", "ic"), ("ness", ""), ("icate", "ic"), ("iciti", "ic"), ("ful", ""), ("ative", ""),
     ("alize", "al")]

/-- Endings that only long words have. -/
def plainEndings : List (String × String) :=
  ["al", "ance", "ence", "er", "ic", "able", "ible", "ant", "ement", "ment", "ent", "ou", "ism",
   "ate", "iti", "ous", "ive", "ize"].map fun ending => (ending, "")

/-- What is taken off long words. -/
def plainRules : List Rule :=
  ⟨"ion", "", fun w => endsIn "st" w && isVeryLong w⟩ :: rulesUnder isVeryLong plainEndings

/-- The `e` at the end of a word. -/
def silentRule : Rule :=
  ⟨"e", "", fun w => isVeryLong w || measure w == 1 && !endsShort w⟩

/-- The second of two `l` at the end of a long word. -/
def doubleRule : Rule := ⟨"ll", "l", fun w => isVeryLong (w ++ bytesOf "l")⟩

/-! ## Stems -/

/-- The least number of bytes of a word that has endings. -/
def shortest : Nat := 3

/-- The greatest number of bytes of a word that has endings. -/
def longest : Nat := 64

/-- Takes all endings off a word. -/
def strip (w : Word) : Word :=
  let w := dropParticiple (replaceEnding pluralRules w)
  let w := replaceEnding finalRules w
  let w := replaceEnding doubleRules w
  let w := replaceEnding derivedRules w
  let w := replaceEnding plainRules w
  let w := replaceEnding [silentRule] w
  replaceEnding [doubleRule] w

/-- A word without its endings. Very short and very long words are left as they are. -/
def stem (w : Word) : Word :=
  if w.length < shortest ∨ longest < w.length then w else strip w

end EntityFinder.FullText.Stem
