import EntityFinder.FullText.Tokenizer

set_option autoImplicit false

/-!
# Declarations of tokenizers

A table declares its tokenizer by a name and arguments. They are words of ASCII letters, digits
and underscores and of characters beyond ASCII, or texts in quotes; blanks may stand between them.
The declaration itself is put between quotes, so a quote in it has to be doubled.

## Main definitions

* `EntityFinder.FullText.Tokenizer.arguments?`: the words of a declaration.
* `EntityFinder.FullText.Tokenizer.ofArguments`: the tokenizer that words stand for.
* `EntityFinder.FullText.Tokenizer.ofDeclaration`: the tokenizer that a table declares.
-/

namespace EntityFinder.FullText.Tokenizer

/-- Why a table cannot have the tokenizer that it declares. -/
inductive Fault where
  /-- There is no tokenizer of that name. -/
  | unknown (name : String)
  /-- The tokenizer does not take those arguments. -/
  | arguments
  /-- The declaration does not consist of words. -/
  | unreadable
  /-- A quote in the declaration ends it early. -/
  | endsEarly
  deriving DecidableEq, Repr

/-! ## Words -/

/-- The characters of words without quotes. -/
def isBare (c : Char) : Bool :=
  Text.isIdentifierPart c || c == '\x1a' || 0x80 ≤ c.toNat

/-- Reads a text up to its closing quote, and returns it with what follows. A doubled quote stands
for one. -/
def readQuoted? : List Char → Option (List Char × List Char)
  | [] => none
  | '\'' :: '\'' :: rest => (readQuoted? rest).map fun (text, rest) => ('\'' :: text, rest)
  | '\'' :: rest => some ([], rest)
  | c :: rest => (readQuoted? rest).map fun (text, rest) => (c :: text, rest)

/-- Reads one word, and returns it with what follows. -/
def readWord? : List Char → Option (List Char × List Char)
  | '\'' :: rest => readQuoted? rest
  | text =>
    match text.span isBare with
    | ([], _) => none
    | (word, rest) => some (word, rest)

/-- The words of a text that is not longer than a limit. -/
def argumentsWithin : Nat → List Char → Option (List String)
  | _, [] => some []
  | 0, _ => none
  | limit + 1, text =>
    match readWord? (text.dropWhile (· == ' ')) with
    | none => none
    | some (word, rest) =>
      (argumentsWithin limit (rest.dropWhile (· == ' '))).map (String.ofList word :: ·)

/-- The words of a text, if it consists of words. -/
def arguments? (text : List Char) : Option (List String) :=
  argumentsWithin (text.length + 1) text

/-- The text that a declaration stands for between quotes. -/
def unquoted (declaration : String) : Except Fault (List Char) :=
  match readQuoted? (declaration.toList ++ ['\'']) with
  | some (text, []) => .ok text
  | _ => .error .endsEarly

/-! ## Options -/

/-- Options and their values. -/
abbrev Options := List (String × String)

/-- Arguments in pairs; an option has to have a value. -/
def options? : List String → Option Options
  | [] => some []
  | [_] => none
  | name :: value :: rest => (options? rest).map ((name, value) :: ·)

/-- The characters that belong to words by name: the last option counts for a character of ASCII.
Another character changes sides if an option asks for the other side, and stays there. -/
def isExcepted (base : Char → Bool) (options : Options) (c : Char) : Bool :=
  let asked (name : String) : Option Bool :=
    if Text.sameName name "tokenchars" then some true
    else if Text.sameName name "separators" then some false
    else none
  let sides := options.filterMap fun (name, value) =>
    if c ∈ value.toList then asked name else none
  if c.toNat < 0x80 then (sides.getLast?).getD (base c)
  else if !Text.isDiacritic c && sides.contains (!base c) then !base c
  else base c

/-- What a digit says about diacritics. -/
def diacritics? : String → Option Diacritics
  | "0" => some .kept
  | "1" => some .dropped
  | "2" => some .droppedAll
  | _ => none

/-- The value of the last option with a name. -/
def lastValue? (name : String) (options : Options) : Option String :=
  (options.reverse.find? fun option => Text.sameName option.1 name).map Prod.snd

/-- Whether every option is one of some names. -/
def haveNames (names : List String) (options : Options) : Bool :=
  options.all fun option => names.any (Text.sameName option.1)

/-- Whether the values of all options with a name satisfy a condition. -/
def allValues (name : String) (condition : String → Bool) (options : Options) : Bool :=
  options.all fun option => !Text.sameName option.1 name || condition option.2

/-! ## Kinds -/

/-- A blank between patterns. -/
def isPatternBlank (c : Char) : Bool :=
  c == ' ' || c == '\t'

/-- The patterns in a text. -/
def patternsIn (text : List Char) : List (List Char) :=
  (text.splitBy fun a b => isPatternBlank a == isPatternBlank b).filter fun part =>
    !part.any isPatternBlank

/-- The categories that the patterns in a text stand for. -/
def categoriesIn? (text : String) : Option (List String) :=
  ((patternsIn text.toList).mapM Text.categoryCodes?).map List.flatten

/-- The patterns of the categories of words. -/
def usualCategories : String := "L* N* Co"

/-- Words in any script, with options. -/
def unicodeWith (options : Options) : Option Tokenizer :=
  let names := ["remove_diacritics", "tokenchars", "separators", "categories"]
  let isDigit value := (diacritics? value).isSome
  if haveNames names options ∧ allValues "remove_diacritics" isDigit options then
    (categoriesIn? ((lastValue? "categories" options).getD usualCategories)).map fun codes =>
      words (isExcepted (fun c => c != '\x00' && Text.inCategories codes c) options)
        (((lastValue? "remove_diacritics" options).bind diacritics?).getD .dropped)
  else none

/-- The characters of ASCII in a text. -/
def asciiOf (text : String) : String :=
  String.ofList (text.toList.filter (·.toNat < 0x80))

/-- Words in ASCII, with options. -/
def asciiWith (options : Options) : Option Tokenizer :=
  if haveNames ["tokenchars", "separators"] options then
    some (asciiWords (isExcepted isAsciiWordChar
      (options.map fun (name, value) => (name, asciiOf value))))
  else none

/-- Three characters each, with options. Diacritics can only go where case is folded. -/
def triplesWith (options : Options) : Option Tokenizer :=
  let isFlag value := value == "0" || value == "1"
  let isDigit value := (diacritics? value).isSome
  let keepsCase := lastValue? "case_sensitive" options == some "1"
  let drops := (lastValue? "remove_diacritics" options).any (· != "0")
  if !haveNames ["case_sensitive", "remove_diacritics"] options ∨
      !allValues "case_sensitive" isFlag options ∨
      !allValues "remove_diacritics" isDigit options ∨ keepsCase ∧ drops then none
  else if keepsCase then some (triples fun c => some (readForm c))
  else some (triples (foldedForm (if drops then .droppedAll else .kept)))

/-- The name of the tokenizer of stems. -/
def stemsName : String := "porter"

/-- The tokenizers that options are given to, by name. -/
def kinds : List (String × (Options → Option Tokenizer)) :=
  [("unicode61", unicodeWith), ("ascii", asciiWith), ("trigram", triplesWith)]

/-- The tokenizer that a name and arguments stand for. That of stems takes the name and the
arguments of another one. -/
def ofArguments (name : String) (arguments : List String) : Except Fault Tokenizer :=
  if Text.sameName name stemsName then
    match arguments with
    | [] => .ok (stems standard)
    | base :: rest =>
      match ofArguments base rest with
      | .ok t => .ok (stems t)
      | .error _ => .error .arguments
  else match kinds.find? fun kind => Text.sameName name kind.1 with
    | none => .error (.unknown name)
    | some (_, make) =>
      match (options? arguments).bind make with
      | some t => .ok t
      | none => .error .arguments
termination_by arguments.length

/-- The tokenizer that a table declares; a table that declares none has the usual one. -/
def ofDeclaration (declaration : String) : Except Fault Tokenizer := do
  let text ← unquoted declaration
  match arguments? text with
  | none => .error .unreadable
  | some [] => .ok standard
  | some (name :: arguments) => ofArguments name arguments

end EntityFinder.FullText.Tokenizer
