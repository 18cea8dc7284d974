import EntityFinder.Text.Bytes

set_option autoImplicit false

/-!
# Uniform resource identifiers

An identifier of a file has the scheme `file`, perhaps an authority, a path, and perhaps a query
of named values. In each of these a percent sign and two hexadecimal digits stand for one byte. A
byte of value zero ends the part that it stands in, and a number sign ends the whole identifier.

## Main definitions

* `EntityFinder.Text.Uri`: an identifier in its parts.
* `EntityFinder.Text.Uri.ofText?`: the identifier in a text, if the text has the scheme.
* `EntityFinder.Text.Uri.value?`: the value of a name.
* `EntityFinder.Text.percentDecode`: the bytes that a part stands for.
-/

namespace EntityFinder.Text

/-! ## Bytes -/

/-- The value of a hexadecimal digit. -/
def hexValue? (b : UInt8) : Option Nat :=
  if byte '0' ≤ b && b ≤ byte '9' then some (b.toNat - 48)
  else if byte 'a' ≤ b && b ≤ byte 'f' then some (b.toNat - 87)
  else if byte 'A' ≤ b && b ≤ byte 'F' then some (b.toNat - 55)
  else none

/-- The byte that two hexadecimal digits stand for. -/
def hexByte? (high low : UInt8) : Option UInt8 :=
  match hexValue? high, hexValue? low with
  | some h, some l => some (UInt8.ofNat (16 * h + l))
  | _, _ => none

/-- The bytes that a part of an identifier stands for, up to one of value zero. -/
def percentDecode : List UInt8 → List UInt8
  | [] => []
  | [b] => [b]
  | [b, c] => [b, c]
  | b :: high :: low :: rest =>
    if b = byte '%' then
      match hexByte? high low with
      | none => b :: percentDecode (high :: low :: rest)
      | some 0 => []
      | some decoded => decoded :: percentDecode rest
    else b :: percentDecode (high :: low :: rest)

/-- What comes before the first byte of a value, and what comes after it. -/
def splitFirst (b : UInt8) (bytes : List UInt8) : List UInt8 × Option (List UInt8) :=
  match bytes.span (· != b) with
  | (before, []) => (before, none)
  | (before, _ :: after) => (before, some after)

/-- The parts of a list between the bytes of a value. -/
def splitAll (b : UInt8) : List UInt8 → List (List UInt8)
  | [] => [[]]
  | c :: rest =>
    if c = b then [] :: splitAll b rest
    else match splitAll b rest with
      | [] => [[c]]
      | part :: parts => (c :: part) :: parts

/-! ## Identifiers -/

/-- An identifier of a file. -/
structure Uri where
  /-- The machine that the file is on; the empty text is this one. -/
  authority : String
  /-- The path of the file. -/
  path : String
  /-- The names and values of the query. -/
  query : List (String × String)
  deriving DecidableEq, Repr

namespace Uri

/-- What an identifier begins with. -/
def scheme : List UInt8 := bytesOf "file:"

/-- The name and the value of a part of a query. A name without an equals sign has the empty
value. -/
def parameter (part : List UInt8) : String × String :=
  match splitFirst (byte '=') part with
  | (name, value) =>
    (ofBytes (percentDecode name), ofBytes (percentDecode (value.getD [])))

/-- The names and values of a query. Parts without a name do not count. -/
def parameters (query : List UInt8) : List (String × String) :=
  ((splitAll (byte '&') query).map parameter).filter fun p => p.1 ≠ ""

/-- Reads a path and a query. -/
def ofParts (authority path : List UInt8) : Uri :=
  match splitFirst (byte '?') (splitFirst (byte '#') path).1 with
  | (path, query) =>
    ⟨ofBytes authority, ofBytes (percentDecode path), (query.map parameters).getD []⟩

/-- Reads what follows the scheme. An authority begins with two slashes and ends at the next. -/
def ofRest (rest : List UInt8) : Uri :=
  let slash := byte '/'
  match rest with
  | a :: b :: more =>
    if a = slash ∧ b = slash then
      ofParts (more.takeWhile (· != slash)) (more.dropWhile (· != slash))
    else ofParts [] rest
  | _ => ofParts [] rest

/-- The identifier in a text, if the text has the scheme. -/
def ofText? (text : String) : Option Uri :=
  let bytes := bytesOf text
  if scheme.isPrefixOf bytes then some (ofRest (bytes.drop scheme.length)) else none

/-- The value of a name; of several the first counts. -/
def value? (uri : Uri) (name : String) : Option String :=
  uri.query.lookup name

end Uri

end EntityFinder.Text
