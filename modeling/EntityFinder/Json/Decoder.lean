import EntityFinder.Json.Reading
import EntityFinder.Properties

set_option autoImplicit false

/-!
# Decoding JSON

Decoders turn what can be read of a text into a value of a given shape, or name the first fault.
They walk the text in its own order. An object is decoded by the keys that are known; other keys
are skipped together with their values, whatever these are. A structure may also be written as
the array of its fields.

## Main definitions

* `EntityFinder.Json.Decoder`: from a reading to a value or a fault.
* `EntityFinder.Json.string`, `EntityFinder.Json.bool`, `EntityFinder.Json.nodeId`,
  `EntityFinder.Json.texts`, `EntityFinder.Json.list`, `EntityFinder.Json.pair`: the shapes.
* `EntityFinder.Json.record`: a structure, given one slot per field.
* `EntityFinder.Json.Reading.skip`: the first fault of a value that nobody needs.
* `EntityFinder.Json.checkValue`: the first fault of a value of any shape.
* `EntityFinder.Json.decode`: decodes a whole text.
-/

namespace EntityFinder.Json

/-- Decodes what can be read of a value. -/
abbrev Decoder (α : Type) := Reading → Except Fault α

/-! ## Skipped values -/

mutual

/-- The first fault inside a value that is skipped. There a number without the digits that it needs
is malformed, even where the text ends. -/
def Reading.skip : Reading → Except Fault Unit
  | .null | .bool _ | .number _ => .ok ()
  | .string s => s.check
  | .array items => items.skip
  | .object fields => fields.skip
  | .unfinishedNumber => .error .malformed
  | .broken f => .error f

/-- The first fault inside items that are skipped. -/
def Items.skip : Items → Except Fault Unit
  | .closed => .ok ()
  | .broken f => .error f
  | .cons item rest => do
    item.skip
    rest.skip

/-- The first fault inside fields that are skipped. -/
def Fields.skip : Fields → Except Fault Unit
  | .closed => .ok ()
  | .broken f => .error f
  | .cons key value rest => do
    key.check
    value.skip
    rest.skip

end

/-! ## Values of any shape -/

/-- A number that may be used: one that double precision can hold. -/
def Numeral.usable (n : Numeral) : Except Fault Unit :=
  if n.isHuge then .error .malformed else .ok ()

mutual

/-- The first fault of a value whose shape does not matter, with at most `depth` brackets inside
one another. Strings have to have a meaning and numbers have to be usable. -/
def checkValue (depth : Nat) : Reading → Except Fault Unit
  | .null | .bool _ => .ok ()
  | .number n => n.usable
  | .string s => s.text.map fun _ => ()
  | .array items => if depth = 0 then .error .malformed else checkItems (depth - 1) items
  | .object fields => if depth = 0 then .error .malformed else checkFields (depth - 1) fields
  | .unfinishedNumber => .error .truncated
  | .broken f => .error f

/-- The first fault of items whose shape does not matter. -/
def checkItems (depth : Nat) : Items → Except Fault Unit
  | .closed => .ok ()
  | .broken f => .error f
  | .cons item rest => do
    checkValue depth item
    checkItems depth rest

/-- The first fault of fields whose shape does not matter. -/
def checkFields (depth : Nat) : Fields → Except Fault Unit
  | .closed => .ok ()
  | .broken f => .error f
  | .cons key value rest => do
    let _ ← key.text
    checkValue depth value
    checkFields depth rest

end

/-- How deep brackets may be nested in a value of any shape. -/
def depthLimit : Nat := 127

/-! ## Shapes -/

/-- The fault of a value that has another shape than the one asked for. A string or number is
looked at first, an array or object is not entered. -/
def wrongShape {α : Type} : Decoder α
  | .string s => do
    let _ ← s.text
    .error .mismatch
  | .number n => do
    n.usable
    .error .mismatch
  | .unfinishedNumber => .error .truncated
  | .broken f => .error f
  | _ => .error .mismatch

/-- A string. -/
def string : Decoder String
  | .string s => s.text
  | r => wrongShape r

/-- A truth value. -/
def bool : Decoder Bool
  | .bool b => .ok b
  | r => wrongShape r

/-- The least number that identifies a node. -/
def minId : Int := -0x8000000000000000

/-- The greatest number that identifies a node. -/
def maxId : Int := 0x7FFFFFFFFFFFFFFF

/-- The number of a node: an integer in the range of 64 bits. -/
def nodeId : Decoder Int
  | .number n => do
    n.usable
    match n.integer? with
    | some value => if minId ≤ value ∧ value ≤ maxId then .ok value else .error .mismatch
    | none => .error .mismatch
  | r => wrongShape r

/-- The fields of an object of texts, put into a bag from left to right. -/
def textFields (found : Properties) : Fields → Except Fault Properties
  | .closed => .ok found
  | .broken f => .error f
  | .cons key value rest => do
    let name ← key.text
    let text ← string value
    textFields (found.insert name text) rest

/-- An object of texts; the last text of a key counts. -/
def texts : Decoder Properties
  | .object fields => textFields .empty fields
  | r => wrongShape r

/-- The items of an array, each decoded in the same way. -/
def listItems {α : Type} (item : Decoder α) : Items → Except Fault (List α)
  | .closed => .ok []
  | .broken f => .error f
  | .cons r rest => do
    let a ← item r
    let as ← listItems item rest
    .ok (a :: as)

/-- An array of values of one shape. -/
def list {α : Type} (item : Decoder α) : Decoder (List α)
  | .array items => listItems item items
  | r => wrongShape r

/-- What must follow when all items that are wanted have been read. -/
def endOfItems : Items → Except Fault Unit
  | .closed => .ok ()
  | .broken f => .error f
  | .cons _ _ => .error .malformed

/-- The first of the items, and those after it; an array that ends here is too short. -/
def nextItem {α : Type} (item : Decoder α) : Items → Except Fault (α × Items)
  | .closed => .error .mismatch
  | .broken f => .error f
  | .cons r rest => do
    let a ← item r
    .ok (a, rest)

/-- An array of exactly two texts. -/
def pair : Decoder (String × String)
  | .array items => do
    let (a, items) ← nextItem string items
    let (b, items) ← nextItem string items
    endOfItems items
    .ok (a, b)
  | r => wrongShape r

/-! ## Structures -/

/-- One field of a structure that is being decoded into a draft of type `δ`. -/
structure Slot (δ : Type) where
  /-- The key of the field. -/
  name : String
  /-- Whether the draft has the field already. -/
  isSet : δ → Bool
  /-- Decodes the field into the draft. -/
  put : δ → Reading → Except Fault δ

/-- Decodes the fields of an object into a draft. A known key may occur once; the values of other
keys are skipped. -/
def fillByKey {δ : Type} (slots : List (Slot δ)) (draft : δ) : Fields → Except Fault δ
  | .closed => .ok draft
  | .broken f => .error f
  | .cons key value rest => do
    let name ← key.text
    match slots.find? (·.name == name) with
    | none =>
      value.skip
      fillByKey slots draft rest
    | some slot =>
      if slot.isSet draft then .error .mismatch
      else do
        let draft ← slot.put draft value
        fillByKey slots draft rest

/-- Decodes the items of an array into the slots in order. An array may end early. -/
def fillInOrder {δ : Type} (draft : δ) : List (Slot δ) → Items → Except Fault δ
  | [], items => do
    endOfItems items
    .ok draft
  | _ :: _, .closed => .ok draft
  | _ :: _, .broken f => .error f
  | slot :: slots, .cons r rest => do
    let draft ← slot.put draft r
    fillInOrder draft slots rest

/-- A structure, as an object or as an array; a draft that cannot be finished lacks a field. -/
def record {α δ : Type} (slots : List (Slot δ)) (start : δ) (finish : δ → Option α) :
    Decoder α
  | .object fields => do
    let draft ← fillByKey slots start fields
    match finish draft with
    | some a => .ok a
    | none => .error .mismatch
  | .array items => do
    let draft ← fillInOrder start slots items
    match finish draft with
    | some a => .ok a
    | none => .error .mismatch
  | r => wrongShape r

/-! ## Whole texts -/

/-- Decodes a text that holds one value and nothing else. -/
def decode {α : Type} (d : Decoder α) (text : String) : Except Fault α :=
  match Reading.ofText text with
  | (value, rest) => do
    let a ← d value
    if rest.isEmpty then .ok a else .error .malformed

end EntityFinder.Json
