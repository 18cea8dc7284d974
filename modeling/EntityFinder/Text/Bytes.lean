set_option autoImplicit false

/-!
# Texts as bytes

## Main definitions

* `EntityFinder.Text.bytesOf`: the bytes of a text.
* `EntityFinder.Text.ofBytes`: the text of some bytes.
* `EntityFinder.Text.byte`: the byte of an ASCII character.
-/

namespace EntityFinder.Text

/-- The bytes of a text. -/
def bytesOf (text : String) : List UInt8 :=
  text.toList.flatMap String.utf8EncodeChar

/-- The text that bytes stand for. Bytes that are no text are read one by one. -/
def ofBytes (bytes : List UInt8) : String :=
  match String.fromUTF8? ⟨bytes.toArray⟩ with
  | some text => text
  | none => String.ofList (bytes.map fun b => Char.ofNat b.toNat)

/-- The byte of an ASCII character. -/
def byte (c : Char) : UInt8 :=
  UInt8.ofNat c.toNat

end EntityFinder.Text
