set_option autoImplicit false

/-!
# Ranges of characters

The tables of this folder list characters by their code points, as ranges and as ranges with a
stride: in the cased blocks every second character is a capital letter, so a stride of two keeps
the tables short.

## Main definitions

* `EntityFinder.Text.inRanges`: membership in a list of plain ranges.
* `EntityFinder.Text.inStrides`: membership in a list of ranges with a stride.
* `EntityFinder.Text.shift?`: the image of a character under a table of shifted ranges.
-/

namespace EntityFinder.Text

/-- Membership in one of the ranges `(first, last)`, ends included. -/
def inRanges (ranges : List (Nat × Nat)) (c : Char) : Bool :=
  ranges.any fun (first, last) => first ≤ c.toNat && c.toNat ≤ last

/-- Whether `n` is one of `first, first + step, …, last`. -/
def onStride (first last step n : Nat) : Bool :=
  first ≤ n && n ≤ last && (n - first) % step == 0

/-- Membership in one of the strides `(first, last, step)`. -/
def inStrides (strides : List (Nat × Nat × Nat)) (c : Char) : Bool :=
  strides.any fun (first, last, step) => onStride first last step c.toNat

/-- The image of `c` in the first of the shifted strides `(first, last, step, offset)` that holds
it, if one does. -/
def shift? (strides : List (Nat × Nat × Nat × Int)) (c : Char) : Option Char :=
  (strides.find? fun (first, last, step, _) => onStride first last step c.toNat).map
    fun (_, _, _, offset) => Char.ofNat ((c.toNat : Int) + offset).toNat

end EntityFinder.Text
