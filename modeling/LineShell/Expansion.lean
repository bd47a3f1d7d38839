import LineShell.Failure

/-!
# Expansion of variables

A dollar sign before a name byte refers to a variable; `pieces` takes a text apart into
references and the bytes between them. `substitute` puts the values in place of the references:
they are inserted as they are and not read again, and a variable that is not set leaves nothing.
`expand` gives the beginning of that result which fits into the capacity.
-/

namespace LineShell

/-- A piece of a text before expansion. -/
inductive Piece where
  | byte (b : UInt8)
  | reference (name : Bytes)
  deriving DecidableEq, Repr

/-- No object is larger than this, one byte less than half of the address space. -/
def largestObject : Nat := 0x7fffffffffffffff

/-- An allocator that grants whatever leaves some of the address space to others. -/
def ampleMemory (size : Nat) : Bool := size < largestObject

/-- How references are read, how much of a result is kept, and for which sizes the allocator grants
memory. -/
structure ExpansionLimits where
  capacity : Nat
  nameMax : Nat
  grants : Nat → Bool := ampleMemory

namespace Piece

/-- The name that a reference takes from the bytes after its dollar sign: the longest run of name
bytes, but no more than `nameMax` of them. -/
def nameAt (nameMax : Nat) (rest : Bytes) : Bytes :=
  (rest.takeWhile Bytes.isNameByte).take nameMax

/-- Whether a dollar sign before these bytes refers to a variable. -/
def startsName (rest : Bytes) : Bool := rest.head?.any Bytes.isNameByte

/-- What a reference leaves of the bytes after its dollar sign is no longer than they are. -/
theorem length_drop_nameAt (nameMax : Nat) (rest : Bytes) :
    (rest.drop (nameAt nameMax rest).length).length ≤ rest.length := by
  simp

/-- The references of a text and the bytes between them, in order. -/
def ofText (nameMax : Nat) : Bytes → List Piece
  | [] => []
  | b :: rest =>
    if b == Bytes.dollar && startsName rest then
      .reference (nameAt nameMax rest) :: ofText nameMax (rest.drop (nameAt nameMax rest).length)
    else .byte b :: ofText nameMax rest
termination_by text => text.length
decreasing_by
  · exact Nat.lt_succ_of_le (length_drop_nameAt nameMax rest)
  · exact Nat.lt_succ_self _

/-- The bytes that a piece becomes. -/
def value (lookup : Bytes → Option Bytes) : Piece → Bytes
  | byte b => [b]
  | reference name => (lookup name).getD []

/-- The values of the pieces, in order, as far as there is room. -/
def fill (lookup : Bytes → Option Bytes) : Nat → List Piece → Bytes
  | 0, _ => []
  | _ + 1, [] => []
  | room + 1, piece :: rest =>
    let bytes := (piece.value lookup).take (room + 1)
    bytes ++ fill lookup (room + 1 - bytes.length) rest

end Piece

/-- The text with every reference replaced by the value of its variable, without a bound. -/
def substitute (nameMax : Nat) (lookup : Bytes → Option Bytes) (text : Bytes) : Bytes :=
  (Piece.ofText nameMax text).flatMap (Piece.value lookup)

namespace ExpansionLimits

/-- Whether memory for a result of this size can be reserved. An empty one takes none, and the
allocator is not asked for more than an object can have. -/
def reservable (limits : ExpansionLimits) : Bool :=
  limits.capacity = 0 || limits.capacity ≤ largestObject && limits.grants limits.capacity

/-- The expansion of a text. Its memory is reserved before the text is looked at. -/
def expand (limits : ExpansionLimits) (lookup : Bytes → Option Bytes) (text : Bytes) :
    Except ExpansionError Bytes :=
  if limits.reservable then
    .ok (Piece.fill lookup limits.capacity (Piece.ofText limits.nameMax text))
  else .error .outOfMemory

end ExpansionLimits

theorem Piece.fill_eq_take (lookup : Bytes → Option Bytes) (room : Nat) (pieces : List Piece) :
    fill lookup room pieces = (pieces.flatMap (value lookup)).take room := by
  induction pieces generalizing room with
  | nil => cases room <;> simp [fill]
  | cons piece rest ih =>
    cases room with
    | zero => simp [fill]
    | succ room =>
      simp only [fill, ih, List.flatMap_cons, List.take_append, List.length_take]
      congr 2
      omega

end LineShell
