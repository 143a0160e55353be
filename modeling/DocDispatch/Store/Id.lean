/-!
# Store/Id — ids for new documents

An id is 32 hexadecimal digits: 122 free bits, with the digit 4 and the two bits 10 at fixed places.
-/

namespace DocDispatch.DocumentId

/-- The `count` lowest hexadecimal digits of a number. -/
def hexDigits (count n : Nat) : List Char :=
  ((List.range count).map fun i => Nat.digitChar (n / Nat.pow 16 i % 16)).reverse

/-- Where the lowest free bits end: 2⁶². -/
def lowEnd : Nat := 0x4000000000000000

/-- **The id with the given free bits**, of which the lowest 122 count. -/
def ofBits (n : Nat) : String :=
  String.ofList (hexDigits 12 (n / lowEnd / 0x1000) ++ '4' :: hexDigits 3 (n / lowEnd) ++
    hexDigits 16 (2 * lowEnd + n % lowEnd))

end DocDispatch.DocumentId
