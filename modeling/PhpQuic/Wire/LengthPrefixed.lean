/-
**Lists of byte strings on the wire, each behind one byte with its length.**

* `encode`: the wire form of a list.
* `decode`: the reader. It refuses bytes that end inside an item.
* `decode_encode`: items of at most 255 bytes come back, and every byte is used.
-/

import Mathlib.Algebra.GroupWithZero.Nat
import Mathlib.Data.List.Basic

namespace Wire

/-- One item on the wire. -/
def lengthPrefixed (item : List UInt8) : List UInt8 := UInt8.ofNat item.length :: item

def encode (items : List (List UInt8)) : List UInt8 := items.flatMap lengthPrefixed

/-- Read items until the bytes are used up. -/
def decode : List UInt8 → Option (List (List UInt8))
  | [] => some []
  | size :: rest =>
    if size.toNat ≤ rest.length then
      (decode (rest.drop size.toNat)).map (rest.take size.toNat :: ·)
    else none
termination_by bytes => bytes.length
decreasing_by
  rw [List.length_drop, List.length_cons]
  omega

theorem encode_cons (item : List UInt8) (items : List (List UInt8)) :
    encode (item :: items) = lengthPrefixed item ++ encode items :=
  List.flatMap_cons

/-- Each item takes its bytes and one more. -/
theorem encode_length (items : List (List UInt8)) :
    (encode items).length = (items.map fun item => item.length + 1).sum :=
  List.length_flatMap

/-- One item is read back in front of anything. -/
theorem decode_lengthPrefixed {item : List UInt8} (short : item.length ≤ 255)
    (rest : List UInt8) :
    decode (lengthPrefixed item ++ rest) = (decode rest).map (item :: ·) := by
  have size : (UInt8.ofNat item.length).toNat = item.length :=
    UInt8.toNat_ofNat_of_lt' (show item.length < 256 by omega)
  have inside : item.length ≤ (item ++ rest).length := by
    rw [List.length_append]
    omega
  show decode (UInt8.ofNat item.length :: (item ++ rest)) = _
  rw [decode, size, if_pos inside, List.drop_left, List.take_left]

/-- **The reader undoes the writer.** -/
theorem decode_encode {items : List (List UInt8)} (short : ∀ item ∈ items, item.length ≤ 255) :
    decode (encode items) = some items := by
  induction items with
  | nil => rw [encode, List.flatMap_nil, decode]
  | cons item items ih =>
      have rest := ih fun other member => short other (List.mem_cons_of_mem item member)
      rw [encode_cons, decode_lengthPrefixed (short item List.mem_cons_self), rest]
      rfl

end Wire
