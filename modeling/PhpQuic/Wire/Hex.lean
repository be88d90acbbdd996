/-
**Byte strings written in hexadecimal, in either letter case.**

* `hexValue`: the number a digit stands for.
* `decodeHex`: the reader. It refuses a character that is no digit and an odd number of digits.
* `decodeHex_eq_some_iff`: what a text says, digit by digit.
-/

import Mathlib.Data.List.Basic

namespace Wire

/-- The number a hexadecimal digit stands for. -/
def hexValue (char : UInt8) : Option Nat :=
  if 48 ≤ char ∧ char ≤ 57 then some (char.toNat - 48)
  else if 65 ≤ char ∧ char ≤ 70 then some (char.toNat - 55)
  else if 97 ≤ char ∧ char ≤ 102 then some (char.toNat - 87)
  else none

/-- Read two digits a byte, the higher one first. -/
def decodeHex : List UInt8 → Option (List UInt8)
  | [] => some []
  | [_] => none
  | high :: low :: rest =>
    match hexValue high, hexValue low, decodeHex rest with
    | some upper, some lower, some bytes => some (UInt8.ofNat (16 * upper + lower) :: bytes)
    | _, _, _ => none

/-- What the two digits of a byte stand for. -/
def nibbles (byte : UInt8) : List (Option Nat) := [some (byte.toNat / 16), some (byte.toNat % 16)]

theorem hexValue_lt {char : UInt8} {digit : Nat} (value : hexValue char = some digit) :
    digit < 16 := by
  simp only [hexValue, UInt8.le_iff_toNat_le, UInt8.reduceToNat] at value
  split at value
  · cases value
    omega
  split at value
  · cases value
    omega
  split at value
  · cases value
    omega
  · cases value

/-- Two digits make the byte that has them. -/
theorem ofNat_eq_iff {upper lower : Nat} (high : upper < 16) (low : lower < 16) (byte : UInt8) :
    UInt8.ofNat (16 * upper + lower) = byte ↔ upper = byte.toNat / 16 ∧ lower = byte.toNat % 16 := by
  have whole : (UInt8.ofNat (16 * upper + lower)).toNat = 16 * upper + lower :=
    UInt8.toNat_ofNat_of_lt' (show 16 * upper + lower < 256 by omega)
  rw [← UInt8.toNat_inj, whole]
  omega

/-- The reader takes two digits for each byte. -/
theorem decodeHex_pair_iff (high low byte : UInt8) (rest bytes : List UInt8) :
    decodeHex (high :: low :: rest) = some (byte :: bytes) ↔
      [hexValue high, hexValue low] = nibbles byte ∧ decodeHex rest = some bytes := by
  simp only [decodeHex, nibbles, List.cons.injEq, and_true]
  split
  · rename_i upper lower others first second third
    rw [first, second, third, Option.some.injEq, Option.some.injEq, Option.some.injEq,
      Option.some.injEq, List.cons.injEq, ofNat_eq_iff (hexValue_lt first) (hexValue_lt second)]
  · rename_i missing
    refine iff_of_false nofun fun ⟨⟨first, second⟩, third⟩ => ?_
    exact missing _ _ _ first second third

/-- **A text says these bytes** exactly if its characters are their digits, in order. -/
theorem decodeHex_eq_some_iff (source bytes : List UInt8) :
    decodeHex source = some bytes ↔ source.map hexValue = bytes.flatMap nibbles := by
  induction bytes generalizing source with
  | nil =>
      rw [List.flatMap_nil, List.map_eq_nil_iff]
      constructor
      · intro read
        unfold decodeHex at read
        split at read
        · rfl
        · cases read
        · split at read <;> cases read
      · rintro rfl
        rfl
  | cons byte bytes ih =>
      match source with
      | [] => exact iff_of_false nofun nofun
      | [_] => exact iff_of_false nofun (by simp [nibbles])
      | high :: low :: rest =>
          rw [decodeHex_pair_iff, ih]
          show _ ↔ [hexValue high, hexValue low] ++ rest.map hexValue = nibbles byte ++ bytes.flatMap nibbles
          exact ⟨fun both => by rw [both.1, both.2], fun same => List.append_inj same rfl⟩

end Wire
