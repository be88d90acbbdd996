/-
PHP values as the extension sees them: byte strings, the C strings read out of them, the `int` a C
function keeps of a number, zvals, and the hash tables that hold an options array.
-/

import PhpQuic.Interact.Program
import Mathlib.Algebra.Group.Int.Defs
import Mathlib.Algebra.Group.Nat.Defs
import Mathlib.Data.List.TakeWhile

namespace PhpQuic

/-- A counted PHP string. -/
abbrev Bytes := List UInt8

/-- A source text as bytes. -/
def text (source : String) : Bytes := source.toList.map fun char => UInt8.ofNat char.toNat

/-- An integer as `printf` writes it. -/
def decimal (value : Int) : Bytes := text (toString value)

/-- What a C function sees of a string's bytes: everything before the first NUL. -/
def cString (bytes : Bytes) : Bytes := bytes.takeWhile (· ≠ 0)

def strlen (bytes : Bytes) : Nat := (cString bytes).length

/-- What `snprintf` leaves in a buffer of `size` bytes. -/
def snprintf (size : Nat) (formatted : Bytes) : Bytes := formatted.take (size - 1)

/-- A number as an `int` keeps it. -/
def toInt32 (value : Int) : Int := value.bmod (2 ^ 32)

/-- `tolower` of the C locale. -/
def tolower (char : UInt8) : UInt8 := if 65 ≤ char ∧ char ≤ 90 then char + 32 else char

/-- `strcasecmp(first, second) == 0`. -/
def strcaseeq (first second : Bytes) : Bool :=
  (cString first).map tolower = (cString second).map tolower

/-- A string has no NUL byte. -/
def NulFree (bytes : Bytes) : Prop := (0 : UInt8) ∉ bytes

instance (bytes : Bytes) : Decidable (NulFree bytes) := inferInstanceAs (Decidable (_ ∉ _))

theorem cString_eq_self {bytes : Bytes} (free : NulFree bytes) : cString bytes = bytes := by
  refine List.takeWhile_eq_self_iff.mpr fun byte member => ?_
  simp only [decide_eq_true_eq, ne_eq]
  rintro rfl
  exact free member

theorem cString_nulFree (bytes : Bytes) : NulFree (cString bytes) := by
  intro member
  simpa using List.mem_takeWhile_imp member

/-- The length test the code uses for embedded NUL bytes. -/
theorem strlen_eq_length_iff (bytes : Bytes) : strlen bytes = bytes.length ↔ NulFree bytes := by
  constructor
  · intro same
    have whole : cString bytes = bytes :=
      (List.takeWhile_prefix _).eq_of_length same
    exact whole ▸ cString_nulFree bytes
  · intro free
    rw [strlen, cString_eq_self free]

/-- An `int` that counts goes round. -/
theorem toInt32_add (value more : Int) : toInt32 (toInt32 value + more) = toInt32 (value + more) :=
  Int.bmod_add_bmod

theorem toInt32_eq_zero_iff (count : Nat) : toInt32 count = 0 ↔ count % 2 ^ 32 = 0 := by
  rw [toInt32, ← Int.dvd_iff_bmod_eq_zero, Int.natCast_dvd_natCast, Nat.dvd_iff_mod_eq_zero]

/-! ### Zvals -/

/-- A key of a PHP array. -/
inductive ArrayKey where
  | index (number : Int)
  | name (bytes : Bytes)
  deriving DecidableEq

/-- A PHP value. A double is its bit pattern; an object carries what its cast handler answers when
asked for a boolean (true for every ordinary class). An array is its live elements in order. -/
inductive Zval where
  | null
  | bool (value : Bool)
  | long (value : Int)
  | double (bits : BitVec 64)
  | string (bytes : Bytes)
  | array (elements : List (ArrayKey × Zval))
  | object (id : Nat) (truth : Bool)
  | resource (handle : Nat)
  | reference (target : Zval)

abbrev HashTable := List (ArrayKey × Zval)

/-- `zend_hash_str_find`: the value of a string key. The slot comes back as it is stored, a
reference not followed. -/
def zendHashStrFind (table : HashTable) (key : Bytes) : Option Zval := table.lookup (.name key)

/-- `zend_hash_index_find`. -/
def zendHashIndexFind (table : HashTable) (key : Int) : Option Zval := table.lookup (.index key)

/-- `ZVAL_DEREF`. -/
def zvalDeref : Zval → Zval
  | .reference target => zvalDeref target
  | value => value

/-- `zend_is_true`. -/
def zendIsTrue : Zval → Bool
  | .null => false
  | .bool value => value
  | .long value => value ≠ 0
  -- The sign bit does not count: minus zero is false, every NaN is true.
  | .double bits => bits <<< 1 ≠ 0
  | .string bytes => bytes ≠ [] ∧ bytes ≠ text "0"
  | .array elements => !elements.isEmpty
  | .object _ truth => truth
  | .resource handle => handle ≠ 0
  | .reference target => zendIsTrue target

/-- `ZEND_SUCCESS` or `FAILURE` with the text left in `errbuf`. -/
abbrev ZendResult (α : Type) := Except Bytes α

end PhpQuic
