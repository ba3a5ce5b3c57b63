import Mathlib.Logic.Equiv.Defs
import RobotRaconteurLite.Lib.LittleEndian
import RobotRaconteurLite.Lib.Splice

/-!
# Arrays of items of one size

What a C array of some type is to `memcpy`: the bytes of its items, one after
the other. A codec says how many bytes an item has and which ones, and an item
survives being laid out and taken up again. So does an array (`items_bytes`),
and an array that was laid over the start of another is the array with those
items in place of the first ones (`overwrite_bytes`).
-/

/-- How the items of a type lie in memory. -/
structure ItemCodec (α : Type) where
  size : Nat
  size_pos : 0 < size
  toBytes : α → List UInt8
  ofBytes : List UInt8 → α
  length_toBytes : ∀ a, (toBytes a).length = size
  ofBytes_toBytes : ∀ a, ofBytes (toBytes a) = a

namespace ItemCodec

open LittleEndian Splice

variable {α β : Type}

/-- A word of so many bytes, least significant first. -/
def word (size : Nat) (hsize : 0 < size) : ItemCodec (BitVec (8 * size)) where
  size := size
  size_pos := hsize
  toBytes a := leBytes size a.toNat
  ofBytes bs := BitVec.ofNat _ (leNat bs)
  length_toBytes _ := length_leBytes _ _
  ofBytes_toBytes a := by
    have hlt : a.toNat < 256 ^ size := by
      have h256 : (256 : Nat) ^ size = 2 ^ (8 * size) := by
        rw [show (256 : Nat) = 2 ^ 8 from rfl, ← Nat.pow_mul]
      rw [h256]
      exact a.isLt
    rw [leNat_leBytes hlt, BitVec.ofNat_toNat, BitVec.setWidth_eq]

/-- A type whose values are those of another under another name. -/
def ofEquiv (e : α ≃ β) (codec : ItemCodec β) : ItemCodec α where
  size := codec.size
  size_pos := codec.size_pos
  toBytes a := codec.toBytes (e a)
  ofBytes bs := e.symm (codec.ofBytes bs)
  length_toBytes a := codec.length_toBytes (e a)
  ofBytes_toBytes a := by rw [codec.ofBytes_toBytes, e.symm_apply_apply]

/-- Two items, one behind the other. -/
def pair (first : ItemCodec α) (second : ItemCodec β) : ItemCodec (α × β) where
  size := first.size + second.size
  size_pos := Nat.add_pos_left first.size_pos _
  toBytes a := first.toBytes a.1 ++ second.toBytes a.2
  ofBytes bs := (first.ofBytes (bs.take first.size), second.ofBytes (bs.drop first.size))
  length_toBytes a := by
    rw [List.length_append, first.length_toBytes, second.length_toBytes]
  ofBytes_toBytes a := by
    rw [List.take_left' (first.length_toBytes a.1), List.drop_left' (first.length_toBytes a.1),
      first.ofBytes_toBytes, second.ofBytes_toBytes]

/-- The bytes of an array. -/
def bytes (codec : ItemCodec α) (values : List α) : List UInt8 := values.flatMap codec.toBytes

/-- The first items that lie in these bytes. -/
def items (codec : ItemCodec α) : Nat → List UInt8 → List α
  | 0, _ => []
  | n + 1, bs => codec.ofBytes (bs.take codec.size) :: codec.items n (bs.drop codec.size)

variable (codec : ItemCodec α)

@[simp] theorem bytes_nil : codec.bytes [] = [] := rfl

@[simp] theorem bytes_cons (a : α) (values : List α) :
    codec.bytes (a :: values) = codec.toBytes a ++ codec.bytes values := rfl

@[simp] theorem bytes_append (values values' : List α) :
    codec.bytes (values ++ values') = codec.bytes values ++ codec.bytes values' :=
  List.flatMap_append

@[simp] theorem length_bytes (values : List α) :
    (codec.bytes values).length = values.length * codec.size := by
  induction values with
  | nil => simp
  | cons a values ih =>
      rw [bytes_cons, List.length_append, codec.length_toBytes, ih, List.length_cons,
        Nat.succ_mul, Nat.add_comm]

theorem items_bytes (values : List α) : codec.items values.length (codec.bytes values) = values := by
  induction values with
  | nil => rfl
  | cons a values ih =>
      have hlength := codec.length_toBytes a
      rw [List.length_cons, items, bytes_cons, List.take_left' hlength, List.drop_left' hlength,
        codec.ofBytes_toBytes, ih]

theorem bytes_drop (n : Nat) (values : List α) :
    codec.bytes (values.drop n) = (codec.bytes values).drop (n * codec.size) := by
  induction n generalizing values with
  | zero => simp
  | succ n ih =>
      cases values with
      | nil => simp
      | cons a values =>
          rw [List.drop_succ_cons, ih, bytes_cons, Nat.succ_mul, Nat.add_comm, ← List.drop_drop,
            List.drop_left' (codec.length_toBytes a)]

/-- An array laid over the start of another. -/
theorem overwrite_bytes (dest values : List α) :
    overwrite (codec.bytes dest) 0 (codec.bytes values) =
      codec.bytes (values ++ dest.drop values.length) := by
  rw [overwrite, bytes_append, bytes_drop, length_bytes, List.take_zero, List.nil_append,
    Nat.zero_add]

end ItemCodec
