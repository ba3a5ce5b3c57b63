import Mathlib.Tactic.Ring

/-!
# Statuses, `size_t` and flag words

The vocabulary every file of the library shares. A C function that can fail
returns a `robotraconteurlite_status`; here it returns an `Except` whose
errors are the negative codes of `err.h`, and `ROBOTRACONTEURLITE_ERROR_SUCCESS`
is `.ok`.

Offsets and counts are `size_t` in C and natural numbers here, so every
operation that can wrap says so: `addSz`, `subSz` and `mulSz` reduce modulo the
number of values `size_t` has. That number is a parameter because the library
runs on targets with 32-bit and with 64-bit `size_t`, and a bound that holds on
one can fail on the other.

Flag words are bit vectors and the three macros of `util.h` are functions on
them. A test after a set or a clear never needs the word itself, only whether
the two masks overlap, and the four lemmas at the end say so.
-/

namespace RobotRaconteurLite

/-- The failure codes of `err.h`. `undefined` is not one of them: it stands for
a step the C language gives no meaning to, such as an index past the end. -/
inductive Status
  | genericError
  | invalidArgument
  | invalidOperation
  | outOfRange
  | invalidVersion
  | dataError
  | keyNotFound
  | notImplemented
  | noMore
  | busy
  | noValue
  | timeout
  | protocol
  | messageElementNotFound
  | messageElementTypeMismatch
  | connectionError
  | retry
  | consumed
  | internalError
  | unhandledEvent
  | requestRemoteError
  | invalidParameter
  | systemError
  | memberNotFound
  | inProgress
  | undefined
  deriving DecidableEq, Repr

/-- What a function that can fail returns. -/
abbrev Result (α : Type) := Except Status α

/-! ## `size_t` -/

/-- The target's `size_t`, by how many values it has. Every target the library
supports has at least 32 bits. -/
class SizeT where
  modulus : Nat
  le_modulus : 2 ^ 32 ≤ modulus

/-- A 64-bit target. -/
@[reducible] def SizeT.lp64 : SizeT := ⟨2 ^ 64, by decide⟩

/-- A 32-bit target. -/
@[reducible] def SizeT.ilp32 : SizeT := ⟨2 ^ 32, by decide⟩

/-! Concrete runs open one of these namespaces to run on a 64-bit or a 32-bit target. -/

namespace Lp64

scoped instance : SizeT := SizeT.lp64

end Lp64

namespace Ilp32

scoped instance : SizeT := SizeT.ilp32

end Ilp32

section

variable [SizeT]

/-- `ROBOTRACONTEURLITE_SIZE_T_MAX`. -/
def sizeTMax : Nat := SizeT.modulus - 1

def addSz (a b : Nat) : Nat := (a + b) % SizeT.modulus

def subSz (a b : Nat) : Nat := (a + (SizeT.modulus - b % SizeT.modulus)) % SizeT.modulus

def mulSz (a b : Nat) : Nat := a * b % SizeT.modulus

theorem modulus_pos : 0 < SizeT.modulus := by
  have := SizeT.le_modulus
  omega

/-- What is no longer than an array of the source can be addressed. -/
theorem addressable_take {α : Type} (l : List α) : 2 * (l.take 128).length < SizeT.modulus := by
  have := SizeT.le_modulus
  have := List.length_take_le 128 l
  omega

theorem addSz_eq {a b : Nat} (h : a + b < SizeT.modulus) : addSz a b = a + b :=
  Nat.mod_eq_of_lt h

theorem mulSz_eq {a b : Nat} (h : a * b < SizeT.modulus) : mulSz a b = a * b :=
  Nat.mod_eq_of_lt h

theorem subSz_eq {a b : Nat} (h : b ≤ a) (ha : a < SizeT.modulus) : subSz a b = a - b := by
  rw [subSz, Nat.mod_eq_of_lt (by omega : b < SizeT.modulus),
    show a + (SizeT.modulus - b) = a - b + SizeT.modulus by omega, Nat.add_mod_right,
    Nat.mod_eq_of_lt (by omega)]

/-- A difference that goes below zero comes out near the top. -/
theorem subSz_wrap {a b : Nat} (h : a < b) (hb : b < SizeT.modulus) :
    subSz a b = a + SizeT.modulus - b := by
  rw [subSz, Nat.mod_eq_of_lt hb, Nat.mod_eq_of_lt (by omega)]
  omega

theorem addSz_lt (a b : Nat) : addSz a b < SizeT.modulus := Nat.mod_lt _ modulus_pos

theorem subSz_lt (a b : Nat) : subSz a b < SizeT.modulus := Nat.mod_lt _ modulus_pos

end

/-! ## Flag words -/

section

variable {w : Nat}

/-- `ROBOTRACONTEURLITE_FLAGS_CHECK`: some flag of the mask is set. -/
def flagsCheck (flags mask : BitVec w) : Bool := flags &&& mask != 0#w

/-- `ROBOTRACONTEURLITE_FLAGS_SET`. -/
def flagsSet (flags mask : BitVec w) : BitVec w := flags ||| mask

/-- `ROBOTRACONTEURLITE_FLAGS_CLEAR`. -/
def flagsClear (flags mask : BitVec w) : BitVec w := flags &&& ~~~mask

theorem flagsSet_and_of_disjoint {flags m n : BitVec w} (h : m &&& n = 0#w) :
    flagsSet flags m &&& n = flags &&& n := by
  have hand : (flags ||| m) &&& n = (flags &&& n) ||| (m &&& n) := by
    ext i hi
    simp only [BitVec.getElem_and, BitVec.getElem_or]
    cases flags[i] <;> cases m[i] <;> cases n[i] <;> rfl
  rw [flagsSet, hand, h, BitVec.or_zero]

theorem flagsClear_and_of_disjoint {flags m n : BitVec w} (h : m &&& n = 0#w) :
    flagsClear flags m &&& n = flags &&& n := by
  rw [flagsClear]
  ext i hi
  have hbit := congrArg (fun v : BitVec w => v.getLsbD i) h
  simp only [BitVec.getLsbD_and, BitVec.getLsbD_zero] at hbit
  simp only [← BitVec.getLsbD_eq_getElem, BitVec.getLsbD_and, BitVec.getLsbD_not, hi,
    decide_true, Bool.true_and]
  cases hm : m.getLsbD i <;> cases hn : n.getLsbD i <;> simp_all

theorem flagsCheck_set_of_disjoint {flags m n : BitVec w} (h : m &&& n = 0#w) :
    flagsCheck (flagsSet flags m) n = flagsCheck flags n := by
  rw [flagsCheck, flagsCheck, flagsSet_and_of_disjoint h]

theorem flagsCheck_set_of_overlap {flags m n : BitVec w} (h : m &&& n ≠ 0#w) :
    flagsCheck (flagsSet flags m) n = true := by
  rw [flagsCheck, flagsSet, bne_iff_ne]
  intro hz
  apply h
  ext i hi
  have hbit := congrArg (fun v : BitVec w => v.getLsbD i) hz
  simp only [BitVec.getLsbD_and, BitVec.getLsbD_or, BitVec.getLsbD_zero] at hbit
  rw [← BitVec.getLsbD_eq_getElem, ← BitVec.getLsbD_eq_getElem, BitVec.getLsbD_and,
    BitVec.getLsbD_zero]
  cases hm : m.getLsbD i <;> cases hn : n.getLsbD i <;> simp_all

theorem flagsCheck_clear_of_disjoint {flags m n : BitVec w} (h : m &&& n = 0#w) :
    flagsCheck (flagsClear flags m) n = flagsCheck flags n := by
  rw [flagsCheck, flagsCheck, flagsClear_and_of_disjoint h]

theorem flagsCheck_clear_of_subset {flags m n : BitVec w} (h : ~~~m &&& n = 0#w) :
    flagsCheck (flagsClear flags m) n = false := by
  rw [flagsCheck, flagsClear, BitVec.and_assoc, h, BitVec.and_zero, bne_self_eq_false]

theorem flagsCheck_set_of_flagsCheck {flags m n : BitVec w} (h : flagsCheck flags n = true) :
    flagsCheck (flagsSet flags m) n = true := by
  rw [flagsSet, BitVec.or_comm]
  rw [flagsCheck, bne_iff_ne] at h
  exact flagsCheck_set_of_overlap h

theorem flagsCheck_of_subset {flags m n : BitVec w} (h : n &&& m = m)
    (hm : flagsCheck flags m = true) : flagsCheck flags n = true := by
  rw [flagsCheck, bne_iff_ne] at hm ⊢
  intro hn
  apply hm
  rw [← h, ← BitVec.and_assoc, hn, BitVec.zero_and]

/-! A mask picks the flags a proof is about out of a word, and sets, clears and
checks of those flags can be done on what it picks. -/

theorem flagsCheck_and {flags mask m : BitVec w} (h : mask &&& m = m) :
    flagsCheck (flags &&& mask) m = flagsCheck flags m := by
  rw [flagsCheck, flagsCheck, BitVec.and_assoc, h]

theorem flagsSet_and {flags mask m : BitVec w} (h : mask &&& m = m) :
    flagsSet flags m &&& mask = flagsSet (flags &&& mask) m := by
  rw [flagsSet, flagsSet]
  ext i hi
  have hbit := congrArg (fun v : BitVec w => v.getLsbD i) h
  simp only [BitVec.getLsbD_and] at hbit
  simp only [← BitVec.getLsbD_eq_getElem, BitVec.getLsbD_and, BitVec.getLsbD_or]
  cases hm : m.getLsbD i <;> cases hk : mask.getLsbD i <;> simp_all

theorem flagsMerge_and (a b mask : BitVec w) :
    ((a &&& ~~~mask) ||| (b &&& mask)) &&& mask = b &&& mask := by
  ext i hi
  simp only [BitVec.getElem_and, BitVec.getElem_or, BitVec.getElem_not]
  cases a[i] <;> cases b[i] <;> cases mask[i] <;> rfl

theorem flagsClear_and (flags mask m : BitVec w) :
    flagsClear flags m &&& mask = flagsClear (flags &&& mask) m := by
  rw [flagsClear, flagsClear, BitVec.and_assoc, BitVec.and_assoc, BitVec.and_comm (~~~m)]

end

end RobotRaconteurLite
