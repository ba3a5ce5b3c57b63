import RobotRaconteurLite.Base

/-!
# Strings (`array.c`)

A string is the list of its bytes. Comparison and hash are as the C has them:
the shorter string is the smaller one, and the hash looks at the length and at
three bytes only.
-/

namespace RobotRaconteurLite

/-- `memcmp` over the first `n` bytes: the first difference decides. -/
def memcmp : Nat → List UInt8 → List UInt8 → Int
  | n + 1, x :: xs, y :: ys => if x = y then memcmp n xs ys else (x.toNat : Int) - y.toNat
  | _, _, _ => 0

def stringCmp (str1 str2 : List UInt8) : Int :=
  if str1.length = 0 ∧ str2.length = 0 then 0
  else if str1.length < str2.length then -1
  else if str1.length > str2.length then 1
  else memcmp str1.length str1 str2

/-- The conversion of a `char`, which is signed. -/
def charToU32 (c : UInt8) : BitVec 32 := c.toBitVec.signExtend 32

def stringHash (str : List UInt8) : BitVec 32 :=
  let strLen := str.length % 2 ^ 32
  let low := BitVec.ofNat 32 strLen &&& 0xFFFF#32
  match strLen with
  | 0 => 0#32
  | 1 => low ||| (charToU32 (str.getD 0 0) <<< 24)
  | 2 => low ||| (charToU32 (str.getD 0 0) <<< 24) ||| (charToU32 (str.getD 1 0) <<< 16)
  | n => low ||| (charToU32 (str.getD 0 0) <<< 24) |||
      ((charToU32 (str.getD (n - 1) 0) ^^^ charToU32 (str.getD (n - 2) 0)) <<< 16)

theorem memcmp_eq_zero_iff {n : Nat} {xs ys : List UInt8} (hx : n ≤ xs.length)
    (hy : n ≤ ys.length) : memcmp n xs ys = 0 ↔ xs.take n = ys.take n := by
  induction n generalizing xs ys with
  | zero => simp [memcmp]
  | succ n ih =>
      cases xs with
      | nil => simp at hx
      | cons x xs =>
          cases ys with
          | nil => simp at hy
          | cons y ys =>
              simp only [List.length_cons, Nat.add_le_add_iff_right] at hx hy
              rw [memcmp, List.take_succ_cons, List.take_succ_cons, List.cons.injEq]
              by_cases hxy : x = y
              · rw [if_pos hxy, ih hx hy, and_iff_right hxy]
              · have hne : x.toNat ≠ y.toNat := fun h => hxy (UInt8.toNat_inj.mp h)
                rw [if_neg hxy]
                constructor
                · intro h
                  omega
                · intro h
                  exact absurd h.1 hxy

theorem stringCmp_eq_zero_iff {str1 str2 : List UInt8} : stringCmp str1 str2 = 0 ↔ str1 = str2 := by
  have hne : str1.length ≠ str2.length → str1 ≠ str2 := fun h heq => h (by rw [heq])
  rw [stringCmp]
  split
  case isTrue h =>
    rw [List.length_eq_zero_iff, List.length_eq_zero_iff] at h
    simp [h.1, h.2]
  case isFalse =>
    split
    · exact iff_of_false (by omega) (hne (by omega))
    · split
      · exact iff_of_false (by omega) (hne (by omega))
      · have hlen : str1.length = str2.length := by omega
        rw [memcmp_eq_zero_iff (Nat.le_refl _) (by omega), List.take_length, hlen, List.take_length]

end RobotRaconteurLite
