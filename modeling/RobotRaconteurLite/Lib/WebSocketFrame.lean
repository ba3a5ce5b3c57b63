import Mathlib.Data.List.Basic
import RobotRaconteurLite.Lib.LittleEndian

/-!
# WebSocket data frames

A final binary frame is two bytes, the length of the payload where the second byte
has no room for it, a key of four bytes if the payload is masked, and the payload.
The length can be written in seven, sixteen or sixty-four bits, most significant
byte first, and masking is an exclusive or with the key over and over.

Frames can be told from the bytes they are sent as: two sequences of bytes that
start with a frame and are the same start with the same frame
(`Frame.encode_append_inj`).
-/

namespace WebSocket

open LittleEndian

/-! ## Masks -/

/-- The bytes masked with a key, from place `pos` of the payload on. Masking them again gives
them back. -/
def mask (key : List UInt8) : Nat → List UInt8 → List UInt8
  | _, [] => []
  | pos, b :: bs => (b ^^^ key.getD (pos % 4) 0) :: mask key (pos + 1) bs

variable {key : List UInt8} {pos : Nat}

@[simp] theorem mask_nil : mask key pos [] = [] := rfl

@[simp] theorem length_mask (bs : List UInt8) : (mask key pos bs).length = bs.length := by
  induction bs generalizing pos with
  | nil => rfl
  | cons b bs ih => rw [mask, List.length_cons, List.length_cons, ih]

@[simp] theorem mask_mask (bs : List UInt8) : mask key pos (mask key pos bs) = bs := by
  induction bs generalizing pos with
  | nil => rfl
  | cons b bs ih => rw [mask, mask, ih, UInt8.xor_assoc, UInt8.xor_self, UInt8.xor_zero]

theorem mask_inj {bs cs : List UInt8} (h : mask key pos bs = mask key pos cs) : bs = cs := by
  rw [← @mask_mask key pos bs, h, mask_mask]

theorem take_mask (n : Nat) (bs : List UInt8) :
    (mask key pos bs).take n = mask key pos (bs.take n) := by
  induction bs generalizing pos n with
  | nil => simp
  | cons b bs ih =>
      cases n with
      | zero => rfl
      | succ n => rw [mask, List.take_succ_cons, ih, List.take_succ_cons, mask]

theorem drop_mask (n : Nat) (bs : List UInt8) :
    (mask key pos bs).drop n = mask key (pos + n) (bs.drop n) := by
  induction bs generalizing pos n with
  | nil => simp
  | cons b bs ih =>
      cases n with
      | zero => rfl
      | succ n => rw [mask, List.drop_succ_cons, ih, List.drop_succ_cons, Nat.add_right_comm,
          Nat.add_assoc]

/-- A key that is zero wherever it is used masks nothing. -/
theorem mask_eq_self {bs : List UInt8}
    (h : ∀ i < bs.length, key.getD ((pos + i) % 4) 0 = 0) : mask key pos bs = bs := by
  induction bs generalizing pos with
  | nil => rfl
  | cons b bs ih =>
      have hfirst := h 0 (Nat.zero_lt_succ _)
      rw [Nat.add_zero] at hfirst
      rw [mask, hfirst, UInt8.xor_zero, ih]
      intro i hi
      rw [Nat.add_right_comm, Nat.add_assoc]
      exact h (i + 1) (Nat.succ_lt_succ hi)

/-- A key of zeros masks nothing. -/
theorem mask_zero {n : Nat} (bs : List UInt8) : mask (List.replicate n 0) pos bs = bs := by
  refine mask_eq_self fun i _ => ?_
  rw [List.getD_eq_getElem?_getD, List.getElem?_replicate]
  split <;> rfl

/-! ## Frames -/

/-- How the length of a payload is written. -/
inductive LengthForm
  | short
  | medium
  | long
  deriving DecidableEq, Repr

/-- How many bytes of length follow the second byte. -/
def LengthForm.width : LengthForm → Nat
  | .short => 0
  | .medium => 2
  | .long => 8

@[ext] structure Frame where
  form : LengthForm
  key : Option (List UInt8)
  payload : List UInt8
  deriving DecidableEq, Repr

namespace Frame

variable {f g : Frame}

/-- The seven bits that say how long the payload is, or where to find it. -/
def lengthCode (f : Frame) : UInt8 :=
  match f.form with
  | .short => UInt8.ofNat f.payload.length
  | .medium => 126
  | .long => 127

/-- The length has room in its form, and a key has four bytes. -/
structure WellFormed (f : Frame) : Prop where
  length_lt : match f.form with
    | .short => f.payload.length < 126
    | .medium => f.payload.length < 2 ^ 16
    | .long => f.payload.length < 2 ^ 64
  key_length : ∀ key, f.key = some key → key.length = 4

def secondByte (f : Frame) : UInt8 :=
  f.lengthCode ||| if f.key.isSome then 0x80 else 0

/-- The length behind the second byte, most significant byte first. -/
def extendedLength (f : Frame) : List UInt8 :=
  (leBytes f.form.width f.payload.length).reverse

def header (f : Frame) : List UInt8 :=
  [0x82, f.secondByte] ++ f.extendedLength ++ f.key.getD []

/-- The payload as it is sent. -/
def body (f : Frame) : List UInt8 :=
  match f.key with
  | none => f.payload
  | some key => mask key 0 f.payload

def encode (f : Frame) : List UInt8 := f.header ++ f.body

@[simp] theorem length_body (f : Frame) : f.body.length = f.payload.length := by
  rw [body]
  split
  · rfl
  · exact length_mask _

@[simp] theorem length_extendedLength (f : Frame) :
    f.extendedLength.length = f.form.width := by
  rw [extendedLength, List.length_reverse, length_leBytes]

theorem WellFormed.length_key (h : f.WellFormed) :
    (f.key.getD []).length = if f.key.isSome then 4 else 0 := by
  cases hkey : f.key with
  | none => rfl
  | some key => exact h.key_length key hkey

theorem WellFormed.length_header (h : f.WellFormed) :
    f.header.length = 2 + f.form.width + if f.key.isSome then 4 else 0 := by
  rw [header, List.length_append, List.length_append, length_extendedLength, h.length_key]
  rfl

/-! ## Reading a frame back -/

theorem WellFormed.lengthCode_toNat (h : f.WellFormed) :
    f.lengthCode.toNat = match f.form with
      | .short => f.payload.length
      | .medium => 126
      | .long => 127 := by
  have hlen := h.length_lt
  rw [lengthCode]
  cases hform : f.form with
  | short =>
      rw [hform] at hlen
      dsimp only at hlen ⊢
      rw [UInt8.toNat_ofNat']
      omega
  | medium => rfl
  | long => rfl

theorem WellFormed.lengthCode_lt (h : f.WellFormed) : f.lengthCode.toNat < 128 := by
  have hlen := h.length_lt
  rw [h.lengthCode_toNat]
  cases hform : f.form with
  | short =>
      rw [hform] at hlen
      dsimp only at hlen ⊢
      omega
  | medium => exact (by omega : 126 < 128)
  | long => exact (by omega : 127 < 128)

/-- The seven bits of the length and the mask bit do not get in each other's way. -/
theorem WellFormed.secondByte_and (h : f.WellFormed) :
    f.secondByte &&& 0x7F = f.lengthCode ∧
      f.secondByte &&& 0x80 = if f.key.isSome then 0x80 else 0 := by
  have hcode : ∀ n : Fin 128, ∀ masked : Bool,
      (UInt8.ofNat n ||| if masked then 0x80 else 0) &&& 0x7F = UInt8.ofNat n ∧
      (UInt8.ofNat n ||| if masked then 0x80 else 0) &&& 0x80 =
        if masked then 0x80 else 0 := by
    decide +kernel
  have h := hcode ⟨_, h.lengthCode_lt⟩ f.key.isSome
  rw [UInt8.ofNat_toNat] at h
  exact h

/-- The seven bits tell the form, and with it the length where it is short. -/
theorem WellFormed.form_eq (hf : f.WellFormed) (hg : g.WellFormed)
    (h : f.lengthCode = g.lengthCode) : f.form = g.form := by
  have hcode := congrArg UInt8.toNat h
  have hflen := hf.length_lt
  have hglen := hg.length_lt
  rw [hf.lengthCode_toNat, hg.lengthCode_toNat] at hcode
  cases hff : f.form <;> cases hgf : g.form <;> rw [hff] at hcode hflen <;>
    rw [hgf] at hcode hglen <;> first | rfl | (dsimp only at hcode hflen hglen; omega)

/-- The length that a header declares is the length of the payload. -/
theorem WellFormed.extendedLength_spec (h : f.WellFormed) (hform : f.form ≠ .short) :
    leNat f.extendedLength.reverse = f.payload.length := by
  have hlen := h.length_lt
  rw [extendedLength, List.reverse_reverse]
  cases hf : f.form with
  | short => exact absurd hf hform
  | medium =>
      rw [hf] at hlen
      exact leNat_leBytes hlen
  | long =>
      rw [hf] at hlen
      exact leNat_leBytes hlen

/-- What is left of the body of a frame is what is left of its payload, masked from there. -/
theorem drop_body (f : Frame) (n : Nat) :
    f.body.drop n = match f.key with
      | none => f.payload.drop n
      | some key => mask key n (f.payload.drop n) := by
  rw [body]
  cases f.key with
  | none => rfl
  | some key =>
      dsimp only
      rw [drop_mask, Nat.zero_add]

/-- Bytes that start with a frame start with one frame only. -/
theorem encode_append_inj (hf : f.WellFormed) (hg : g.WellFormed) {s t : List UInt8}
    (h : f.encode ++ s = g.encode ++ t) : f = g ∧ s = t := by
  simp only [encode, header, List.append_assoc, List.cons_append, List.nil_append,
    List.cons.injEq, true_and] at h
  obtain ⟨hsecond, h⟩ := h
  obtain ⟨hfcode, hfmask⟩ := hf.secondByte_and
  obtain ⟨hgcode, hgmask⟩ := hg.secondByte_and
  have hform : f.form = g.form := hf.form_eq hg (by rw [← hfcode, ← hgcode, hsecond])
  have hmasked : f.key.isSome = g.key.isSome := by
    rw [hsecond, hgmask] at hfmask
    revert hfmask
    cases f.key.isSome <;> cases g.key.isSome <;> decide
  obtain ⟨hext, h⟩ := List.append_inj h (by
    rw [length_extendedLength, length_extendedLength, hform])
  have hlength : f.payload.length = g.payload.length := by
    have hcode := congrArg UInt8.toNat (show f.lengthCode = g.lengthCode by
      rw [← hfcode, ← hgcode, hsecond])
    rw [hf.lengthCode_toNat, hg.lengthCode_toNat, ← hform] at hcode
    by_cases hshort : f.form = .short
    · rw [hshort] at hcode
      exact hcode
    · rw [← hf.extendedLength_spec hshort, ← hg.extendedLength_spec (hform ▸ hshort), hext]
  obtain ⟨hkey, h⟩ := List.append_inj h (by rw [hf.length_key, hg.length_key, hmasked])
  obtain ⟨hbody, hst⟩ := List.append_inj h (by rw [length_body, length_body, hlength])
  have hkey : f.key = g.key := by
    cases hfk : f.key with
    | none =>
        rw [hfk] at hmasked
        exact (Option.isNone_iff_eq_none.mp (Option.isSome_eq_false_iff.mp hmasked.symm)).symm
    | some k =>
        rw [hfk] at hmasked
        obtain ⟨k', hgk⟩ := Option.isSome_iff_exists.mp hmasked.symm
        rw [hfk, hgk] at hkey
        rw [hgk]
        exact congrArg some hkey
  have hpayload : f.payload = g.payload := by
    rw [body, body, ← hkey] at hbody
    cases hfk : f.key with
    | none =>
        rw [hfk] at hbody
        exact hbody
    | some k =>
        rw [hfk] at hbody
        exact mask_inj hbody
  exact ⟨Frame.ext hform hkey hpayload, hst⟩

end Frame

/-- Frames one after the other. -/
def encodeAll (frames : List Frame) : List UInt8 := frames.flatMap Frame.encode

/-- What the frames carry. -/
def payloads (frames : List Frame) : List UInt8 := frames.flatMap Frame.payload

end WebSocket
