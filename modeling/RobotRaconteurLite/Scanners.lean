import RobotRaconteurLite.Lib.IndexScan
import RobotRaconteurLite.Message.Types
import RobotRaconteurLite.Strings

/-!
# Functions that go through a string by index (`util.c`, `nodeid.c`, `node.c`)

A string is a pointer and a length, and nothing ends it. So a read is an index,
and one that is not below the length is `undefined`. An index here is at most
the length of a string, and sums of a few of them are far below what `size_t`
can hold.
-/

namespace RobotRaconteurLite

open IndexScan

/-! ## Lists with semicolons -/

/-- The body of the loop of `match_string_in_list`. A segment starts at `k`. -/
def matchStringInListStep (list value : List UInt8) (i : Nat) (c : UInt8) (k : Nat) :
    Step Status Nat :=
  if c = 59 then
    if i - k > 0 then
      match readRange .undefined list k (i - k) with
      | .error e => .fail e
      | .ok t2 => if stringCmp t2 value = 0 then .stop else .next (i + 1)
    else .next (i + 1)
  else .next k

/-- What comes behind the loop: a match was found, or the last segment is looked at. -/
def matchStringInListEnd (list value : List UInt8) : Option Nat × Nat → Result Int
  | (some _, _) => pure 1
  | (none, k) =>
      if k < list.length then do
        let t2 ← readRange .undefined list k (list.length - k)
        pure (if stringCmp t2 value = 0 then 1 else 0)
      else pure 0

/-- `robotraconteurlite_util_match_string_in_list`, with its indices and its status. -/
def utilMatchStringInListScan (list value : List UInt8) : Result Int := do
  let r ← scan .undefined (matchStringInListStep list value) list list.length 0 0
  matchStringInListEnd list value r

/-! ## Qualified types -/

/-- The loop of `split_qualified_type`. The index goes down before it is looked at. -/
def splitQualifiedTypeLoop (qualifiedType : List UInt8) : Nat → Result Nat
  | 0 => .error .undefined
  | i + 1 => do
      let c ← readAt .undefined qualifiedType i
      if c = 46 then pure i
      else if i > 1 then splitQualifiedTypeLoop qualifiedType i
      else throw .invalidArgument

/-- `robotraconteurlite_node_split_qualified_type`. An output is what the caller's string is, or
nothing for a null pointer. -/
def nodeSplitQualifiedType (qualifiedType : List UInt8)
    (serviceType serviceEntryType : Option (List UInt8)) :
    Result Unit × Option (List UInt8) × Option (List UInt8) :=
  if qualifiedType.length < 3 then (.error .invalidArgument, serviceType, serviceEntryType)
  else
    match splitQualifiedTypeLoop qualifiedType (qualifiedType.length - 1) with
    | .error e => (.error e, serviceType, serviceEntryType)
    | .ok i =>
        let serviceType := serviceType.map fun _ => qualifiedType.take i
        match serviceEntryType with
        | none => (.ok (), serviceType, none)
        | some _ =>
            -- what is written here is `service_type` again
            match serviceType with
            | none => (.error .undefined, serviceType, serviceEntryType)
            | some _ => (.ok (), some (qualifiedType.drop (i + 1)), serviceEntryType)

/-! ## Numbers -/

/-- `isspace`. -/
def isSpace (c : UInt8) : Bool := c == 32 || (9 ≤ c && c ≤ 13)

/-- The value of a hexadecimal digit. -/
def hexValue? (c : UInt8) : Option Nat :=
  if 48 ≤ c ∧ c ≤ 57 then some (c.toNat - 48)
  else if 65 ≤ c ∧ c ≤ 70 then some (c.toNat - 55)
  else if 97 ≤ c ∧ c ≤ 102 then some (c.toNat - 87)
  else none

def isHexDigit (c : UInt8) : Bool := (hexValue? c).isSome

/-- The sign a number may start with, and what comes behind it. -/
def splitSign : List UInt8 → Bool × List UInt8
  | 43 :: text => (false, text)
  | 45 :: text => (true, text)
  | text => (false, text)

/-- `0x` in front of a hexadecimal digit. -/
def skipHexPrefix : List UInt8 → List UInt8
  | 48 :: x :: d :: text =>
      if (x = 120 ∨ x = 88) ∧ isHexDigit d then d :: text else 48 :: x :: d :: text
  | text => text

/-- `strtoul` in base 16, for an `unsigned long` of so many bits: the value, and whether `errno`
is set. -/
def strtoul16 (ulongBits : Nat) (text : List UInt8) : Nat × Bool :=
  let (negative, text) := splitSign (text.dropWhile isSpace)
  let digits := (skipHexPrefix text).takeWhile isHexDigit
  let n := digits.foldl (fun n c => n * 16 + (hexValue? c).getD 0) 0
  if n ≥ 2 ^ ulongBits then (2 ^ ulongBits - 1, true)
  else (if negative then (2 ^ ulongBits - n) % 2 ^ ulongBits else n, false)

/-! ## Node ids -/

def NodeId.setByte (id : NodeId) (i : Nat) (b : UInt8) : NodeId where
  data := id.data.set i b
  length_data := by rw [List.length_set, id.length_data]

/-- The 32 characters that are to be digits, out of one of the three forms. -/
def nodeidDigits (srcStr : List UInt8) : Result (List UInt8) :=
  if srcStr.length = 32 then .ok srcStr
  else if srcStr.length = 36 ∨ srcStr.length = 38 then
    if srcStr.length = 38 ∧ (srcStr.getD 0 0 ≠ 123 ∨ srcStr.getD 37 0 ≠ 125) then
      .error .invalidArgument
    else
      let s := if srcStr.length = 38 then srcStr.drop 1 else srcStr
      if s.getD 8 0 ≠ 45 ∨ s.getD 13 0 ≠ 45 ∨ s.getD 18 0 ≠ 45 ∨ s.getD 23 0 ≠ 45 then
        .error .invalidArgument
      else
        .ok (s.take 8 ++ ((s.drop 9).take 4 ++ ((s.drop 14).take 4 ++ ((s.drop 19).take 4 ++
          (s.drop 24).take 12))))
  else .error .invalidArgument

/-- The loop of `nodeid_parse`, over pairs of characters that a NUL may end early. -/
def nodeidParseLoop (ulongBits : Nat) (buf : List UInt8) : Nat → Nat → NodeId → Result Unit × NodeId
  | 0, _, dst => (.ok (), dst)
  | n + 1, i, dst =>
      let hex := [buf.getD (2 * i) 0, buf.getD (2 * i + 1) 0].takeWhile (· ≠ 0)
      let (val, errno) := strtoul16 ulongBits hex
      if errno ∧ val > 255 then (.error .invalidArgument, dst)
      else nodeidParseLoop ulongBits buf n (i + 1) (dst.setByte i (UInt8.ofNat val))

/-- `robotraconteurlite_nodeid_parse`. -/
def nodeidParse (ulongBits : Nat) (srcStr : List UInt8) (dst : NodeId) : Result Unit × NodeId :=
  match nodeidDigits srcStr with
  | .error e => (.error e, dst)
  | .ok buf => nodeidParseLoop ulongBits buf 16 0 dst

end RobotRaconteurLite
