import Scaffold.Number.Reading

/-!
# Universally unique identifiers

A UUID is a number of 128 bits, read from 32 hexadecimal digits with or without hyphens after the
eighth, twelfth, sixteenth and twentieth, and written with them. A text that is refused tells which
of its groups, lengths or characters is at fault.
-/

namespace Scaffold.Edn

/-- Why a text is not a UUID. Characters are counted in bytes. -/
inductive UuidFault where
  | length (found : Nat)
  | groupCount (found : Nat)
  | groupLength (expected found group : Nat)
  | character (found : Char) (index : Nat)
  deriving DecidableEq

namespace Uuid

/-- The number of digits of a group. -/
def groupSize (group : Nat) : Nat := [8, 4, 4, 4, 12].getD group 0

/-- The number of digits up to the end of a group. -/
def groupEnd (group : Nat) : Nat := [8, 12, 16, 20, 32].getD group 0

/-- The number of digits of the current group read so far. -/
def groupFilled (group digits : Nat) : Nat :=
  if group = 0 then digits else digits - groupEnd (group - 1)

/-- Reads the digits and hyphens of a text of `total` bytes. -/
def scan (total : Nat) : (index digits group value : Nat) → List Char → Except UuidFault Nat
  | _, digits, group, value, [] =>
    if digits = 32 then .ok value else .error (.groupLength 12 (digits - 20) group)
  | index, digits, group, value, c :: rest =>
    if digits ≥ 32 && group ≠ 4 then
      .error (if group = 0 then .length total else .groupCount (group + 1))
    else if c = '-' then
      if digits % 2 = 0 && groupEnd group = digits then
        scan total (index + 1) digits (group + 1) value rest
      else .error (.groupLength (groupSize group) (groupFilled group digits) group)
    else
      match Number.digitIn? 16 c with
      | none => .error (.character c index)
      | some d => scan total (index + 1) (digits + 1) group (value * 16 + d) rest

/-- Reads a text as a UUID. -/
def read (s : String) : Except UuidFault Nat :=
  let total := s.utf8ByteSize
  let urn := "urn:uuid:".toList
  if total = 45 && urn.isPrefixOf s.toList then scan total 0 0 0 0 (s.toList.drop 9)
  else if total = 36 || total = 32 then scan total 0 0 0 0 s.toList
  else .error (.length total)

/-- The hyphenated text. -/
def text (n : Nat) : String :=
  let digits := Nat.toDigits 16 n
  let all := List.replicate (32 - digits.length) '0' ++ digits
  let cut (lo hi : Nat) : String := String.ofList ((all.take hi).drop lo)
  cut 0 8 ++ "-" ++ cut 8 12 ++ "-" ++ cut 12 16 ++ "-" ++ cut 16 20 ++ "-" ++ cut 20 32

end Uuid

end Scaffold.Edn
