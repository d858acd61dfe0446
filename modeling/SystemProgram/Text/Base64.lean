import SystemProgram.Bytes

namespace SystemProgram.Base64

def digitValue? (c : Char) : Option Nat :=
  if 'A' ≤ c ∧ c ≤ 'Z' then some (c.toNat - 65)
  else if 'a' ≤ c ∧ c ≤ 'z' then some (c.toNat - 71)
  else if '0' ≤ c ∧ c ≤ '9' then some (c.toNat + 4)
  else if c = '+' then some 62
  else if c = '/' then some 63
  else none

/-- Reads on behind an unfinished group of digits and the given number of equals signs. -/
def decodeFrom (group : List Nat) (pads : Nat) : List Char → Option Bytes
  | [] => if group.isEmpty then some [] else none
  | c :: cs =>
    if c = '=' then
      if 2 ≤ group.length ∧ 4 ≤ group.length + pads + 1 then some []
      else decodeFrom group (if 2 ≤ group.length then pads + 1 else pads) cs
    else match digitValue? c, group with
      | none, _ => decodeFrom group pads cs
      | some d, [] => decodeFrom [d] 0 cs
      | some d, [a] => (decodeFrom [a, d] 0 cs).map (UInt8.ofNat (4 * a + d / 16) :: ·)
      | some d, [a, b] => (decodeFrom [a, b, d] 0 cs).map (UInt8.ofNat (16 * (b % 16) + d / 4) :: ·)
      | some d, _ :: _ :: e :: _ => (decodeFrom [] 0 cs).map (UInt8.ofNat (64 * (e % 4) + d) :: ·)

def decode? (cs : List Char) : Option Bytes :=
  decodeFrom [] 0 cs

end SystemProgram.Base64
