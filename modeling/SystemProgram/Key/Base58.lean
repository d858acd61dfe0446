import SystemProgram.Bytes
import SystemProgram.Number.Radix

namespace SystemProgram.Base58

/-- The digits, without the four letters and figures that are easily mistaken for others. -/
def alphabet : List Char :=
  "123456789ABCDEFGHJKLMNPQRSTUVWXYZabcdefghijkmnopqrstuvwxyz".toList

def digit (d : Nat) : Char :=
  alphabet.getD d '1'

def digitValue? (c : Char) : Option Nat :=
  alphabet.idxOf? c

def encode (bs : Bytes) : List Char :=
  let body := bs.dropWhile (· = 0)
  List.replicate (bs.length - body.length) '1' ++
    (Radix.digits 58 (Radix.value 256 (body.map UInt8.toNat))).map digit

def decode? (cs : List Char) : Option Bytes := do
  let body := cs.dropWhile (· = '1')
  let ds ← body.mapM digitValue?
  return List.replicate (cs.length - body.length) 0 ++
    (Radix.digits 256 (Radix.value 58 ds)).map UInt8.ofNat

end SystemProgram.Base58
