import SystemProgram.Key.Checked

namespace SystemProgram.Address

def maxSeedSize : Nat := 32

/-- An owner that ends so could make the hashed bytes look like those of another kind of address. -/
def marker : Bytes := Utf8.encode "ProgramDerivedAddress"

/-- The bytes whose digest is the address. -/
def preimage (base : PublicKey) (seed : String) (owner : PublicKey) : Bytes :=
  base.bytes ++ Utf8.encode seed ++ owner.bytes

def derive (base : PublicKey) (seed : String) (owner : PublicKey) : PublicKey :=
  ⟨Sha256.digest (preimage base seed owner), Sha256.length_digest _⟩

def asKey : Value → Outcome PublicKey
  | .key k => .ok k
  | _ => .error .wrongType

def asText : Value → Outcome String
  | .str s => .ok s
  | .broken _ => .error .notEncodable
  | _ => .error .wrongType

def create (base seed owner : Value) : Outcome PublicKey := do
  let seed ← asText seed
  if maxSeedSize < Utf8.size seed then
    throw (.fault (.seedTooLong (Utf8.size seed) maxSeedSize))
  let owner ← asKey owner
  if marker.isSuffixOf owner.bytes then throw (.fault .illegalOwner)
  return derive (← asKey base) seed owner

end SystemProgram.Address
