import SystemProgram.Failure
import SystemProgram.Text.Blank

namespace SystemProgram.PublicKey

def ofBytes (bs : Bytes) : Outcome PublicKey :=
  .ofOption (.fault (.keySize bs.length)) (ofBytes? bs)

def ofRaw : Value → Outcome PublicKey
  | .bytes bs | .buffer bs => ofBytes bs
  | _ => .error (.fault .keyNotBytes)

/-- The key that a label stands for: the digest of its UTF-8 form. No private key belongs to it. -/
def named : Text → Outcome PublicKey
  | .whole cs => .ok ⟨Sha256.digest (Utf8.encode (String.ofList cs)), Sha256.length_digest _⟩
  | .broken _ => .error .notEncodable

/-- The ASCII characters that bytes stand for, without the blanks at the end. -/
def asciiText (bs : Bytes) : List Char :=
  ((bs.map fun b => Char.ofNat b.toNat).reverse.dropWhile Hex.isBlank).reverse

def ofDigits (shown : Value) (cs : List Char) : Outcome PublicKey := do
  ofBytes (← .ofOption (.fault (.notBase58 shown)) (Base58.decode? cs))

def ofBase58 : Value → Outcome PublicKey
  | .str s => ofDigits (.str s) (Text.trimEnd s.toList)
  | .broken t => .error (.fault (.notBase58 (.broken t)))
  | .bytes bs => ofDigits (.bytes bs) (asciiText bs)
  | .buffer bs => ofDigits (.buffer bs) (asciiText bs)
  | _ => .error .wrongType

end SystemProgram.PublicKey
