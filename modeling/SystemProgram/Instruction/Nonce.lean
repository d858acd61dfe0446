import SystemProgram.Instruction

namespace SystemProgram.NonceAccount

def size : Nat := 80

def create (source nonce authority lamports : Value) : List Params :=
  [.createAccount source nonce (.key systemProgram) lamports (.int size),
   .initializeNonce nonce authority]

def createWithSeed (source nonce base seed authority lamports : Value) : List Params :=
  [.createAccountWithSeed source nonce base seed lamports (.int size) (.key systemProgram),
   .initializeNonce nonce authority]

def ofFields (seeded : Bool) (fs : Fields) : Outcome (List Params) :=
  if seeded then do
    match ← fs.exactly ["from_pubkey", "nonce_pubkey", "base", "seed", "authority", "lamports"] with
    | [source, nonce, base, seed, authority, lamports] =>
      return createWithSeed source nonce base seed authority lamports
    | _ => throw .wrongType
  else do
    match ← fs.exactly ["from_pubkey", "nonce_pubkey", "authority", "lamports"] with
    | [source, nonce, authority, lamports] => return create source nonce authority lamports
    | _ => throw .wrongType

end SystemProgram.NonceAccount
