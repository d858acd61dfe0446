import SystemProgram.Params

namespace SystemProgram

structure AccountMeta where
  pubkey : Value
  isSigner : Bool
  isWritable : Bool
deriving Repr

structure Instruction where
  programId : Value
  accounts : List AccountMeta
  data : Bytes
deriving Repr

namespace AccountMeta

def signer (key : Value) (writable : Bool) : AccountMeta :=
  ⟨key, true, writable⟩

def writable (key : Value) : AccountMeta :=
  ⟨key, false, true⟩

def readonly (key : Value) : AccountMeta :=
  ⟨key, false, false⟩

def sysvar (s : Sysvar) : AccountMeta :=
  readonly (.key s.key)

@[simp] theorem pubkey_signer (key : Value) (writable : Bool) :
    (signer key writable).pubkey = key := rfl

@[simp] theorem pubkey_writable (key : Value) : (writable key).pubkey = key := rfl

@[simp] theorem pubkey_sysvar (s : Sysvar) : (sysvar s).pubkey = .key s.key := rfl

end AccountMeta

open AccountMeta

namespace Params

/-- The accounts of the instruction. A seed-derived new account's base signs on its own only if it
is not the account that pays. -/
def accounts : Params → List AccountMeta
  | createAccount source newAccount _ _ _ => [signer source true, signer newAccount true]
  | assign account _ => [signer account true]
  | transfer source target _ => [signer source true, writable target]
  | createAccountWithSeed source newAccount base _ _ _ _ =>
    [signer source true, writable newAccount] ++
      if base.same source then [] else [signer base false]
  | advanceNonce nonce authorized =>
    [writable nonce, sysvar .recentBlockhashes, signer authorized false]
  | withdrawNonce nonce authorized target _ =>
    [writable nonce, writable target, sysvar .recentBlockhashes, sysvar .rent,
     signer authorized false]
  | initializeNonce nonce _ => [writable nonce, sysvar .recentBlockhashes, sysvar .rent]
  | authorizeNonce nonce authorized _ => [writable nonce, signer authorized false]
  | allocate account _ => [signer account true]
  | allocateWithSeed account base _ _ _ => [writable account, signer base false]
  | assignWithSeed account base _ _ => [writable account, signer base false]
  | transferWithSeed source base target _ _ _ =>
    [writable source, signer base false, writable target]

def payload : Params → Fields
  | createAccount _ _ owner lamports space =>
    [("lamports", lamports), ("space", space), ("owner", owner)]
  | assign _ owner => [("owner", owner)]
  | transfer _ _ lamports => [("lamports", lamports)]
  | createAccountWithSeed _ _ base seed lamports space owner =>
    [("base", base), ("seed", seed), ("lamports", lamports), ("space", space), ("owner", owner)]
  | advanceNonce _ _ => []
  | withdrawNonce _ _ _ lamports => [("lamports", lamports)]
  | initializeNonce _ authorized => [("authorized", authorized)]
  | authorizeNonce _ _ newAuthority => [("new_authority", newAuthority)]
  | allocate _ space => [("space", space)]
  | allocateWithSeed _ base seed space owner =>
    [("base", base), ("seed", seed), ("space", space), ("owner", owner)]
  | assignWithSeed _ base seed owner => [("base", base), ("seed", seed), ("owner", owner)]
  | transferWithSeed _ _ _ sourceOwner seed lamports =>
    [("lamports", lamports), ("seed", seed), ("from_owner", sourceOwner)]

def build (p : Params) : Outcome Instruction := do
  return ⟨.key systemProgram, p.accounts, ← Payload.encode p.tag p.payload⟩

/-- Builds the instruction of another tag from those parameters that it shares with `p`. -/
def buildAs (tag : Tag) (p : Params) : Outcome Instruction := do
  (← ofSomeFields tag p.fields).build

def note (p : Params) (ix : Instruction) : String :=
  "built " ++ p.tag.name ++ ": " ++ Integer.natText ix.accounts.length ++ " accounts, " ++
    Integer.natText ix.data.length ++ " data bytes"

end Params

/-- Something handed over to be built: parameters, or a structure that is none. -/
inductive Subject where
  | params (p : Params)
  | foreign (typeName : String)
deriving Repr

def Subject.build : Subject → Outcome Instruction
  | params p => p.build
  | foreign typeName => .error (.fault (.noBuilder typeName))

end SystemProgram
