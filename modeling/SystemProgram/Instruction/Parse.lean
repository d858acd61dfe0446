import SystemProgram.Instruction

namespace SystemProgram

namespace Instruction

def keyAt (ix : Instruction) (i : Nat) : Outcome Value :=
  .ofOption .outOfRange (ix.accounts[i]?.map AccountMeta.pubkey)

/-- Makes sure that the account at place `i` is the given system variable. -/
def expectSysvar (ix : Instruction) (i : Nat) (s : Sysvar) : Outcome Unit := do
  let found ← ix.keyAt i
  if found.same (.key s.key) then .ok () else .error (.fault (.notSysvar s found))

def sysvarPlaces : Tag → List (Nat × Sysvar)
  | .advanceNonceAccount => [(1, .recentBlockhashes)]
  | .initializeNonceAccount => [(1, .recentBlockhashes), (2, .rent)]
  | .withdrawNonceAccount => [(2, .recentBlockhashes), (3, .rent)]
  | _ => []

def expectBase (ix : Instruction) (base : Value) (i : Nat) (fault : Fault) : Outcome Unit := do
  if base.same (← ix.keyAt i) then .ok () else .error (.fault fault)

def params (ix : Instruction) (fs : Fields) : Tag → Outcome Params
  | .createAccount => do
    return .createAccount (← ix.keyAt 0) (← ix.keyAt 1) (← fs.get "owner") (← fs.get "lamports")
      (← fs.get "space")
  | .assign => do return .assign (← ix.keyAt 0) (← fs.get "owner")
  | .transfer => do return .transfer (← ix.keyAt 0) (← ix.keyAt 1) (← fs.get "lamports")
  | .createAccountWithSeed => do
    let base ← fs.get "base"
    if ix.accounts.length = 2 then ix.expectBase base 0 .baseMissing
    if ix.accounts.length = 3 then ix.expectBase base 2 .baseMismatch
    return .createAccountWithSeed (← ix.keyAt 0) (← ix.keyAt 1) base (← fs.get "seed")
      (← fs.get "lamports") (← fs.get "space") (← fs.get "owner")
  | .advanceNonceAccount => do return .advanceNonce (← ix.keyAt 0) (← ix.keyAt 2)
  | .withdrawNonceAccount => do
    return .withdrawNonce (← ix.keyAt 0) (← ix.keyAt 4) (← ix.keyAt 1) (← fs.get "lamports")
  | .initializeNonceAccount => do
    return .initializeNonce (← ix.keyAt 0) (← fs.get "authorized")
  | .authorizeNonceAccount => do
    return .authorizeNonce (← ix.keyAt 0) (← ix.keyAt 1) (← fs.get "new_authority")
  | .allocate => do return .allocate (← ix.keyAt 0) (← fs.get "space")
  | .allocateWithSeed => do
    let base ← fs.get "base"
    ix.expectBase base 1 .baseMismatch
    return .allocateWithSeed (← ix.keyAt 0) base (← fs.get "seed") (← fs.get "space")
      (← fs.get "owner")
  | .assignWithSeed => do
    let base ← fs.get "base"
    ix.expectBase base 1 .baseMismatch
    return .assignWithSeed (← ix.keyAt 0) base (← fs.get "seed") (← fs.get "owner")
  | .transferWithSeed => do
    return .transferWithSeed (← ix.keyAt 0) (← ix.keyAt 1) (← ix.keyAt 2) (← fs.get "from_owner")
      (← fs.get "seed") (← fs.get "lamports")

def parse (ix : Instruction) : Outcome Params := do
  if !ix.programId.same (.key systemProgram) then
    throw (.fault (.foreignProgram ix.programId))
  let (tag, fs) ← Payload.decode ix.data
  if !tag.accountCounts.contains ix.accounts.length then
    throw (.fault (.accountCount tag ix.accounts.length))
  (sysvarPlaces tag).forM fun (i, s) => ix.expectSysvar i s
  ix.params fs tag

/-- Which instruction the payload is of; nothing but the payload is looked at. -/
def tag (ix : Instruction) : Outcome Tag := do
  return (← Payload.decode ix.data).1

end Instruction
end SystemProgram
