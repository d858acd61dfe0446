import SystemProgram.Payload

namespace SystemProgram

inductive Params where
  | createAccount (source newAccount owner lamports space : Value)
  | assign (account owner : Value)
  | transfer (source target lamports : Value)
  | createAccountWithSeed (source newAccount base seed lamports space owner : Value)
  | advanceNonce (nonce authorized : Value)
  | withdrawNonce (nonce authorized target lamports : Value)
  | initializeNonce (nonce authorized : Value)
  | authorizeNonce (nonce authorized newAuthority : Value)
  | allocate (account space : Value)
  | allocateWithSeed (account base seed space owner : Value)
  | assignWithSeed (account base seed owner : Value)
  | transferWithSeed (source base target sourceOwner seed lamports : Value)
deriving Repr

/-- Names and kinds of an instruction's parameters, in the order of the constructor's arguments. -/
def Tag.parameters : Tag → Layout
  | .createAccount =>
    [("from_pubkey", .pubkey), ("new_account_pubkey", .pubkey), ("owner", .pubkey),
     ("lamports", .u64), ("space", .u64)]
  | .assign => [("account_pubkey", .pubkey), ("owner", .pubkey)]
  | .transfer => [("from_pubkey", .pubkey), ("to_pubkey", .pubkey), ("lamports", .u64)]
  | .createAccountWithSeed =>
    [("from_pubkey", .pubkey), ("new_account_pubkey", .pubkey), ("base", .pubkey),
     ("seed", .string), ("lamports", .u64), ("space", .u64), ("owner", .pubkey)]
  | .advanceNonceAccount => [("nonce_pubkey", .pubkey), ("authorized_pubkey", .pubkey)]
  | .withdrawNonceAccount =>
    [("nonce_pubkey", .pubkey), ("authorized_pubkey", .pubkey), ("to_pubkey", .pubkey),
     ("lamports", .u64)]
  | .initializeNonceAccount => [("nonce_pubkey", .pubkey), ("authorized_pubkey", .pubkey)]
  | .authorizeNonceAccount =>
    [("nonce_pubkey", .pubkey), ("authorized_pubkey", .pubkey), ("new_authority", .pubkey)]
  | .allocate => [("account_pubkey", .pubkey), ("space", .u64)]
  | .allocateWithSeed =>
    [("account_pubkey", .pubkey), ("base", .pubkey), ("seed", .string), ("space", .u64),
     ("owner", .pubkey)]
  | .assignWithSeed =>
    [("account_pubkey", .pubkey), ("base", .pubkey), ("seed", .string), ("owner", .pubkey)]
  | .transferWithSeed =>
    [("from_pubkey", .pubkey), ("base", .pubkey), ("to_pubkey", .pubkey),
     ("from_owner", .pubkey), ("seed", .string), ("lamports", .u64)]

namespace Params

def tag : Params → Tag
  | createAccount .. => .createAccount
  | assign .. => .assign
  | transfer .. => .transfer
  | createAccountWithSeed .. => .createAccountWithSeed
  | advanceNonce .. => .advanceNonceAccount
  | withdrawNonce .. => .withdrawNonceAccount
  | initializeNonce .. => .initializeNonceAccount
  | authorizeNonce .. => .authorizeNonceAccount
  | allocate .. => .allocate
  | allocateWithSeed .. => .allocateWithSeed
  | assignWithSeed .. => .assignWithSeed
  | transferWithSeed .. => .transferWithSeed

def values : Params → List Value
  | createAccount a b c d e => [a, b, c, d, e]
  | assign a b => [a, b]
  | transfer a b c => [a, b, c]
  | createAccountWithSeed a b c d e f g => [a, b, c, d, e, f, g]
  | advanceNonce a b => [a, b]
  | withdrawNonce a b c d => [a, b, c, d]
  | initializeNonce a b => [a, b]
  | authorizeNonce a b c => [a, b, c]
  | allocate a b => [a, b]
  | allocateWithSeed a b c d e => [a, b, c, d, e]
  | assignWithSeed a b c d => [a, b, c, d]
  | transferWithSeed a b c d e f => [a, b, c, d, e, f]

def ofValues? : Tag → List Value → Option Params
  | .createAccount, [a, b, c, d, e] => some (createAccount a b c d e)
  | .assign, [a, b] => some (assign a b)
  | .transfer, [a, b, c] => some (transfer a b c)
  | .createAccountWithSeed, [a, b, c, d, e, f, g] => some (createAccountWithSeed a b c d e f g)
  | .advanceNonceAccount, [a, b] => some (advanceNonce a b)
  | .withdrawNonceAccount, [a, b, c, d] => some (withdrawNonce a b c d)
  | .initializeNonceAccount, [a, b] => some (initializeNonce a b)
  | .authorizeNonceAccount, [a, b, c] => some (authorizeNonce a b c)
  | .allocate, [a, b] => some (allocate a b)
  | .allocateWithSeed, [a, b, c, d, e] => some (allocateWithSeed a b c d e)
  | .assignWithSeed, [a, b, c, d] => some (assignWithSeed a b c d)
  | .transferWithSeed, [a, b, c, d, e, f] => some (transferWithSeed a b c d e f)
  | _, _ => none

def ofValues (tag : Tag) (vs : List Value) : Outcome Params :=
  .ofOption .wrongType (ofValues? tag vs)

def fields (p : Params) : Fields :=
  p.tag.parameters.names.zip p.values

/-- The parameters of an instruction out of fields that hold them and perhaps others. -/
def ofSomeFields (tag : Tag) (fs : Fields) : Outcome Params := do
  ofValues tag (← fs.select tag.parameters.names)

def ofFields (tag : Tag) (fs : Fields) : Outcome Params := do
  ofValues tag (← fs.exactly tag.parameters.names)

def same (p q : Params) : Bool :=
  p.tag = q.tag && Value.sameAll p.values q.values

@[simp] theorem ofValues?_values (p : Params) : ofValues? p.tag p.values = some p := by
  cases p <;> rfl

theorem ofValues?_eq_some_iff {tag : Tag} {vs : List Value} {p : Params} :
    ofValues? tag vs = some p ↔ p.tag = tag ∧ p.values = vs := by
  constructor
  · intro h
    unfold ofValues? at h
    split at h <;> cases h <;> exact ⟨rfl, rfl⟩
  · intro h
    obtain ⟨ht, hv⟩ := h
    rw [← ht, ← hv, ofValues?_values]

theorem names_fields (p : Params) : p.fields.names = p.tag.parameters.names := by
  cases p <;> rfl

end Params
end SystemProgram
