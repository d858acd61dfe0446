import SystemProgram.Tag

namespace SystemProgram

/-- How a field is written: a 64-bit number, a key, or a text behind its length in bytes. -/
inductive FieldKind where
  | u64
  | pubkey
  | string
deriving DecidableEq, Repr

def FieldKind.name : FieldKind → String
  | u64 => "u64"
  | pubkey => "pubkey"
  | string => "string"

def FieldKind.ofName? (s : String) : Option FieldKind :=
  [u64, pubkey, string].find? fun k => k.name = s

abbrev Layout := List (String × FieldKind)

def Layout.names (l : Layout) : List String :=
  l.map Prod.fst

namespace Tag

def layout : Tag → Layout
  | createAccount => [("lamports", .u64), ("space", .u64), ("owner", .pubkey)]
  | assign => [("owner", .pubkey)]
  | transfer => [("lamports", .u64)]
  | createAccountWithSeed =>
    [("base", .pubkey), ("seed", .string), ("lamports", .u64), ("space", .u64),
     ("owner", .pubkey)]
  | advanceNonceAccount => []
  | withdrawNonceAccount => [("lamports", .u64)]
  | initializeNonceAccount => [("authorized", .pubkey)]
  | authorizeNonceAccount => [("new_authority", .pubkey)]
  | allocate => [("space", .u64)]
  | allocateWithSeed =>
    [("base", .pubkey), ("seed", .string), ("space", .u64), ("owner", .pubkey)]
  | assignWithSeed => [("base", .pubkey), ("seed", .string), ("owner", .pubkey)]
  | transferWithSeed => [("lamports", .u64), ("seed", .string), ("from_owner", .pubkey)]

/-- The numbers of accounts that an instruction may have. With a seed, a new account's base is not
listed if it is the account that pays. -/
def accountCounts : Tag → List Nat
  | createAccount => [2]
  | assign => [1]
  | transfer => [2]
  | createAccountWithSeed => [2, 3]
  | advanceNonceAccount => [3]
  | withdrawNonceAccount => [5]
  | initializeNonceAccount => [3]
  | authorizeNonceAccount => [2]
  | allocate => [1]
  | allocateWithSeed => [2]
  | assignWithSeed => [2]
  | transferWithSeed => [3]

theorem layout_nodup (t : Tag) : t.layout.names.Nodup := by
  cases t <;> decide

end Tag
end SystemProgram
