import SystemProgram.Instruction.Parse
import SystemProgram.Text.Uppercase

namespace SystemProgram.Fixture

def field (name : String) : Value → Outcome Value
  | .map es => .ofOption (.missing name) (Value.find? name es)
  | _ => .error .wrongType

def asciiInteger (bs : Bytes) : Option Int := do
  guard (bs.all (· < 0x80))
  Integer.parse? (bs.map fun b => Char.ofNat b.toNat)

/-- The integer that a value stands for. Fractions are cut off toward zero. -/
def asInteger : Value → Outcome Int
  | .bool b => .ok b.toInt
  | .int i => .ok i
  | .float x => .ofOption (if x.isNaN then .badValue else .overflow) x.truncate?
  | .str s => .ofOption .badValue (Integer.parse? s.toList)
  | .broken _ => .error .badValue
  | .bytes bs | .buffer bs => .ofOption .badValue (asciiInteger bs)
  | _ => .error .wrongType

def plain : Value → Value
  | .key k => .str k.toBase58
  | v => v

def ofParams (p : Params) : Value :=
  .record (("instruction", .str p.tag.lowerName) :: p.fields.map fun f => (f.1, plain f.2))

def ofSubject : Subject → Outcome Value
  | .params p => .ok (ofParams p)
  | .foreign typeName => .error (.notParams typeName)

/-- The value that a recorded field of the given kind stands for. A text is taken as it is. -/
def load : FieldKind → Value → Outcome Value
  | .u64, v => do return .int (← asInteger v)
  | .pubkey, v => do return .key (← PublicKey.ofBase58 v)
  | .string, v => .ok v

def loadFields (doc : Value) : Layout → Outcome (List Value)
  | [] => .ok []
  | (name, kind) :: rest => do
    let v ← load kind (← field name doc)
    return v :: (← loadFields doc rest)

def upperByte (b : UInt8) : UInt8 :=
  if 0x61 ≤ b && b ≤ 0x7A then b - 0x20 else b

/-- The instruction that a name stands for, in whatever letter case. Bytes name none. -/
def tagOf : Value → Outcome Tag
  | .str s => .ofOption (.missing (Text.upper s)) (Tag.ofName? (Text.upper s))
  | .broken t => .error (.missing (.broken (t.mapRuns Text.upperChars)))
  | .bytes bs => .error (.missing (Value.bytes (bs.map upperByte)).text)
  | _ => .error .wrongType

def params (doc : Value) : Outcome Params := do
  let tag ← tagOf (← field "instruction" doc)
  Params.ofValues tag (← loadFields doc tag.parameters)

def keyText : Value → Outcome Value
  | .key k => .ok (.str k.toBase58)
  | _ => .error .wrongType

def ofAccount (a : AccountMeta) : Outcome Value := do
  return .record [("pubkey", ← keyText a.pubkey), ("is_signer", .bool a.isSigner),
    ("is_writable", .bool a.isWritable)]

def ofInstruction (ix : Instruction) : Outcome Value := do
  return .record [("program_id", ← keyText ix.programId),
    ("accounts", .list (← ix.accounts.mapM ofAccount)), ("data", .str (Hex.text ix.data))]

def account (doc : Value) : Outcome AccountMeta := do
  let key ← PublicKey.ofBase58 (← field "pubkey" doc)
  let isSigner ← field "is_signer" doc
  let isWritable ← field "is_writable" doc
  return ⟨.key key, isSigner.isTrue, isWritable.isTrue⟩

def hexBytes : Value → Outcome Bytes
  | .str s => .ofOption .badValue (Hex.decode? s.toList)
  | .broken _ => .error .badValue
  | _ => .error .wrongType

def instruction (doc : Value) : Outcome Instruction := do
  let programId ← PublicKey.ofBase58 (← field "program_id" doc)
  let accounts ← .ofOption .wrongType (← field "accounts" doc).items?
  let accounts ← accounts.mapM account
  return ⟨.key programId, accounts, ← hexBytes (← field "data" doc)⟩

end SystemProgram.Fixture
