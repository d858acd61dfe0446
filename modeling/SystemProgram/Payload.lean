import SystemProgram.Wire.Reader

namespace SystemProgram

/-- Values under the names of fields, every name at most once. -/
abbrev Fields := List (String × Value)

namespace Fields

def names (fs : Fields) : List String :=
  fs.map Prod.fst

def get? (fs : Fields) (name : String) : Option Value :=
  (fs.find? fun f => f.1 = name).map Prod.snd

def get (fs : Fields) (name : String) : Outcome Value :=
  .ofOption (.missing name) (fs.get? name)

def select (fs : Fields) (wanted : List String) : Outcome (List Value) :=
  wanted.mapM fun name => .ofOption .wrongType (fs.get? name)

def exactly (fs : Fields) (wanted : List String) : Outcome (List Value) :=
  if fs.names.all (wanted.contains ·) then fs.select wanted else .error .wrongType

end Fields

namespace Payload

open Wire

def sorted (names : List String) : List String :=
  names.mergeSort fun a b => decide (a ≤ b)

/-- Whether the fields are those of the layout, whatever their order. -/
def matchesLayout (l : Layout) (fs : Fields) : Bool :=
  sorted fs.names = sorted l.names

def writeFields (fs : Fields) (w : Writer) : Layout → Outcome Writer
  | [] => .ok w
  | (name, kind) :: rest => do
    let w ← w.field kind (← fs.get name)
    writeFields fs w rest

def write (tag : Tag) (fs : Fields) : Outcome Bytes := do
  let w ← Writer.u32 ⟨[]⟩ (.int tag.number)
  return (← writeFields fs w tag.layout).buf

def encode (tag : Tag) (fs : Fields) : Outcome Bytes :=
  if matchesLayout tag.layout fs then write tag fs
  else .error (.defect (.fieldMismatch tag (sorted fs.names)))

def tagOf (v : Value) : Outcome Tag :=
  if v.isHashable then
    .ofOption (.ofDefect (.noLayout v)) (Tag.all.find? fun t => v.same (.int t.number))
  else .error .wrongType

/-- Encoding under a tag that is given by number. Such a tag has no name to report a mismatch
with. -/
def encodeNumbered (v : Value) (fs : Fields) : Outcome Bytes := do
  let tag ← tagOf v
  if matchesLayout tag.layout fs then write tag fs else .error .wrongType

def readTag : Read Tag := do
  let n ← Read.u32
  match Tag.ofNumber? n with
  | some tag => return tag
  | none => throw (.fault (.unknownTag n))

def read : Read (Tag × Fields) := do
  let tag ← readTag
  let fs ← Read.fields tag.layout
  Read.finish
  return (tag, fs)

def decode (bs : Bytes) : Outcome (Tag × Fields) :=
  (read.run ⟨bs, 0⟩).1

def fieldSize : FieldKind → Value → Outcome Nat
  | .u64, _ => .ok u64Size
  | .pubkey, _ => .ok keySize
  | .string, .str s => .ok (u64Size + Utf8.size s)
  | .string, .broken _ => .error .notEncodable
  | .string, _ => .error .wrongType

def namedFieldSize (kind : String) (v : Value) : Outcome Nat := do
  fieldSize (← .ofOption .badValue (FieldKind.ofName? kind)) v

def fieldsSize (fs : Fields) : Layout → Outcome Nat
  | [] => .ok 0
  | (name, kind) :: rest => do
    let n ← fieldSize kind (← fs.get name)
    return n + (← fieldsSize fs rest)

/-- How many bytes the payload takes. Values of fixed width are not looked at. -/
def encodedSize (tag : Tag) (fs : Fields) : Outcome Nat := do
  return u32Size + (← fieldsSize fs tag.layout)

def encodedSizeNumbered (v : Value) (fs : Fields) : Outcome Nat := do
  encodedSize (← tagOf v) fs

end Payload
end SystemProgram
