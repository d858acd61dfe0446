import SystemProgram.Failure

namespace SystemProgram.Wire

def u32Size : Nat := 4
def u64Size : Nat := 8
def maxU32 : Nat := 0xFFFFFFFF
def maxU64 : Nat := 0xFFFFFFFFFFFFFFFF

/-- The number that a value is, if it is one from zero to `max`. Truth values are no numbers. -/
def unsigned? (max : Nat) : Value → Option Nat
  | .int i => if 0 ≤ i ∧ i ≤ max then some i.toNat else none
  | _ => none

/-- The byte that a member of a collection stands for. -/
def byteOf : Value → Outcome UInt8
  | .int i => if 0 ≤ i ∧ i < 256 then .ok (UInt8.ofNat i.toNat) else .error .badValue
  | .bool b => .ok (if b then 1 else 0)
  | _ => .error .wrongType

/-- Bytes as they are, or a collection of numbers below 256. -/
def rawBytes : Value → Outcome Bytes
  | .bytes bs | .buffer bs => .ok bs
  | v => do (← .ofOption .wrongType v.items?).mapM byteOf

structure Writer where
  buf : Bytes
deriving DecidableEq, Repr

def Writer.append (w : Writer) (bs : Bytes) : Writer :=
  ⟨w.buf ++ bs⟩

/-- An action on a writer. What it has appended before it fails stays in the buffer. -/
abbrev Emit := ExceptT Failure (StateM Writer)

namespace Emit

def append (bs : Bytes) : Emit Unit :=
  modify fun w => w.append bs

def unsigned (size max : Nat) (v : Value) : Emit Unit :=
  match unsigned? max v with
  | some n => append (Bytes.ofNatLE size n)
  | none => throw (.ofDefect (.tooWide v size))

def u32 (v : Value) : Emit Unit :=
  unsigned u32Size maxU32 v

def u64 (v : Value) : Emit Unit :=
  unsigned u64Size maxU64 v

def bytes (v : Value) : Emit Unit :=
  match rawBytes v with
  | .ok bs => append bs
  | .error e => throw e

def pubkey : Value → Emit Unit
  | .key k => append k.bytes
  | v => throw (.defect (.notKey v))

def string : Value → Emit Unit
  | .str s => do
    u64 (.int (Utf8.size s))
    bytes (.bytes (Utf8.encode s))
  | .broken _ => throw .notEncodable
  | v => throw (.defect (.notText v))

def field : FieldKind → Value → Emit Unit
  | .u64, v => u64 v
  | .pubkey, v => pubkey v
  | .string, v => string v

end Emit

namespace Writer

def after (w : Writer) (m : Emit Unit) : Outcome Writer :=
  match m.run w with
  | (.ok _, w') => .ok w'
  | (.error e, _) => .error e

def unsigned (w : Writer) (size max : Nat) (v : Value) : Outcome Writer :=
  w.after (Emit.unsigned size max v)

def u32 (w : Writer) (v : Value) : Outcome Writer :=
  w.unsigned u32Size maxU32 v

def u64 (w : Writer) (v : Value) : Outcome Writer :=
  w.unsigned u64Size maxU64 v

def string (w : Writer) (v : Value) : Outcome Writer :=
  w.after (Emit.string v)

def field (w : Writer) (kind : FieldKind) (v : Value) : Outcome Writer :=
  w.after (Emit.field kind v)

def namedField (w : Writer) (kind : String) (v : Value) : Outcome Writer :=
  match FieldKind.ofName? kind with
  | some k => w.field k v
  | none => .error (.defect (.unknownKind kind))

end Writer

inductive Write where
  | u32 (v : Value)
  | u64 (v : Value)
  | bytes (v : Value)
  | pubkey (v : Value)
  | string (v : Value)
deriving Repr

def Write.emit : Write → Emit Unit
  | u32 v => Emit.u32 v
  | u64 v => Emit.u64 v
  | bytes v => Emit.bytes v
  | pubkey v => Emit.pubkey v
  | string v => Emit.string v

namespace Writer

def write (w : Writer) (op : Write) : Outcome Writer :=
  w.after op.emit

/-- All calls in turn, each with the writer after it and the failure if there was one. A call that
fails is passed over; the next one goes on behind what is then in the buffer. -/
def run (w : Writer) : List Write → List (Writer × Option Failure)
  | [] => []
  | op :: ops =>
    match op.emit.run w with
    | (.ok _, w') => (w', none) :: run w' ops
    | (.error e, w') => (w', some e) :: run w' ops

end Writer
end SystemProgram.Wire
