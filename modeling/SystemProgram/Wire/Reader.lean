import SystemProgram.Key.Checked
import SystemProgram.Wire.Writer

namespace SystemProgram

/-- The offset that a position stands for: negative positions count from the end, and nothing lies
outside the data. -/
def Bytes.clamp (bs : Bytes) (i : Int) : Nat :=
  if i < 0 then (bs.length + i).toNat else min i.toNat bs.length

def Bytes.slice (bs : Bytes) (lo hi : Int) : Bytes :=
  (bs.take (bs.clamp hi)).drop (bs.clamp lo)

theorem Bytes.slice_of_le {bs : Bytes} {lo hi : Int} (h0 : 0 ≤ lo) (h1 : lo ≤ hi)
    (h2 : hi ≤ bs.length) : bs.slice lo hi = (bs.drop lo.toNat).take (hi - lo).toNat := by
  have hlo : bs.clamp lo = lo.toNat := by unfold clamp; split <;> omega
  have hhi : bs.clamp hi = hi.toNat := by unfold clamp; split <;> omega
  rw [slice, hlo, hhi, List.drop_take]
  congr 1
  omega

namespace Wire

structure Reader where
  data : Bytes
  pos : Int
deriving DecidableEq, Repr

abbrev Read := ExceptT Failure (StateM Reader)

namespace Reader

/-- How many bytes are left; negative behind the end. -/
def remaining (r : Reader) : Int :=
  r.data.length - r.pos

end Reader

namespace Read

def bytes (n : Int) : Read Bytes := do
  let r ← get
  if r.remaining < n then throw (.fault (.endOfData n r.pos r.remaining))
  else
    set { r with pos := r.pos + n }
    return r.data.slice r.pos (r.pos + n)

def u32 : Read Nat := do
  return (← bytes u32Size).toNatLE

def u64 : Read Nat := do
  return (← bytes u64Size).toNatLE

def pubkey : Read PublicKey := do
  liftExcept (PublicKey.ofBytes (← bytes keySize))
where
  liftExcept {α : Type} (o : Outcome α) : Read α := ExceptT.mk (pure o)

def string : Read String := do
  let size ← u64
  let bs ← bytes size
  match Utf8.decode? bs with
  | some s => return s
  | none => throw (.fault .seedNotUtf8)

def remaining : Read Int := do
  return (← get).remaining

def finish : Read Unit := do
  let n ← remaining
  if n ≠ 0 then throw (.fault (.trailingBytes n))

def field : FieldKind → Read Value
  | .u64 => do return .int (← u64)
  | .pubkey => do return .key (← pubkey)
  | .string => do return .str (← string)

def fields : Layout → Read (List (String × Value))
  | [] => return []
  | (name, kind) :: rest => do
    let v ← field kind
    return (name, v) :: (← fields rest)

end Read

inductive ReadCall where
  | u32
  | u64
  | pubkey
  | string
  | bytes (n : Int)
  | remaining
  | finish
deriving DecidableEq, Repr

def ReadCall.read : ReadCall → Read Value
  | u32 => do return .int (← Read.u32)
  | u64 => do return .int (← Read.u64)
  | pubkey => do return .key (← Read.pubkey)
  | string => do return .str (← Read.string)
  | bytes n => do return .bytes (← Read.bytes n)
  | remaining => do return .int (← Read.remaining)
  | finish => do
    Read.finish
    return .null

/-- All calls in turn, each with its result and the reader after it. -/
def Reader.run (r : Reader) : List ReadCall → List (Outcome Value × Reader)
  | [] => []
  | call :: calls =>
    let (result, r') := call.read.run r
    (result, r') :: run r' calls

end Wire
end SystemProgram
