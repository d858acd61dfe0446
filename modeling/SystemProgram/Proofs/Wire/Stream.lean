import SystemProgram.Proofs.Wire.Field
import SystemProgram.Proofs.Wire.Position

namespace SystemProgram.Wire

def Writer.final (w : Writer) (ops : List Write) : Writer :=
  ((w.run ops).getLast?.map Prod.fst).getD w

namespace Writer

variable {w w' : Writer} {op : Write}

theorem getD_last_cons (w : Writer) (step : Writer × Option Failure)
    (steps : List (Writer × Option Failure)) :
    ((step :: steps).getLast?.map Prod.fst).getD w =
      (steps.getLast?.map Prod.fst).getD step.1 := by
  rw [List.getLast?_cons]
  cases steps.getLast? <;> rfl

theorem run_cons_of_ok (h : w.write op = .ok w') (ops : List Write) :
    w.run (op :: ops) = (w', none) :: w'.run ops := by
  rw [run, after_eq_ok_iff.1 h]

theorem final_cons_of_ok (h : w.write op = .ok w') (ops : List Write) :
    w.final (op :: ops) = w'.final ops := by
  rw [final, final, run_cons_of_ok h, getD_last_cons]

end Writer

/-- A value that can be written. Raw bytes may be given as any value that stands for bytes. -/
inductive Item where
  | u32 (n : Nat) (fits : n ≤ maxU32)
  | u64 (n : Nat) (fits : n ≤ maxU64)
  | key (k : PublicKey)
  | text (s : String) (fits : Utf8.size s ≤ maxU64)
  | raw (v : Value) (bs : Bytes) (stands : rawBytes v = .ok bs)

namespace Item

def write : Item → Write
  | u32 n _ => .u32 (.int n)
  | u64 n _ => .u64 (.int n)
  | key k => .pubkey (.key k)
  | text s _ => .string (.str s)
  | raw v _ _ => .bytes v

/-- The call that reads the item back. How many raw bytes there are has to be known. -/
def call : Item → ReadCall
  | u32 .. => .u32
  | u64 .. => .u64
  | key _ => .pubkey
  | text .. => .string
  | raw _ bs _ => .bytes bs.length

def value : Item → Value
  | u32 n _ | u64 n _ => .int n
  | key k => .key k
  | text s _ => .str s
  | raw _ bs _ => .bytes bs

def bytes : Item → Bytes
  | u32 n _ => Bytes.ofNatLE u32Size n
  | u64 n _ => Bytes.ofNatLE u64Size n
  | key k => k.bytes
  | text s _ => Bytes.ofNatLE u64Size (Utf8.size s) ++ Utf8.encode s
  | raw _ bs _ => bs

/-- Writing an item appends its bytes, whatever was written before. -/
theorem write_eq (w : Writer) (i : Item) : w.write i.write = .ok (w.append i.bytes) := by
  cases i with
  | u32 n fits => exact Writer.unsigned_eq_ok_iff.2 ⟨n, fits, rfl, rfl⟩
  | u64 n fits => exact Writer.unsigned_eq_ok_iff.2 ⟨n, fits, rfl, rfl⟩
  | key k => rfl
  | text s fits => exact Writer.string_eq_ok_iff.2 ⟨s, fits, rfl, rfl⟩
  | raw v bs stands =>
    change w.after (Emit.bytes v) = _
    rw [Emit.bytes, stands]
    rfl

/-- What reading an item back accepts includes its bytes. -/
theorem exists_accepts (i : Item) : ∃ R, i.call.read.Accepts R ∧ R i.bytes i.value := by
  cases i with
  | u32 n fits => exact ⟨_, Read.u32_accepts.map fun n => Value.int n, n, ⟨fits, rfl⟩, rfl⟩
  | u64 n fits => exact ⟨_, Read.u64_accepts.map fun n => Value.int n, n, ⟨fits, rfl⟩, rfl⟩
  | key k => exact ⟨_, Read.pubkey_accepts.map Value.key, k, rfl, rfl⟩
  | text s fits => exact ⟨_, Read.string_accepts.map Value.str, s, ⟨fits, rfl⟩, rfl⟩
  | raw v bs stands =>
    exact ⟨_, (Read.bytes_accepts bs.length).map Value.bytes, bs, ⟨rfl, rfl⟩, rfl⟩

/-- Reading an item back takes just its bytes. -/
theorem read_eq (i : Item) (before rest : Bytes) :
    i.call.read.run (.between before (i.bytes ++ rest)) =
      (.ok i.value, .between (before ++ i.bytes) rest) := by
  obtain ⟨R, hR, hi⟩ := i.exists_accepts
  exact (hR ..).2 ⟨i.bytes, rest, hi, rfl, rfl⟩

end Item

variable {items : List Item}

theorem Writer.run_items (w : Writer) (items : List Item) :
    (∀ step ∈ w.run (items.map Item.write), step.2 = none) ∧
      w.final (items.map Item.write) = w.append (items.flatMap Item.bytes) := by
  induction items generalizing w with
  | nil => exact ⟨List.forall_mem_nil _, by simp [final, run, append]⟩
  | cons i items ih =>
    obtain ⟨hr, hf⟩ := ih (w.append i.bytes)
    rw [List.map_cons, run_cons_of_ok (i.write_eq w), final_cons_of_ok (i.write_eq w)]
    exact ⟨List.forall_mem_cons.2 ⟨rfl, hr⟩, by rw [hf, append_append, List.flatMap_cons]⟩

/-- Reading items back comes to the place behind them, from which on `calls` are played. -/
theorem Reader.run_items (calls : List ReadCall) (before rest : Bytes) (items : List Item) :
    ((between before (items.flatMap Item.bytes ++ rest)).run
        (items.map Item.call ++ calls)).map Prod.fst =
      items.map (fun i => .ok i.value) ++
        ((between (before ++ items.flatMap Item.bytes) rest).run calls).map Prod.fst := by
  induction items generalizing before with
  | nil => simp
  | cons i items ih =>
    have hi := i.read_eq before (items.flatMap Item.bytes ++ rest)
    rw [List.flatMap_cons, List.append_assoc, List.map_cons, List.cons_append, run_cons hi,
      List.map_cons, ih, List.map_cons, List.cons_append, List.append_assoc]

theorem Reader.run_remaining_finish (before rest : Bytes) :
    ((between before rest).run [.remaining, .finish]).map Prod.fst =
      [.ok (.int rest.length),
        if rest = [] then .ok .null else .error (.fault (.trailingBytes rest.length))] := by
  have hr : ReadCall.remaining.read.run (between before rest) =
      (.ok (.int rest.length), between before rest) := by
    rw [← remaining_between before rest]
    rfl
  have hf : ReadCall.finish.read.run (between before rest) =
      (if rest = [] then .ok .null else .error (.fault (.trailingBytes rest.length)),
        between before rest) := by
    rw [ReadCall.read, Read.run_bind, Read.finish_run]
    by_cases h : rest = []
    · rw [if_pos h, if_pos h]
      rfl
    · rw [if_neg h, if_neg h]
  rw [run_cons hr, run_cons hf]
  rfl

/-- Every item can be written behind anything. A reader of the result, with anything behind it, that
starts where the first item begins gives all items back in their order, and leaves just what is
behind them; it has come to the end exactly if that is nothing. -/
theorem run_written (w : Writer) (items : List Item) (suffix : Bytes) :
    (∀ step ∈ w.run (items.map Item.write), step.2 = none) ∧
      (Reader.run ⟨(w.final (items.map Item.write)).buf ++ suffix, w.buf.length⟩
          (items.map Item.call ++ [.remaining, .finish])).map Prod.fst =
        items.map (fun i => .ok i.value) ++
          [.ok (.int suffix.length),
            if suffix = [] then .ok .null
            else .error (.fault (.trailingBytes suffix.length))] := by
  obtain ⟨hw, hf⟩ := w.run_items items
  refine ⟨hw, ?_⟩
  have hs : (⟨(w.final (items.map Item.write)).buf ++ suffix, w.buf.length⟩ : Reader) =
      .between w.buf (items.flatMap Item.bytes ++ suffix) := by
    rw [hf, Writer.append, Reader.between, List.append_assoc]
  rw [hs, Reader.run_items, Reader.run_remaining_finish]

end SystemProgram.Wire
