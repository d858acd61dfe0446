import SystemProgram.Proofs.Payload.Size
import SystemProgram.Proofs.Wire.Stream

namespace SystemProgram

def Value.IsByteString : Value → Prop
  | .bytes _ | .buffer _ => True
  | _ => False

namespace Wire

namespace Emit

variable {m m' : Emit Unit}

/-- If the action fails, the buffer is as it was. -/
def IsAtomic (m : Emit Unit) : Prop :=
  ∀ ⦃w w' : Writer⦄ ⦃e : Failure⦄, m.run w = (.error e, w') → w' = w

theorem isAtomic_append (bs : Bytes) : (append bs).IsAtomic := by
  intro w w' e h
  cases h

theorem isAtomic_throw (e : Failure) : IsAtomic (throw e) := by
  intro w w' e' h
  cases h
  rfl

/-- Of two actions only the first may fail, as nothing takes back what the first has appended. -/
theorem IsAtomic.bind (hm : m.IsAtomic) (hm' : ∀ w, ∃ w', m'.run w = (.ok (), w')) :
    IsAtomic (m >>= fun _ => m') := by
  intro w w' e h
  rw [run_bind] at h
  rcases hs : m.run w with ⟨e' | ⟨⟩, s⟩
  · rw [hs] at h
    cases h
    exact hm hs
  · -- The second action does not fail, whatever the first has left.
    obtain ⟨s', hs'⟩ := hm' s
    rw [hs] at h
    dsimp only at h
    rw [hs'] at h
    cases h

-- Here the second action fails, and what the first has appended stays.
example : ((do append [1]; throw .wrongType : Emit Unit).run ⟨[]⟩) = (.error .wrongType, ⟨[1]⟩) :=
  rfl

theorem isAtomic_unsigned (size max : Nat) (v : Value) : (unsigned size max v).IsAtomic := by
  unfold unsigned
  split
  · exact isAtomic_append _
  · exact isAtomic_throw _

theorem isAtomic_bytes (v : Value) : (bytes v).IsAtomic := by
  unfold bytes
  split
  · exact isAtomic_append _
  · exact isAtomic_throw _

theorem isAtomic_pubkey (v : Value) : (pubkey v).IsAtomic := by
  cases v with
  | key k => exact isAtomic_append _
  | _ => exact isAtomic_throw _

/-- The length may be refused, the bytes behind it are not. -/
theorem isAtomic_string (v : Value) : (string v).IsAtomic := by
  cases v with
  | str s => exact (isAtomic_unsigned ..).bind fun w => ⟨w.append (Utf8.encode s), rfl⟩
  | _ => exact isAtomic_throw _

end Emit

namespace Write

def spelling : Write → Option Bytes
  | u32 v => v.unsignedBytes u32Size maxU32
  | u64 v => FieldKind.u64.spelling v
  | pubkey v => FieldKind.pubkey.spelling v
  | string v => FieldKind.string.spelling v
  | bytes (.bytes bs) | bytes (.buffer bs) => some bs
  | bytes _ => none

/-- What is reported of a call that cannot be carried out. A byte string is never refused. -/
def refusal? : Write → Option Failure
  | u32 v => some (.ofDefect (.tooWide v u32Size))
  | u64 v => some (FieldKind.u64.refusal v)
  | pubkey v => some (FieldKind.pubkey.refusal v)
  | string v => some (FieldKind.string.refusal v)
  | bytes _ => none

def size : Write → Nat
  | u32 _ => 4
  | u64 v => FieldKind.u64.size v
  | pubkey v => FieldKind.pubkey.size v
  | string v => FieldKind.string.size v
  | bytes (.bytes bs) | bytes (.buffer bs) => bs.length
  | bytes _ => 0

variable {call : Write} {bs : Bytes}

theorem isAtomic_emit (call : Write) : call.emit.IsAtomic := by
  cases call with
  | u32 v | u64 v => exact Emit.isAtomic_unsigned ..
  | bytes v => exact Emit.isAtomic_bytes v
  | pubkey v => exact Emit.isAtomic_pubkey v
  | string v => exact Emit.isAtomic_string v

theorem length_spelling (h : call.spelling = some bs) : bs.length = call.size := by
  cases call with
  | u32 v =>
    obtain ⟨n, _, _, rfl⟩ := Value.unsignedBytes_eq_some_iff.1 h
    exact Bytes.length_ofNatLE ..
  | u64 v | pubkey v | string v => exact FieldKind.length_spelling h
  | bytes v =>
    cases v with
    | bytes _ | buffer _ => exact congrArg List.length (Option.some.inj h).symm
    | _ => cases h

end Write

namespace Writer

/-- The call takes the writer `w` to another one: it appends its bytes, or it fails and appends
nothing. A failure is a defect, unless a text has no UTF-8 form. -/
inductive Step (call : Write) (w : Writer) : Writer → Option Failure → Prop where
  | written {bs : Bytes} (spelled : call.spelling = some bs) : Step call w (w.append bs) none
  | refused {d : Defect} (unspelled : call.spelling = none)
      (reported : call.refusal? = some (.ofDefect d)) : Step call w w (some (.ofDefect d))
  | broken {t : BrokenText} (text : call = .string (.broken t)) : Step call w w (some .notEncodable)

inductive Course : Writer → List Write → List (Writer × Option Failure) → Prop where
  | nil (w : Writer) : Course w [] []
  | cons {w w' : Writer} {call : Write} {e : Option Failure} {calls : List Write}
      {rest : List (Writer × Option Failure)} (first : Step call w w' e)
      (then_ : Course w' calls rest) : Course w (call :: calls) ((w', e) :: rest)

theorem run_cons_of_error {w : Writer} {call : Write} {e : Failure} (h : w.write call = .error e)
    (calls : List Write) : w.run (call :: calls) = (w, some e) :: w.run calls := by
  obtain ⟨s, hs⟩ := after_eq_error_iff.1 h
  rw [run, hs, call.isAtomic_emit hs]

end Writer

namespace Write

open Writer

variable {call : Write} {w : Writer}

/-- The call is a step of the writer, from which a run goes on. -/
def Steps (call : Write) (w : Writer) : Prop :=
  ∃ w' e, Step call w w' e ∧ ∀ calls, w.run (call :: calls) = (w', e) :: w'.run calls

theorem steps_of_ok {bs : Bytes} (hs : call.spelling = some bs)
    (hw : w.write call = .ok (w.append bs)) : call.Steps w :=
  ⟨_, _, .written hs, run_cons_of_ok hw⟩

theorem steps_of_error {d : Defect} (hs : call.spelling = none)
    (hd : call.refusal? = some (.ofDefect d)) (hw : w.write call = .error (.ofDefect d)) :
    call.Steps w :=
  ⟨_, _, .refused hs hd, run_cons_of_error hw⟩

/-- A call that writes a field does so as the value is spelled, or reports a defect. -/
theorem steps_of_field (kind : FieldKind) (v : Value) {d : Defect}
    (hw : w.write call = w.field kind v) (hs : call.spelling = kind.spelling v)
    (hd : kind.refusal v = .ofDefect d) (he : call.refusal? = some (kind.refusal v)) :
    call.Steps w := by
  cases hv : kind.spelling v with
  | some bs => exact steps_of_ok (hs.trans hv) (hw.trans (field_eq_ok_iff.2 ⟨bs, hv, rfl⟩))
  | none =>
    rw [hd] at he
    refine steps_of_error (hs.trans hv) he (hw.trans (hd ▸ field_eq_error fun hk => ?_))
    obtain ⟨bs, hb⟩ := FieldKind.exists_spelling hk
    rw [hv] at hb
    cases hb

/-- Every call is a step. -/
theorem steps (hb : ∀ v, call = .bytes v → v.IsByteString) (w : Writer) : call.Steps w := by
  cases call with
  | u32 v =>
    cases hs : (u32 v).spelling with
    | some bs =>
      obtain ⟨n, hn, rfl, rfl⟩ := Value.unsignedBytes_eq_some_iff.1 hs
      exact steps_of_ok hs (unsigned_eq_ok_iff.2 ⟨n, hn, rfl, rfl⟩)
    | none =>
      refine steps_of_error hs rfl (unsigned_eq_error fun n hn hv => ?_)
      rw [spelling, Value.unsignedBytes_eq_some_iff.2 ⟨n, hn, hv, rfl⟩] at hs
      cases hs
  | u64 v => exact steps_of_field .u64 v rfl rfl rfl rfl
  | pubkey v => exact steps_of_field .pubkey v rfl rfl rfl rfl
  | string v =>
    cases v with
    | broken t => exact ⟨_, _, .broken rfl, run_cons_of_error rfl⟩
    | _ => exact steps_of_field .string _ rfl rfl rfl rfl
  | bytes v =>
    cases v with
    | bytes bs | buffer bs => exact steps_of_ok rfl rfl
    | _ => exact (hb _ rfl).elim

end Write

namespace Writer

variable {w : Writer} {calls : List Write} {steps : List (Writer × Option Failure)}

theorem course_run (hb : ∀ v, .bytes v ∈ calls → v.IsByteString) (w : Writer) :
    Course w calls (w.run calls) := by
  induction calls generalizing w with
  | nil => exact .nil w
  | cons call calls ih =>
    obtain ⟨w', e, hs, hr⟩ := call.steps (fun v h => hb v (h ▸ List.mem_cons_self)) w
    rw [hr]
    exact .cons hs (ih (fun v h => hb v (List.mem_cons_of_mem _ h)) w')

def succeeded (calls : List Write) (steps : List (Writer × Option Failure)) : List Write :=
  ((calls.zip steps).filter fun step => step.2.2.isNone).map Prod.fst

/-- What a course leaves is pieced together from the bytes of the calls without a failure. -/
theorem Course.exists_pieces (h : Course w calls steps) :
    ∃ pieces : List Bytes,
      List.Forall₂ (fun call bs => call.spelling = some bs) (succeeded calls steps) pieces ∧
      (steps.getLast?.map Prod.fst).getD w = w.append pieces.flatten := by
  induction h with
  | nil w => exact ⟨[], .nil, by simp [append]⟩
  | cons first _ ih =>
    obtain ⟨pieces, hp, hl⟩ := ih
    rw [getD_last_cons, hl]
    cases first with
    | @written bs hs => exact ⟨bs :: pieces, .cons hs hp, append_append ..⟩
    | refused | broken =>
      -- The writer goes on where it was, and the call is none of those that count.
      exact ⟨pieces, hp, rfl⟩

theorem length_flatten_pieces {calls : List Write} {pieces : List Bytes}
    (h : List.Forall₂ (fun call bs => call.spelling = some bs) calls pieces) :
    pieces.flatten.length = (calls.map Write.size).sum := by
  induction h with
  | nil => rfl
  | cons hs _ ih =>
    rw [List.flatten_cons, List.length_append, ih, Write.length_spelling hs, List.map_cons,
      List.sum_cons]

/-- Whatever is written, and whatever of it fails: each call is a step. Behind all of them the
buffer is what it was and then the bytes of the calls that succeeded, in their order; its length has
grown by the sizes of these calls. -/
theorem run_atomic (hb : ∀ v, .bytes v ∈ calls → v.IsByteString) :
    Course w calls (w.run calls) ∧
      ∃ pieces : List Bytes,
        List.Forall₂ (fun call bs => call.spelling = some bs) (succeeded calls (w.run calls))
          pieces ∧
        (w.final calls).buf = w.buf ++ pieces.flatten ∧
        (w.final calls).buf.length =
          w.buf.length + ((succeeded calls (w.run calls)).map Write.size).sum := by
  have hc := course_run hb w
  obtain ⟨pieces, hp, hf⟩ := hc.exists_pieces
  have hl : (w.final calls).buf = w.buf ++ pieces.flatten := congrArg buf hf
  refine ⟨hc, pieces, hp, hl, ?_⟩
  rw [hl, List.length_append, length_flatten_pieces hp]

/-- A truth value, a number that is too large, bytes in place of a key, a missing text and half of a
character stand between values that can be written. -/
theorem run_atomic_past_failures :
    let w : Writer := ⟨[7]⟩
    let calls : List Write := [.u32 (.bool true), .string (.str "é"), .u64 (.int (2 ^ 64)),
      .pubkey (.bytes (List.replicate 32 0)), .bytes (.buffer [1, 2]), .string .null,
      .string (.broken ⟨['é'], ⟨0⟩, []⟩), .u32 (.int 258)]
    (∀ v, .bytes v ∈ calls → v.IsByteString) ∧ Course w calls (w.run calls) ∧
      (w.final calls).buf = [7, 2, 0, 0, 0, 0, 0, 0, 0, 0xC3, 0xA9, 1, 2, 2, 1, 0, 0] ∧
      (w.final calls).buf.length =
        1 + ((succeeded calls (w.run calls)).map Write.size).sum := by
  intro w calls
  have hb : ∀ v, .bytes v ∈ calls → v.IsByteString := by
    intro v h
    simp only [calls, List.mem_cons, Write.bytes.injEq, reduceCtorEq, List.not_mem_nil, false_or,
      or_false] at h
    exact h ▸ trivial
  obtain ⟨hc, _, _, _, hl⟩ := @run_atomic w calls hb
  exact ⟨hb, hc, by decide +kernel, hl⟩

/-- Of half of a character no defect is reported. -/
theorem write_half :
    ¬∀ (w : Writer) (v : Value), (∃ w', w.write (.string v) = .ok w') ∨
      ∃ d, w.write (.string v) = .error (.ofDefect d) := by
  intro h
  rcases h ⟨[]⟩ (.broken ⟨[], ⟨0⟩, []⟩) with ⟨_, h⟩ | ⟨d, h⟩
  · cases h
  · exact Failure.ofDefect_ne_notEncodable d (Except.error.inj h).symm

end Writer
end Wire
end SystemProgram
