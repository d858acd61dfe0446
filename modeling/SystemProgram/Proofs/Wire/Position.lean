import SystemProgram.Proofs.Wire.Accepts

namespace SystemProgram

def Bytes.declared (bs : Bytes) : Nat :=
  Bytes.toNatLE (bs.take Wire.u64Size)

namespace Wire

namespace ReadCall

def Succeeds : ReadCall → Bytes → Prop
  | u32, left => u32Size ≤ left.length
  | u64, left => u64Size ≤ left.length
  | pubkey, left => keySize ≤ left.length
  | string, left => u64Size + left.declared ≤ left.length ∧
      (Utf8.decode? ((left.drop u64Size).take left.declared)).isSome
  | bytes n, left => n ≤ left.length
  | remaining, _ => True
  | finish, left => left = []

/-- What the bytes that a call has taken stand for. The number of bytes that remain is the only
answer that does not depend on them. -/
def Gives : ReadCall → Bytes → Value → Prop
  | u32, taken, v => taken.length = u32Size ∧ v = .int taken.toNatLE
  | u64, taken, v => taken.length = u64Size ∧ v = .int taken.toNatLE
  | pubkey, taken, v => taken.length = keySize ∧ ∃ k, v = .key k ∧ k.bytes = taken
  | string, taken, v => taken.length = u64Size + taken.declared ∧
      ∃ s, v = .str s ∧ Utf8.encode s = taken.drop u64Size
  | bytes n, taken, v => taken.length = n ∧ v = .bytes taken
  | remaining, taken, _ => taken = []
  | finish, taken, v => taken = [] ∧ v = .null

/-- How many bytes a call takes that fails. Only a text can fail when its size has been read, or
when all of it has. -/
def residue : ReadCall → Bytes → Nat
  | string, left =>
    if left.length < u64Size then 0
    else if left.length < u64Size + left.declared then u64Size
    else u64Size + left.declared
  | _, _ => 0

theorem Gives.unique {call : ReadCall} {taken : Bytes} {v w : Value} (hc : call ≠ .remaining)
    (hv : call.Gives taken v) (hw : call.Gives taken w) : v = w := by
  cases call with
  | u32 | u64 | bytes n | finish => exact hv.2.trans hw.2.symm
  | pubkey =>
    obtain ⟨_, k, rfl, hk⟩ := hv
    obtain ⟨_, l, rfl, hl⟩ := hw
    rw [PublicKey.ext (hk.trans hl.symm)]
  | string =>
    obtain ⟨_, s, rfl, hs⟩ := hv
    obtain ⟨_, t, rfl, ht⟩ := hw
    rw [Utf8.encode_injective (hs.trans ht.symm)]
  | remaining => exact absurd rfl hc

end ReadCall

namespace Reader

def left (r : Reader) : Bytes :=
  r.data.drop r.pos.toNat

theorem run_cons {call : ReadCall} {r s : Reader} {o : Outcome Value}
    (h : call.read.run r = (o, s)) (calls : List ReadCall) :
    r.run (call :: calls) = (o, s) :: s.run calls := by
  rw [run, h]

/-- The call takes the reader `r` to `s`, with the given outcome. -/
structure Step (call : ReadCall) (r : Reader) (o : Outcome Value) (s : Reader) : Prop where
  data_eq : s.data = r.data
  pos_le : r.pos ≤ s.pos
  pos_le_length : s.pos ≤ s.data.length
  succeeds_iff : (∃ v, o = .ok v) ↔ call.Succeeds r.left
  gives : ∀ v, o = .ok v → call.Gives (r.data.slice r.pos s.pos) v
  residue : ∀ e, o = .error e → s.pos = r.pos + call.residue r.left
  remaining : call = .remaining → o = .ok (.int r.remaining)
  finish_iff : call = .finish → ((∃ v, o = .ok v) ↔ r.pos = r.data.length)

inductive Course : Reader → List ReadCall → List (Outcome Value × Reader) → Prop where
  | nil (r : Reader) : Course r [] []
  | cons {r s : Reader} {call : ReadCall} {o : Outcome Value} {calls : List ReadCall}
      {rest : List (Outcome Value × Reader)} (first : Step call r o s)
      (then_ : Course s calls rest) : Course r (call :: calls) ((o, s) :: rest)

section Between

variable {before after : Bytes} {call : ReadCall} {v : Value} {e : Failure} {k : Nat}

theorem left_between (before after : Bytes) : (between before after).left = after := by
  simp [left, between]

/-- A reader within its data has something behind it and something to read. -/
theorem exists_between {r : Reader} (h0 : 0 ≤ r.pos) (hl : r.pos ≤ r.data.length) :
    ∃ before after, r = between before after := by
  refine ⟨r.data.take r.pos.toNat, r.data.drop r.pos.toNat, ?_⟩
  have hp : (r.data.take r.pos.toNat).length = r.pos.toNat := by
    rw [List.length_take]
    omega
  rw [between, List.take_append_drop, hp, Int.toNat_of_nonneg h0]

def ahead (before after : Bytes) (k : Nat) : Reader :=
  between (before ++ after.take k) (after.drop k)

theorem ahead_zero (before after : Bytes) : ahead before after 0 = between before after := by
  simp [ahead]

theorem data_ahead : (ahead before after k).data = (between before after).data := by
  simp [ahead, between]

theorem pos_ahead (hk : k ≤ after.length) :
    (ahead before after k).pos = (between before after).pos + k := by
  simp [ahead, between, Nat.min_eq_left hk]

theorem slice_ahead (hk : k ≤ after.length) :
    (between before after).data.slice (between before after).pos (ahead before after k).pos =
      after.take k := by
  rw [pos_ahead hk, Bytes.slice_of_le (by simp [between]) (by omega) (by simp [between, hk])]
  simp [between]

theorem finish_iff_between (hc : call = .finish) :
    call.Succeeds after ↔ (between before after).pos = (between before after).data.length := by
  subst hc
  simp [ReadCall.Succeeds, between]

/-- A call that moves on by `k` bytes is a step if its outcome fits what is there. -/
theorem step_ahead {o : Outcome Value} (hk : k ≤ after.length)
    (hs : (∃ v, o = .ok v) ↔ call.Succeeds after)
    (hg : ∀ v, o = .ok v → call.Gives (after.take k) v)
    (hx : ∀ e, o = .error e → call.residue after = k)
    (hr : call = .remaining → o = .ok (.int after.length)) :
    Step call (between before after) o (ahead before after k) where
  data_eq := data_ahead
  pos_le := by
    rw [pos_ahead hk]
    omega
  pos_le_length := by
    rw [pos_ahead hk, data_ahead]
    simpa [between] using hk
  succeeds_iff := by rwa [left_between]
  gives := by
    intro v hv
    rw [slice_ahead hk]
    exact hg v hv
  residue := by
    intro e he
    rw [left_between, hx e he, pos_ahead hk]
  remaining := by
    intro hc
    rw [remaining_between, hr hc]
  finish_iff := by
    intro hc
    rw [← finish_iff_between hc, hs]

theorem step_ok (hk : k ≤ after.length) (hs : call.Succeeds after)
    (hg : call.Gives (after.take k) v) (hr : call = .remaining → v = .int after.length) :
    Step call (between before after) (.ok v) (ahead before after k) := by
  refine step_ahead hk ⟨fun _ => hs, fun _ => ⟨v, rfl⟩⟩ ?_ ?_ fun hc => congrArg _ (hr hc)
  · intro w hw
    exact Except.ok.inj hw ▸ hg
  · intro e he
    cases he

theorem step_error (hk : k ≤ after.length) (hs : ¬call.Succeeds after)
    (hx : call.residue after = k) :
    Step call (between before after) (.error e) (ahead before after k) := by
  refine step_ahead hk ?_ ?_ (fun _ _ => hx) fun hc => ?_
  · simp [hs]
  · intro w hw
    cases hw
  · subst hc
    exact absurd trivial hs

end Between

end Reader

open Reader

theorem Read.string_run (before after : Bytes) :
    string.run (.between before after) =
      if after.length < u64Size then
        (.error (.fault (.endOfData u64Size before.length after.length)), .between before after)
      else
        let text := after.drop u64Size
        let before := before ++ after.take u64Size
        if text.length < after.declared then
          (.error (.fault (.endOfData after.declared before.length text.length)),
            .between before text)
        else
          (match Utf8.decode? (text.take after.declared) with
            | some s => .ok s
            | none => .error (.fault .seedNotUtf8),
            .between (before ++ text.take after.declared) (text.drop after.declared)) := by
  simp only [string, u64, bind_assoc, pure_bind, run_bind, bytes_run]
  by_cases hn : after.length < u64Size
  · rw [if_pos hn, if_pos hn]
  · rw [if_neg hn, if_neg hn]
    have hd : Bytes.toNatLE (after.take u64Size) = after.declared := rfl
    dsimp only
    rw [hd, bytes_run]
    by_cases ht : (after.drop u64Size).length < after.declared
    · rw [if_pos ht, if_pos ht]
    · rw [if_neg ht, if_neg ht]
      dsimp only
      cases Utf8.decode? ((after.drop u64Size).take after.declared) <;> rfl

namespace ReadCall

variable {call : ReadCall} {n : Nat} {f : Bytes → Read Value} {before after : Bytes}

/-- The call is a step of the reader, by some number of bytes. -/
def Steps (call : ReadCall) (before after : Bytes) : Prop :=
  ∃ o k, call.read.run (.between before after) = (o, ahead before after k) ∧
    Step call (.between before after) o (ahead before after k)

/-- A call that takes so many bytes, whatever they are. -/
theorem steps_of_bytes (hr : call.read = Read.bytes n >>= f)
    (hg : ∀ taken, taken.length = n → ∃ v, call.Gives taken v ∧ ∀ s, (f taken).run s = (.ok v, s))
    (hs : ∀ left, call.Succeeds left ↔ n ≤ left.length) (he : ∀ left, call.residue left = 0)
    (hc : call ≠ .remaining) : call.Steps before after := by
  rw [Steps, hr, Read.run_bind, Read.bytes_run]
  by_cases hn : after.length < n
  · rw [if_pos hn]
    refine ⟨_, 0, by rw [ahead_zero], step_error (Nat.zero_le _) ?_ (he _)⟩
    exact mt (hs _).1 (Nat.not_le.2 hn)
  · rw [if_neg hn]
    have hn : n ≤ after.length := Nat.le_of_not_lt hn
    obtain ⟨v, hv, hk⟩ := hg _ (List.length_take_of_le hn)
    exact ⟨.ok v, n, hk _, step_ok hn ((hs _).2 hn) hv fun h => absurd h hc⟩

theorem steps_string (before after : Bytes) : string.Steps before after := by
  rw [Steps, ReadCall.read, Read.run_bind, Read.string_run]
  by_cases hn : after.length < u64Size
  · -- The size is not there.
    rw [if_pos hn]
    refine ⟨_, 0, by rw [ahead_zero], step_error (Nat.zero_le _) (fun h => ?_) (if_pos hn)⟩
    have : u64Size + _ ≤ after.length := h.1
    omega
  rw [if_neg hn]
  have hl : (after.drop u64Size).length = after.length - u64Size := List.length_drop
  dsimp only
  by_cases ht : (after.drop u64Size).length < after.declared
  · -- The size goes beyond what is there.
    rw [if_pos ht]
    refine ⟨_, u64Size, rfl, step_error (by omega) (fun h => ?_) ?_⟩
    · have := h.1
      omega
    · rw [residue, if_neg hn, if_pos (by omega)]
  rw [if_neg ht]
  have hk : u64Size + after.declared ≤ after.length := by omega
  have ha : Reader.between
      (before ++ after.take u64Size ++ (after.drop u64Size).take after.declared)
      ((after.drop u64Size).drop after.declared) =
        ahead before after (u64Size + after.declared) := by
    rw [ahead, List.take_add, List.append_assoc, List.drop_drop]
  rw [ha]
  cases hd : Utf8.decode? ((after.drop u64Size).take after.declared) with
  | none =>
    refine ⟨_, _, rfl, step_error hk (fun h => ?_) ?_⟩
    · have := h.2
      rw [hd] at this
      cases this
    · rw [residue, if_neg hn, if_neg (Nat.not_lt.2 hk)]
  | some s =>
    have ht : Bytes.declared (after.take (u64Size + after.declared)) = after.declared := by
      rw [Bytes.declared, List.take_take, Nat.min_eq_left (by omega)]
      rfl
    refine ⟨.ok (.str s), _, rfl, step_ok hk ⟨hk, by rw [hd]; rfl⟩ ⟨?_, s, rfl, ?_⟩ nofun⟩
    · rw [ht, List.length_take_of_le hk]
    · rw [Utf8.encode_of_decode? hd, List.drop_take, Nat.add_sub_cancel_left]

/-- Every call is a step. -/
theorem steps (hn : ∀ n, call = .bytes n → 0 ≤ n) (before after : Bytes) :
    call.Steps before after := by
  cases call with
  | u32 | u64 =>
    refine steps_of_bytes (f := fun bs => pure (.int bs.toNatLE)) ?_
      (fun taken h => ⟨_, ⟨h, rfl⟩, fun _ => rfl⟩) (fun _ => .rfl) (fun _ => rfl) nofun
    simp only [ReadCall.read, Read.u32, Read.u64, bind_assoc, pure_bind]
  | pubkey =>
    refine steps_of_bytes (bind_assoc ..) (fun taken h => ?_) (fun _ => .rfl) (fun _ => rfl) nofun
    obtain ⟨k, hk⟩ := Option.isSome_iff_exists.1 (PublicKey.ofBytes?_isSome_iff.2 h)
    refine ⟨.key k, ⟨h, k, rfl, PublicKey.bytes_of_ofBytes? hk⟩, fun s => ?_⟩
    rw [PublicKey.ofBytes, hk]
    rfl
  | string => exact steps_string before after
  | bytes n =>
    obtain ⟨m, rfl⟩ := Int.eq_ofNat_of_zero_le (hn n rfl)
    exact steps_of_bytes rfl (fun taken h => ⟨_, ⟨congrArg _ h, rfl⟩, fun _ => rfl⟩)
      (fun left => Int.ofNat_le) (fun _ => rfl) nofun
  | remaining =>
    refine ⟨.ok (.int after.length), 0, ?_, step_ok (Nat.zero_le _) trivial rfl fun _ => rfl⟩
    rw [ahead_zero, ← remaining_between before after]
    rfl
  | finish =>
    rw [Steps, ReadCall.read, Read.run_bind, Read.finish_run]
    by_cases ha : after = []
    · rw [if_pos ha]
      exact ⟨.ok .null, 0, by rw [ahead_zero]; rfl,
        step_ok (Nat.zero_le _) ha ⟨rfl, rfl⟩ nofun⟩
    · rw [if_neg ha]
      exact ⟨_, 0, by rw [ahead_zero], step_error (Nat.zero_le _) ha rfl⟩

end ReadCall

namespace Reader

variable {r : Reader} {calls : List ReadCall} {steps : List (Outcome Value × Reader)}

theorem Course.pos_le_length (h : Course r calls steps) :
    ∀ step ∈ steps, step.2.data = r.data ∧ step.2.pos ≤ r.data.length := by
  induction h with
  | nil => exact List.forall_mem_nil _
  | cons first _ ih =>
    refine List.forall_mem_cons.2 ⟨⟨first.data_eq, first.data_eq ▸ first.pos_le_length⟩, ?_⟩
    rwa [first.data_eq] at ih

theorem Course.positions (h : Course r calls steps) :
    (r.pos :: steps.map fun step => step.2.pos).Pairwise (· ≤ ·) := by
  induction h with
  | nil => exact List.pairwise_singleton _ _
  | cons first _ ih =>
    have hp := first.pos_le
    refine List.pairwise_cons.2 ⟨List.forall_mem_cons.2 ⟨hp, fun p hm => ?_⟩, ih⟩
    exact hp.trans ((List.pairwise_cons.1 ih).1 p hm)

theorem course_between (hn : ∀ n, .bytes n ∈ calls → 0 ≤ n) (before after : Bytes) :
    Course (between before after) calls ((between before after).run calls) := by
  induction calls generalizing before after with
  | nil => exact .nil _
  | cons call calls ih =>
    obtain ⟨o, k, hr, hs⟩ :=
      call.steps (fun n h => hn n (h ▸ List.mem_cons_self)) before after
    rw [run_cons hr]
    exact .cons hs (ih (fun n h => hn n (List.mem_cons_of_mem _ h)) _ _)

/-- Whatever is called on a reader that starts within its data, and whatever fails: the position
never decreases and never passes the end, and each call is a step. The bytes that are passed by a
call that succeeds determine its value; a failing one passes only those of a text, so far as it has
been read. -/
theorem run_course (h0 : 0 ≤ r.pos) (hl : r.pos ≤ r.data.length)
    (hn : ∀ n, .bytes n ∈ calls → 0 ≤ n) :
    Course r calls (r.run calls) ∧
      ((r.pos :: (r.run calls).map fun step => step.2.pos).Pairwise (· ≤ ·)) ∧
      (∀ step ∈ r.run calls, step.2.data = r.data ∧ step.2.pos ≤ r.data.length) ∧
      ∀ (call : ReadCall) taken v w, call ≠ .remaining → call.Gives taken v →
        call.Gives taken w → v = w := by
  obtain ⟨before, after, rfl⟩ := exists_between h0 hl
  have hc := course_between hn before after
  exact ⟨hc, hc.positions, hc.pos_le_length, fun _ _ _ _ => ReadCall.Gives.unique⟩

/-- A text of bad bytes, then one that claims to have all bytes there can be; two bytes are left. -/
theorem run_course_of_bad_texts :
    let data := [9] ++ [2, 0, 0, 0, 0, 0, 0, 0, 0xFF, 0xFE] ++ List.replicate 8 0xFF ++ [5, 6]
    let r : Reader := ⟨data, 1⟩
    let calls : List ReadCall := [.string, .bytes 0, .string, .u32, .finish, .bytes 2, .finish]
    0 ≤ r.pos ∧ r.pos ≤ r.data.length ∧ (∀ n, .bytes n ∈ calls → 0 ≤ n) ∧
      Course r calls (r.run calls) ∧
      (r.run calls).map (fun step => step.2.pos) = [11, 11, 19, 19, 19, 21, 21] := by
  intro data r calls
  have h0 : 0 ≤ r.pos := by decide
  have hl : r.pos ≤ r.data.length := by decide
  have hn : ∀ n, .bytes n ∈ calls → 0 ≤ n := by
    intro n h
    simp only [calls, List.mem_cons, ReadCall.bytes.injEq, reduceCtorEq, List.not_mem_nil,
      false_or, or_false] at h
    omega
  exact ⟨h0, hl, hn, (run_course h0 hl hn).1, by decide +kernel⟩

end Reader
end Wire
end SystemProgram
