import SystemProgram.Proofs.Wire.Accepts

namespace SystemProgram

/-- The outcome is a fault with the given code. -/
def Outcome.Raises {α : Type} (o : Outcome α) (code : ErrorCode) : Prop :=
  ∃ f, o = .error (.fault f) ∧ f.code = code

namespace Outcome

variable {α : Type} {m : Outcome α} {code code' : ErrorCode}

theorem Raises.unique (h : m.Raises code) (h' : m.Raises code') : code = code' := by
  obtain ⟨f, rfl, rfl⟩ := h
  obtain ⟨g, he, rfl⟩ := h'
  cases he
  rfl

theorem Raises.ne_ok (h : m.Raises code) (a : α) : m ≠ .ok a := by
  obtain ⟨f, rfl, _⟩ := h
  nofun

end Outcome

def Bytes.skip (n : Nat) (bs : Bytes) : Except ErrorCode Bytes :=
  if bs.length < n then .error .invalidFormat else .ok (bs.drop n)

def Bytes.close (bs : Bytes) : Except ErrorCode Bytes :=
  if bs = [] then .ok [] else .error .trailingBytes

namespace Bytes

variable {n : Nat} {bs : Bytes}

theorem skip_of_le (h : n ≤ bs.length) : skip n bs = .ok (bs.drop n) :=
  if_neg (Nat.not_lt.2 h)

theorem skip_of_lt (h : bs.length < n) : skip n bs = .error .invalidFormat :=
  if_pos h

theorem skip_skip (m n : Nat) (bs : Bytes) : (skip m bs >>= skip n) = skip (m + n) bs := by
  by_cases hm : m ≤ bs.length
  · rw [skip_of_le hm]
    change skip n (bs.drop m) = _
    unfold skip
    rw [List.length_drop, List.drop_drop]
    congr 1
    apply propext
    omega
  · rw [skip_of_lt (by omega), skip_of_lt (by omega)]
    rfl

end Bytes

open Wire

/-- What is left behind a field. A text is looked at as soon as all its bytes are there, whatever
follows it. -/
def FieldKind.skip : FieldKind → Bytes → Except ErrorCode Bytes
  | .u64, bs => bs.skip u64Size
  | .pubkey, bs => bs.skip keySize
  | .string, bs => do
    let text ← bs.skip u64Size
    let size := Bytes.toNatLE (bs.take u64Size)
    let rest ← Bytes.skip size text
    if (Utf8.decode? (text.take size)).isSome then return rest else throw .invalidSeed

def Layout.skip (l : Layout) (bs : Bytes) : Except ErrorCode Bytes :=
  l.foldlM (fun bs field => field.2.skip bs) bs

theorem Layout.skip_cons (field : String × FieldKind) (l : Layout) (bs : Bytes) :
    Layout.skip (field :: l) bs = field.2.skip bs >>= Layout.skip l :=
  List.foldlM_cons

theorem Layout.skip_append (l l' : Layout) (bs : Bytes) :
    Layout.skip (l ++ l') bs = Layout.skip l bs >>= Layout.skip l' :=
  List.foldlM_append

namespace Wire.Read

variable {α β : Type} {skip skip' : Bytes → Except ErrorCode Bytes}

/-- With any bytes before it, `m` ends as `skip` says: it leaves what `skip` leaves, or refuses with
the same code. -/
structure Skips (m : Read α) (skip : Bytes → Except ErrorCode Bytes) : Prop where
  ok : ∀ before after rest, skip after = .ok rest → ∃ a xs, after = xs ++ rest ∧
    m.run (.between before after) = (.ok a, .between (before ++ xs) rest)
  error : ∀ before after code, skip after = .error code →
    ∃ f s, m.run (.between before after) = (.error (.fault f), s) ∧ f.code = code

theorem Skips.bind {m : Read α} {f : α → Read β} (hm : m.Skips skip)
    (hf : ∀ a, (f a).Skips skip') : (m >>= f).Skips fun bs => skip bs >>= skip' := by
  constructor
  · intro before after rest h
    cases hs : skip after with
    | error code =>
      rw [hs] at h
      cases h
    | ok left =>
      rw [hs] at h
      obtain ⟨a, xs, rfl, hr⟩ := hm.ok before after left hs
      obtain ⟨b, ys, rfl, hr'⟩ := (hf a).ok (before ++ xs) left rest h
      refine ⟨b, xs ++ ys, by simp, ?_⟩
      rw [run_bind, hr]
      simpa using hr'
  · intro before after code h
    cases hs : skip after with
    | error code' =>
      rw [hs] at h
      obtain ⟨fault, s, hr, hc⟩ := hm.error before after code' hs
      cases h
      exact ⟨fault, s, by rw [run_bind, hr], hc⟩
    | ok left =>
      rw [hs] at h
      obtain ⟨a, xs, rfl, hr⟩ := hm.ok before after left hs
      obtain ⟨fault, s, hr', hc⟩ := (hf a).error (before ++ xs) left code h
      exact ⟨fault, s, by rw [run_bind, hr]; exact hr', hc⟩

theorem skips_pure (a : α) : (pure a : Read α).Skips pure := by
  constructor
  · intro before after rest h
    cases h
    exact ⟨a, [], rfl, by rw [List.append_nil]; rfl⟩
  · intro before after code h
    cases h

/-- A value computed from what was read. -/
theorem Skips.map {m : Read α} (hm : m.Skips skip) (f : α → β) :
    (m >>= fun a => pure (f a)).Skips skip := by
  have h : (m >>= fun a => pure (f a)).Skips fun bs => skip bs >>= pure :=
    hm.bind fun a => skips_pure (f a)
  simpa only [bind_pure] using h

/-- A read that begins with some bytes; they are all there when the rest of it is read. -/
theorem bytes_bind_skips {n : Nat} {f : Bytes → Read α}
    {left : Bytes → Bytes → Except ErrorCode Bytes}
    (hf : ∀ xs, xs.length = n → (f xs).Skips (left xs)) :
    (bytes n >>= f).Skips fun bs => Bytes.skip n bs >>= left (bs.take n) := by
  have hl (bs : Bytes) (h : n ≤ bs.length) : (f (bs.take n)).Skips (left (bs.take n)) :=
    hf _ (by rw [List.length_take]; omega)
  constructor
  · intro before after rest h
    by_cases hn : n ≤ after.length
    · rw [Bytes.skip_of_le hn] at h
      obtain ⟨a, xs, he, hr⟩ := (hl after hn).ok (before ++ after.take n) _ rest h
      refine ⟨a, after.take n ++ xs, ?_, ?_⟩
      · rw [List.append_assoc, ← he, List.take_append_drop]
      · rw [run_bind, bytes_run, if_neg (by omega)]
        simpa using hr
    · rw [Bytes.skip_of_lt (by omega)] at h
      cases h
  · intro before after code h
    by_cases hn : n ≤ after.length
    · rw [Bytes.skip_of_le hn] at h
      obtain ⟨fault, s, hr, hc⟩ := (hl after hn).error (before ++ after.take n) _ code h
      refine ⟨fault, s, ?_, hc⟩
      rw [run_bind, bytes_run, if_neg (by omega)]
      exact hr
    · rw [Bytes.skip_of_lt (by omega)] at h
      cases h
      refine ⟨.endOfData n before.length after.length, .between before after, ?_, rfl⟩
      rw [run_bind, bytes_run, if_pos (by omega)]

theorem skips_throw {fault : Fault} :
    (throw (.fault fault) : Read α).Skips fun _ => .error fault.code := by
  constructor
  · intro before after rest h
    cases h
  · intro before after code h
    cases h
    exact ⟨fault, _, rfl, rfl⟩

theorem u64_bind_skips {f : Nat → Read α} {left : Nat → Bytes → Except ErrorCode Bytes}
    (hf : ∀ n, (f n).Skips (left n)) : (u64 >>= f).Skips fun bs =>
      Bytes.skip u64Size bs >>= left (Bytes.toNatLE (bs.take u64Size)) := by
  have h : u64 >>= f = bytes u64Size >>= fun xs => f (Bytes.toNatLE xs) := by
    simp only [u64, bind_assoc, pure_bind]
  rw [h]
  exact bytes_bind_skips fun xs _ => hf (Bytes.toNatLE xs)

theorem string_skips : string.Skips (FieldKind.skip .string) := by
  let left (bs rest : Bytes) : Except ErrorCode Bytes :=
    if (Utf8.decode? bs).isSome then return rest else throw .invalidSeed
  refine @u64_bind_skips _ _ (fun n text => Bytes.skip n text >>= left (text.take n)) fun n => ?_
  refine @bytes_bind_skips _ _ _ left fun bs _ => ?_
  dsimp only [left]
  cases Utf8.decode? bs with
  | some s => exact skips_pure s
  | none => exact skips_throw

theorem field_skips (kind : FieldKind) : (field kind).Skips kind.skip := by
  cases kind with
  | u64 =>
    have h := u64_bind_skips fun n => skips_pure (Value.int n)
    simp only [bind_pure] at h
    exact h
  | pubkey =>
    have hk (bs : Bytes) (h : bs.length = keySize) :
        (pubkey.liftExcept (PublicKey.ofBytes bs)).Skips pure := by
      obtain ⟨k, hk⟩ := Option.isSome_iff_exists.1 (PublicKey.ofBytes?_isSome_iff.2 h)
      rw [PublicKey.ofBytes, hk]
      exact skips_pure k
    have h := (bytes_bind_skips hk).map Value.key
    simp only [bind_pure] at h
    exact h
  | string => exact string_skips.map Value.str

theorem fields_skips (l : Layout) : (fields l).Skips l.skip := by
  induction l with
  | nil => exact skips_pure []
  | cons field l ih => exact (field_skips field.2).bind fun v => ih.map ((field.1, v) :: ·)

theorem finish_skips : finish.Skips Bytes.close := by
  unfold Bytes.close
  constructor
  · intro before after rest h
    split at h
    · next ha =>
      cases h
      exact ⟨(), [], ha, by rw [finish_run, if_pos ha, ha, List.append_nil]⟩
    · cases h
  · intro before after code h
    split at h
    · cases h
    · next ha =>
      cases h
      exact ⟨_, _, by rw [finish_run, if_neg ha], rfl⟩

end Wire.Read
end SystemProgram
