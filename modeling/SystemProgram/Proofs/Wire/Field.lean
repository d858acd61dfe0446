import SystemProgram.Proofs.Value
import SystemProgram.Proofs.Wire.Accepts
import SystemProgram.Payload

namespace SystemProgram

open Wire

def Value.unsignedBytes (size max : Nat) : Value → Option Bytes
  | .int i => if 0 ≤ i ∧ i ≤ max then some (Bytes.ofNatLE size i.toNat) else none
  | _ => none

theorem Value.unsignedBytes_eq_some_iff {size max : Nat} {v : Value} {bs : Bytes} :
    v.unsignedBytes size max = some bs ↔
      ∃ n : Nat, n ≤ max ∧ v = .int n ∧ bs = Bytes.ofNatLE size n := by
  constructor
  · intro h
    cases v with
    | int i =>
      rw [unsignedBytes] at h
      split at h
      · next hi =>
        refine ⟨i.toNat, by omega, by rw [Int.toNat_of_nonneg hi.1], (Option.some.inj h).symm⟩
      · cases h
    | _ => cases h
  · intro h
    obtain ⟨n, hn, rfl, rfl⟩ := h
    rw [unsignedBytes, if_pos ⟨by omega, by omega⟩, Int.toNat_natCast]

/-- The bytes that a value is written as, if a field of the given kind may hold it. -/
def FieldKind.spelling : FieldKind → Value → Option Bytes
  | .u64, .int i => if 0 ≤ i ∧ i ≤ maxU64 then some (Bytes.ofNatLE u64Size i.toNat) else none
  | .pubkey, .key k => some k.bytes
  | .string, .str s =>
    if Utf8.size s ≤ maxU64 then
      some (Bytes.ofNatLE u64Size (Utf8.size s) ++ Utf8.encode s)
    else none
  | _, _ => none

def FieldKind.Admits : FieldKind → Value → Prop
  | .u64, v => ∃ i, v = .int i
  | .pubkey, v => ∃ k, v = .key k
  | .string, v => ∃ s, v = .str s

/-- The fields are those of the layout, in its order, and `bs` is what they are written as, one
after the other. -/
def Layout.Spells : Layout → Fields → Bytes → Prop
  | [], fs, bs => fs = [] ∧ bs = []
  | (name, kind) :: l, fs, bs =>
    ∃ v gs xs ys, fs = (name, v) :: gs ∧ kind.spelling v = some xs ∧ Spells l gs ys ∧ bs = xs ++ ys

theorem Layout.Spells.nil : Spells [] [] [] :=
  ⟨rfl, rfl⟩

theorem Layout.Spells.cons {l : Layout} {fs : Fields} {name : String} {kind : FieldKind} {v : Value}
    {xs ys : Bytes} (hv : kind.spelling v = some xs) (hl : l.Spells fs ys) :
    Spells ((name, kind) :: l) ((name, v) :: fs) (xs ++ ys) :=
  ⟨v, fs, xs, ys, rfl, hv, hl, rfl⟩

theorem Layout.Spells.names_eq {l : Layout} {fs : Fields} {bs : Bytes} (h : l.Spells fs bs) :
    fs.names = l.names := by
  induction l generalizing fs bs with
  | nil =>
    obtain ⟨rfl, rfl⟩ := h
    rfl
  | cons field l ih =>
    obtain ⟨v, gs, xs, ys, rfl, _, hl, _⟩ := h
    have := ih hl
    simp only [Fields.names, Layout.names, List.map_cons] at this ⊢
    rw [this]

theorem Layout.Spells.exists_values {l : Layout} {fs : Fields} {bs : Bytes} (h : l.Spells fs bs) :
    ∃ vs : List Value, vs.length = l.length ∧ fs = l.names.zip vs := by
  refine ⟨fs.map Prod.snd, ?_, ?_⟩
  · simpa [Fields.names, Layout.names] using congrArg List.length h.names_eq
  · rw [← h.names_eq, Fields.names, List.zip_map']
    simp

namespace FieldKind

theorem spelling_u64_eq_some_iff {v : Value} {bs : Bytes} :
    u64.spelling v = some bs ↔
      ∃ n, n ≤ maxU64 ∧ v = .int n ∧ bs = Bytes.ofNatLE u64Size n := by
  have hv : u64.spelling v = v.unsignedBytes u64Size maxU64 := by cases v <;> rfl
  rw [hv]
  exact Value.unsignedBytes_eq_some_iff

theorem spelling_pubkey_eq_some_iff {v : Value} {bs : Bytes} :
    pubkey.spelling v = some bs ↔ ∃ k, v = .key k ∧ bs = k.bytes := by
  constructor
  · intro h
    cases v with
    | key k => exact ⟨k, rfl, (Option.some.inj h).symm⟩
    | _ => cases h
  · intro h
    obtain ⟨k, rfl, rfl⟩ := h
    rfl

theorem spelling_string_eq_some_iff {v : Value} {bs : Bytes} :
    string.spelling v = some bs ↔
      ∃ s, Utf8.size s ≤ maxU64 ∧ v = .str s ∧
        bs = Bytes.ofNatLE u64Size (Utf8.size s) ++ Utf8.encode s := by
  constructor
  · intro h
    cases v with
    | str s =>
      rw [spelling] at h
      split at h
      · next hs => exact ⟨s, hs, rfl, (Option.some.inj h).symm⟩
      · cases h
    | _ => cases h
  · intro h
    obtain ⟨s, hs, rfl, rfl⟩ := h
    rw [spelling, if_pos hs]

theorem Admits.isExact {kind : FieldKind} {v : Value} (h : kind.Admits v) : v.IsExact := by
  cases kind <;> obtain ⟨_, rfl⟩ := h <;> trivial

theorem admits_of_spelling {kind : FieldKind} {v : Value} {bs : Bytes}
    (h : kind.spelling v = some bs) : kind.Admits v := by
  cases kind with
  | u64 =>
    obtain ⟨n, _, rfl, _⟩ := spelling_u64_eq_some_iff.1 h
    exact ⟨_, rfl⟩
  | pubkey =>
    obtain ⟨k, rfl, _⟩ := spelling_pubkey_eq_some_iff.1 h
    exact ⟨k, rfl⟩
  | string =>
    obtain ⟨s, _, rfl, _⟩ := spelling_string_eq_some_iff.1 h
    exact ⟨s, rfl⟩

end FieldKind

theorem Layout.Spells.admits {l : Layout} {fs : Fields} {bs : Bytes} (h : l.Spells fs bs) :
    List.Forall₂ (fun f e => f.2.Admits e.2) l fs := by
  induction l generalizing fs bs with
  | nil =>
    obtain ⟨rfl, _⟩ := h
    exact .nil
  | cons field l ih =>
    obtain ⟨v, gs, _, _, rfl, hv, hl, _⟩ := h
    exact .cons (FieldKind.admits_of_spelling hv) (ih hl)

theorem Layout.Spells.isExact {l : Layout} {fs : Fields} {bs : Bytes} (h : l.Spells fs bs) :
    ∀ f ∈ fs, f.2.IsExact := by
  induction l generalizing fs bs with
  | nil =>
    obtain ⟨rfl, _⟩ := h
    exact List.forall_mem_nil _
  | cons field l ih =>
    obtain ⟨v, gs, _, _, rfl, hv, hl, _⟩ := h
    exact List.forall_mem_cons.2 ⟨(FieldKind.admits_of_spelling hv).isExact, ih hl⟩

theorem Layout.Spells.isKey_head {l : Layout} {fs : Fields} {bs : Bytes} {name name' : String}
    {v : Value} (h : Layout.Spells ((name, .pubkey) :: l) ((name', v) :: fs) bs) :
    ∃ k, v = .key k :=
  (List.forall₂_cons.1 h.admits).1

/-- What the first action has appended before it fails is still there. -/
theorem Wire.Emit.run_bind (m m' : Emit Unit) (w : Writer) :
    (m >>= fun _ => m').run w = match m.run w with
      | (.ok _, w') => m'.run w'
      | (.error e, w') => (.error e, w') := by
  change (match m.run w with | (x, s) => (ExceptT.bindCont (fun _ => m') x : StateM Writer _) s) = _
  rcases m.run w with ⟨_ | _, _⟩ <;> rfl

namespace Wire.Writer

variable {w w' : Writer}

theorem after_eq_ok_iff {m : Emit Unit} : w.after m = .ok w' ↔ m.run w = (.ok (), w') := by
  unfold after
  rcases m.run w with ⟨e | ⟨⟩, s⟩
  · exact ⟨nofun, nofun⟩
  · constructor
    · intro h
      cases h
      rfl
    · intro h
      cases h
      rfl

theorem after_eq_error_iff {m : Emit Unit} {e : Failure} :
    w.after m = .error e ↔ ∃ s, m.run w = (.error e, s) := by
  unfold after
  rcases m.run w with ⟨e' | ⟨⟩, s⟩
  · constructor
    · intro h
      cases h
      exact ⟨s, rfl⟩
    · intro h
      obtain ⟨_, h⟩ := h
      cases h
      rfl
  · exact ⟨nofun, nofun⟩

theorem after_bind (w : Writer) (m m' : Emit Unit) :
    w.after (m >>= fun _ => m') = w.after m >>= fun w' => w'.after m' := by
  unfold after
  rw [Emit.run_bind]
  rcases m.run w with ⟨_ | _, _⟩ <;> rfl

/-- The text goes behind its length. -/
theorem string_str (w : Writer) (s : String) :
    w.string (.str s) =
      w.u64 (.int (Utf8.size s)) >>= fun w' => .ok (w'.append (Utf8.encode s)) :=
  after_bind ..

theorem unsigned?_eq_some_iff {max n : Nat} {v : Value} :
    unsigned? max v = some n ↔ n ≤ max ∧ v = .int n := by
  constructor
  · intro h
    cases v with
    | int i =>
      rw [unsigned?] at h
      split at h
      · cases h
        exact ⟨by omega, by rw [Int.toNat_of_nonneg (by omega)]⟩
      · cases h
    | _ => cases h
  · intro h
    obtain ⟨hn, rfl⟩ := h
    rw [unsigned?, if_pos ⟨by omega, by omega⟩, Int.toNat_natCast]

theorem unsigned_eq_ok_iff {size max : Nat} {v : Value} :
    w.unsigned size max v = .ok w' ↔
      ∃ n, n ≤ max ∧ v = .int n ∧ w' = w.append (Bytes.ofNatLE size n) := by
  constructor
  · intro h
    unfold Writer.unsigned Emit.unsigned at h
    split at h
    · next n hn =>
      cases h
      obtain ⟨hle, rfl⟩ := unsigned?_eq_some_iff.1 hn
      exact ⟨n, hle, rfl, rfl⟩
    · cases h
  · intro h
    obtain ⟨n, hn, rfl, rfl⟩ := h
    rw [Writer.unsigned, Emit.unsigned, unsigned?_eq_some_iff.2 ⟨hn, rfl⟩]
    rfl

theorem append_append (w : Writer) (xs ys : Bytes) :
    (w.append xs).append ys = w.append (xs ++ ys) := by
  simp [append]

theorem string_eq_ok_iff {v : Value} :
    w.string v = .ok w' ↔
      ∃ s, Utf8.size s ≤ maxU64 ∧ v = .str s ∧
        w' = w.append (Bytes.ofNatLE u64Size (Utf8.size s) ++ Utf8.encode s) := by
  constructor
  · intro h
    cases v with
    | str s =>
      rw [string_str] at h
      rcases hu : w.u64 (.int (Utf8.size s)) with e | u
      · rw [hu] at h
        cases h
      · rw [hu] at h
        obtain ⟨n, hn, hv, rfl⟩ := unsigned_eq_ok_iff.1 hu
        cases h
        obtain rfl : Utf8.size s = n := by simpa using hv
        exact ⟨s, hn, rfl, append_append ..⟩
    | _ => cases h
  · intro h
    obtain ⟨s, hs, rfl, rfl⟩ := h
    have hu : w.u64 (.int (Utf8.size s)) = .ok (w.append (Bytes.ofNatLE u64Size (Utf8.size s))) :=
      unsigned_eq_ok_iff.2 ⟨Utf8.size s, hs, rfl, rfl⟩
    rw [string_str, hu, ← append_append]
    rfl

/-- Writing a field appends the spelling of its value. -/
theorem field_eq_ok_iff {kind : FieldKind} {v : Value} :
    w.field kind v = .ok w' ↔ ∃ bs, kind.spelling v = some bs ∧ w' = w.append bs := by
  cases kind with
  | u64 =>
    simp only [FieldKind.spelling_u64_eq_some_iff]
    constructor
    · intro h
      obtain ⟨n, hn, rfl, rfl⟩ := unsigned_eq_ok_iff.1 h
      exact ⟨_, ⟨n, hn, rfl, rfl⟩, rfl⟩
    · intro h
      obtain ⟨_, ⟨n, hn, rfl, rfl⟩, rfl⟩ := h
      exact unsigned_eq_ok_iff.2 ⟨n, hn, rfl, rfl⟩
  | pubkey =>
    simp only [FieldKind.spelling_pubkey_eq_some_iff]
    constructor
    · intro h
      cases v with
      | key k =>
        cases h
        exact ⟨_, ⟨k, rfl, rfl⟩, rfl⟩
      | _ => cases h
    · intro h
      obtain ⟨_, ⟨k, rfl, rfl⟩, rfl⟩ := h
      rfl
  | string =>
    simp only [FieldKind.spelling_string_eq_some_iff]
    constructor
    · intro h
      obtain ⟨s, hs, rfl, rfl⟩ := string_eq_ok_iff.1 h
      exact ⟨_, ⟨s, hs, rfl, rfl⟩, rfl⟩
    · intro h
      obtain ⟨_, ⟨s, hs, rfl, rfl⟩, rfl⟩ := h
      exact string_eq_ok_iff.2 ⟨s, hs, rfl, rfl⟩

end Wire.Writer

namespace Wire.Read

/-- A number of fixed width is its bytes, least significant first. -/
theorem unsigned_accepts (size : Nat) :
    Accepts (do return (← bytes size).toNatLE) fun bs n =>
      n < Bytes.card size ∧ bs = Bytes.ofNatLE size n := by
  apply ((bytes_accepts size).map Bytes.toNatLE).congr
  intro bs n
  constructor
  · intro h
    obtain ⟨xs, ⟨rfl, rfl⟩, rfl⟩ := h
    exact ⟨Bytes.toNatLE_lt xs, (Bytes.ofNatLE_toNatLE xs).symm⟩
  · intro h
    obtain ⟨hn, rfl⟩ := h
    refine ⟨_, ⟨Bytes.length_ofNatLE .., rfl⟩, ?_⟩
    rw [Bytes.toNatLE_ofNatLE_of_lt hn]

theorem card_u64Size : Bytes.card u64Size = maxU64 + 1 := rfl

theorem card_u32Size : Bytes.card u32Size = maxU32 + 1 := rfl

theorem u32_accepts : u32.Accepts fun bs n => n ≤ maxU32 ∧ bs = Bytes.ofNatLE u32Size n := by
  apply (unsigned_accepts u32Size).congr
  intro bs n
  rw [card_u32Size, Nat.lt_succ_iff]

theorem u64_accepts : u64.Accepts fun bs n => n ≤ maxU64 ∧ bs = Bytes.ofNatLE u64Size n := by
  apply (unsigned_accepts u64Size).congr
  intro bs n
  rw [card_u64Size, Nat.lt_succ_iff]

theorem pubkey_accepts : pubkey.Accepts fun bs k => bs = k.bytes := by
  have hf (bs : Bytes) : Accepts (pubkey.liftExcept (PublicKey.ofBytes bs)) fun xs k =>
      xs = [] ∧ PublicKey.ofBytes? bs = some k := by
    unfold PublicKey.ofBytes
    cases PublicKey.ofBytes? bs with
    | none => exact (accepts_throw _).congr (by simp)
    | some k => exact (accepts_pure k).congr (by simp [eq_comm])
  apply ((bytes_accepts keySize).bind hf).congr
  intro bs k
  constructor
  · intro h
    obtain ⟨_, xs, _, ⟨_, rfl⟩, ⟨rfl, hk⟩, rfl⟩ := h
    rw [List.append_nil, PublicKey.bytes_of_ofBytes? hk]
  · intro h
    obtain rfl := h
    exact ⟨_, k.bytes, [], ⟨k.size_eq, rfl⟩, ⟨rfl, k.ofBytes?_bytes⟩, by simp⟩

theorem string_accepts : string.Accepts fun bs s =>
    Utf8.size s ≤ maxU64 ∧ bs = Bytes.ofNatLE u64Size (Utf8.size s) ++ Utf8.encode s := by
  refine (u64_accepts.bind fun n => (bytes_accepts n).bind
    (S := fun bs xs s => xs = [] ∧ Utf8.encode s = bs) fun bs => ?_).congr ?_
  · rcases hd : Utf8.decode? bs with _ | s
    · refine (accepts_throw _).congr fun xs s => ⟨False.elim, fun h => ?_⟩
      rw [Utf8.decode?_eq_some_iff.2 h.2] at hd
      cases hd
    · refine (accepts_pure s).congr fun xs t => ?_
      rw [← Utf8.decode?_eq_some_iff, hd, Option.some_inj, eq_comm (a := s)]
  -- The length in front is that of the text, as the bytes behind it are those of the text.
  · intro bs s
    constructor
    · intro h
      obtain ⟨n, _, _, ⟨hn, rfl⟩, ⟨_, xs, _, ⟨rfl, rfl⟩, ⟨rfl, rfl⟩, rfl⟩, rfl⟩ := h
      exact ⟨hn, by rw [List.append_nil]; rfl⟩
    · intro h
      obtain ⟨hs, rfl⟩ := h
      exact ⟨Utf8.size s, _, Utf8.encode s, ⟨hs, rfl⟩,
        ⟨_, Utf8.encode s, [], ⟨rfl, rfl⟩, ⟨rfl, rfl⟩, by simp⟩, rfl⟩

/-- Reading a field accepts just the spellings of the values that the field may hold. -/
theorem field_accepts (kind : FieldKind) :
    (field kind).Accepts fun bs v => kind.spelling v = some bs := by
  cases kind with
  | u64 =>
    apply (u64_accepts.map fun n => Value.int n).congr
    intro bs v
    rw [FieldKind.spelling_u64_eq_some_iff]
    grind
  | pubkey =>
    apply (pubkey_accepts.map Value.key).congr
    intro bs v
    rw [FieldKind.spelling_pubkey_eq_some_iff]
    grind
  | string =>
    apply (string_accepts.map Value.str).congr
    intro bs v
    rw [FieldKind.spelling_string_eq_some_iff]
    grind

theorem fields_accepts (l : Layout) : (fields l).Accepts fun bs fs => l.Spells fs bs := by
  induction l with
  | nil =>
    apply (accepts_pure []).congr
    intro bs fs
    exact and_comm
  | cons head l ih =>
    obtain ⟨name, kind⟩ := head
    apply ((field_accepts kind).bind fun v => ih.map ((name, v) :: ·)).congr
    intro bs fs
    constructor
    · intro h
      obtain ⟨v, xs, ys, hv, ⟨gs, hl, rfl⟩, rfl⟩ := h
      exact ⟨v, gs, xs, ys, rfl, hv, hl, rfl⟩
    · intro h
      obtain ⟨v, gs, xs, ys, rfl, hv, hl, rfl⟩ := h
      exact ⟨v, xs, ys, hv, ⟨gs, hl, rfl⟩, rfl⟩

end Wire.Read
end SystemProgram
