import SystemProgram.Proofs.Payload
import SystemProgram.Proofs.Wire.Skip

namespace SystemProgram

open Wire

/-- How many bytes a field takes, those of a text not counted. -/
def FieldKind.width : FieldKind → Nat
  | .u64 => u64Size
  | .pubkey => keySize
  | .string => u64Size

namespace Layout

def width (l : Layout) : Nat :=
  (l.map fun field => field.2.width).sum

def isFixed (l : Layout) : Bool :=
  l.all fun field => field.2 ≠ .string

def beforeSeed (l : Layout) : Layout :=
  l.takeWhile fun field => field.2 ≠ .string

def afterSeed (l : Layout) : Layout :=
  (l.dropWhile fun field => field.2 ≠ .string).tail

end Layout

namespace Payload

def sizeFlaw (n whole : Nat) : Option ErrorCode :=
  if n < whole then some .invalidFormat
  else if whole < n then some .trailingBytes
  else none

def flaws : List ErrorCode :=
  [.invalidFormat, .unknownInstruction, .invalidSeed, .trailingBytes]

/-- What is wrong with a payload that has the given tag. Behind the fields before the seed stands
the length of the seed; bad bytes in the seed show before bytes that are missing or left over behind
it. -/
def flaw (tag : Tag) (d : Bytes) : Option ErrorCode :=
  let before := u32Size + tag.layout.beforeSeed.width
  let start := before + u64Size
  let size := Bytes.toNatLE ((d.drop before).take u64Size)
  if tag.layout.isFixed then sizeFlaw d.length (u32Size + tag.layout.width)
  else if d.length < start ∨ d.length - start < size then some .invalidFormat
  else if (Utf8.decode? ((d.drop start).take size)).isNone then some .invalidSeed
  else sizeFlaw d.length (start + size + tag.layout.afterSeed.width)

end Payload

theorem FieldKind.skip_of_ne_string {kind : FieldKind} (h : kind ≠ .string) (bs : Bytes) :
    kind.skip bs = bs.skip kind.width := by
  cases kind with
  | u64 => rfl
  | pubkey => rfl
  | string => exact absurd rfl h

theorem Layout.skip_of_isFixed {l : Layout} (h : l.isFixed = true) :
    Layout.skip l = Bytes.skip l.width := by
  induction l with
  | nil =>
    funext bs
    exact (Bytes.skip_of_le (Nat.zero_le _)).symm
  | cons field l ih =>
    obtain ⟨hf, hl⟩ := Bool.and_eq_true_iff.1 h
    funext bs
    rw [Layout.skip_cons, ih hl, FieldKind.skip_of_ne_string (of_decide_eq_true hf),
      Bytes.skip_skip]
    rfl

/-- A layout with a text has one, and fields of fixed width around it. -/
theorem Tag.layout_eq_of_not_isFixed {t : Tag} (h : t.layout.isFixed = false) :
    t.layout = t.layout.beforeSeed ++ ("seed", .string) :: t.layout.afterSeed ∧
      t.layout.beforeSeed.isFixed = true ∧ t.layout.afterSeed.isFixed = true := by
  cases t <;> first | exact ⟨rfl, rfl, rfl⟩ | cases h

namespace Payload

def ofFlaw : Option ErrorCode → Except ErrorCode Bytes
  | none => .ok []
  | some code => .error code

theorem skip_close (n : Nat) (bs : Bytes) :
    (Bytes.skip n bs >>= Bytes.close) = ofFlaw (sizeFlaw bs.length n) := by
  unfold sizeFlaw
  by_cases hn : bs.length < n
  · rw [Bytes.skip_of_lt hn, if_pos hn]
    rfl
  · rw [Bytes.skip_of_le (by omega), if_neg hn]
    change Bytes.close (bs.drop n) = _
    unfold Bytes.close
    by_cases hb : n < bs.length
    · rw [if_neg (by simpa using hb), if_pos hb]
      rfl
    · rw [if_pos (by simpa using hb), if_neg hb]
      rfl

/-- Bytes in front count on both sides. -/
theorem sizeFlaw_sub {k n : Nat} (h : k ≤ n) (whole : Nat) :
    sizeFlaw (n - k) whole = sizeFlaw n (k + whole) := by
  have h₁ : n - k < whole ↔ n < k + whole := by omega
  have h₂ : whole < n - k ↔ k + whole < n := by omega
  simp only [sizeFlaw, h₁, h₂]

/-- What is wrong with the bytes from the length of a text on; `after` bytes come behind the
text. -/
def textFlaw (after : Nat) (bs : Bytes) : Option ErrorCode :=
  let size := Bytes.toNatLE (bs.take u64Size)
  if bs.length < u64Size ∨ bs.length - u64Size < size then some .invalidFormat
  else if (Utf8.decode? ((bs.drop u64Size).take size)).isNone then some .invalidSeed
  else sizeFlaw bs.length (u64Size + size + after)

theorem string_skip_close (after : Nat) (bs : Bytes) :
    (FieldKind.skip .string bs >>= fun rest => Bytes.skip after rest >>= Bytes.close) =
      ofFlaw (textFlaw after bs) := by
  unfold textFlaw
  dsimp only [FieldKind.skip]
  generalize Bytes.toNatLE (bs.take u64Size) = size
  by_cases hn : bs.length < u64Size
  · rw [if_pos (.inl hn), Bytes.skip_of_lt hn]
    rfl
  have hd : (bs.drop u64Size).length = bs.length - u64Size := List.length_drop
  rw [Bytes.skip_of_le (by omega)]
  by_cases hs : bs.length - u64Size < size
  · rw [if_pos (.inr hs)]
    change ((Bytes.skip size (bs.drop u64Size) >>= _) >>= _) = _
    rw [Bytes.skip_of_lt (by omega)]
    rfl
  rw [if_neg (by omega)]
  change ((Bytes.skip size (bs.drop u64Size) >>= _) >>= _) = _
  rw [Bytes.skip_of_le (by omega)]
  cases hu : Utf8.decode? ((bs.drop u64Size).take size) with
  | none => rfl
  | some s =>
    change (Bytes.skip after ((bs.drop u64Size).drop size) >>= Bytes.close) = _
    rw [skip_close, List.length_drop, hd, sizeFlaw_sub (by omega), sizeFlaw_sub (by omega),
      ← Nat.add_assoc]
    rfl

theorem flaw_of_lt {tag : Tag} (h : tag.layout.isFixed = false) {d : Bytes}
    (hd : d.length < u32Size + tag.layout.beforeSeed.width) :
    flaw tag d = some .invalidFormat := by
  have hs : d.length < u32Size + tag.layout.beforeSeed.width + u64Size := by omega
  simp only [flaw, h, hs, Bool.false_eq_true, if_false, true_or, if_true]

theorem flaw_of_le {tag : Tag} (h : tag.layout.isFixed = false) {d : Bytes}
    (hd : u32Size + tag.layout.beforeSeed.width ≤ d.length) :
    flaw tag d =
      textFlaw tag.layout.afterSeed.width (d.drop (u32Size + tag.layout.beforeSeed.width)) := by
  unfold flaw textFlaw
  rw [h]
  generalize u32Size + tag.layout.beforeSeed.width = before at hd ⊢
  dsimp only
  rw [List.length_drop, List.drop_drop, sizeFlaw_sub hd]
  generalize Bytes.toNatLE ((d.drop before).take u64Size) = size
  have hs : d.length < before + u64Size ∨ d.length - (before + u64Size) < size ↔
      d.length - before < u64Size ∨ d.length - before - u64Size < size := by omega
  have hw (after : Nat) : before + u64Size + size + after = before + (u64Size + size + after) := by
    omega
  simp only [hs, hw, Bool.false_eq_true, if_false]

theorem sizeFlaw_mem {n whole : Nat} {code : ErrorCode} (h : sizeFlaw n whole = some code) :
    code ∈ flaws := by
  unfold sizeFlaw at h
  split_ifs at h <;> cases h <;> decide

theorem flaw_mem {tag : Tag} {d : Bytes} {code : ErrorCode} (h : flaw tag d = some code) :
    code ∈ flaws := by
  unfold flaw at h
  dsimp only at h
  split at h
  · exact sizeFlaw_mem h
  · split at h
    · cases h
      decide
    · split at h
      · cases h
        decide
      · exact sizeFlaw_mem h

/-- Skipping the fields and closing finds just what is wrong. -/
theorem skip_layout_close (tag : Tag) {d : Bytes} (h : u32Size ≤ d.length) :
    (Layout.skip tag.layout (d.drop u32Size) >>= Bytes.close) = ofFlaw (flaw tag d) := by
  have hd : (d.drop u32Size).length = d.length - u32Size := List.length_drop
  cases hf : tag.layout.isFixed with
  | true => rw [Layout.skip_of_isFixed hf, skip_close, hd, flaw, if_pos hf, sizeFlaw_sub h]
  | false =>
    obtain ⟨hl, hb, ha⟩ := Tag.layout_eq_of_not_isFixed hf
    rw [hl, Layout.skip_append, Layout.skip_of_isFixed hb, bind_assoc]
    by_cases hn : u32Size + tag.layout.beforeSeed.width ≤ d.length
    · rw [Bytes.skip_of_le (by omega), flaw_of_le hf hn, List.drop_drop]
      change (Layout.skip (_ :: tag.layout.afterSeed) _ >>= Bytes.close) = _
      rw [Layout.skip_cons, Layout.skip_of_isFixed ha, bind_assoc]
      exact string_skip_close ..
    · rw [Bytes.skip_of_lt (by omega), flaw_of_lt hf (by omega)]
      rfl

theorem decode_eq_run (d : Bytes) : decode d = (read.run (.between [] d)).1 := by
  rw [decode, Reader.between_nil]

theorem readTag_run (d : Bytes) :
    readTag.run (.between [] d) =
      if d.length < u32Size then
        (.error (.fault (.endOfData u32Size 0 d.length)), .between [] d)
      else
        match Tag.ofNumber? (Bytes.toNatLE (d.take u32Size)) with
        | some tag => (.ok tag, .between (d.take u32Size) (d.drop u32Size))
        | none => (.error (.fault (.unknownTag (Bytes.toNatLE (d.take u32Size)))),
            .between (d.take u32Size) (d.drop u32Size)) := by
  simp only [readTag, Read.u32, bind_assoc, pure_bind, Read.run_bind, Read.bytes_run]
  by_cases h : d.length < u32Size
  · rw [if_pos h, if_pos h]
    rfl
  · rw [if_neg h, if_neg h]
    dsimp only
    cases Tag.ofNumber? (Bytes.toNatLE (d.take u32Size)) <;> rfl

theorem decode_of_short {d : Bytes} (h : d.length < u32Size) :
    (decode d).Raises .invalidFormat := by
  refine ⟨.endOfData u32Size 0 d.length, ?_, rfl⟩
  rw [decode_eq_run, read, Read.run_bind, readTag_run, if_pos h]

theorem decode_of_unknown {d : Bytes} (h : u32Size ≤ d.length)
    (ht : Tag.ofNumber? (Bytes.toNatLE (d.take u32Size)) = none) :
    (decode d).Raises .unknownInstruction := by
  refine ⟨.unknownTag (Bytes.toNatLE (d.take u32Size)), ?_, rfl⟩
  rw [decode_eq_run, read, Read.run_bind, readTag_run, if_neg (by omega), ht]

/-- Reading what follows the tag. -/
theorem body_skips (tag : Tag) :
    (do
      let fs ← Read.fields tag.layout
      Read.finish
      return (tag, fs) : Read (Tag × Fields)).Skips fun bs =>
        Layout.skip tag.layout bs >>= Bytes.close :=
  (Read.fields_skips tag.layout).bind fun fs => Read.finish_skips.map fun _ => (tag, fs)

/-- A payload that is decoded begins with its tag. -/
theorem number_of_decode {tag : Tag} {fs : Fields} {d : Bytes} (h : decode d = .ok (tag, fs)) :
    Bytes.toNatLE (d.take u32Size) = tag.number := by
  obtain ⟨body, _, rfl⟩ := decode_eq_ok_iff.1 h
  have hl : (header tag).length = u32Size := Bytes.length_ofNatLE ..
  have hc : tag.number < Bytes.card u32Size := by cases tag <;> decide
  rw [List.take_left' hl, header, Bytes.toNatLE_ofNatLE_of_lt hc]

theorem decode_of_tag {tag : Tag} {d : Bytes} (h : u32Size ≤ d.length)
    (ht : Tag.ofNumber? (Bytes.toNatLE (d.take u32Size)) = some tag) :
    match flaw tag d with
    | none => ∃ fs, decode d = .ok (tag, fs)
    | some code => (decode d).Raises code := by
  have hs := skip_layout_close tag h
  have hr : (readTag.run (.between [] d)) =
      (.ok tag, .between (d.take u32Size) (d.drop u32Size)) := by
    rw [readTag_run, if_neg (by omega), ht]
  cases hf : flaw tag d with
  | none =>
    rw [hf] at hs
    obtain ⟨⟨tag', fs⟩, xs, _, hb⟩ := (body_skips tag).ok (d.take u32Size) _ _ hs
    have hd : decode d = .ok (tag', fs) := by
      rw [decode_eq_run, read, Read.run_bind, hr]
      exact congrArg Prod.fst hb
    rw [number_of_decode hd, Tag.ofNumber?_number] at ht
    obtain rfl := Option.some.inj ht
    exact ⟨fs, hd⟩
  | some code =>
    rw [hf] at hs
    obtain ⟨fault, s, hb, hc⟩ := (body_skips tag).error (d.take u32Size) _ _ hs
    refine ⟨fault, ?_, hc⟩
    rw [decode_eq_run, read, Read.run_bind, hr]
    exact congrArg Prod.fst hb

/-- Nothing but a flaw keeps a payload from being decoded. -/
theorem decode_total (d : Bytes) :
    (∃ tag fs, decode d = .ok (tag, fs)) ∨ ∃ code ∈ flaws, (decode d).Raises code := by
  by_cases h : d.length < u32Size
  · exact .inr ⟨_, by decide, decode_of_short h⟩
  · have hl : u32Size ≤ d.length := Nat.le_of_not_lt h
    cases ht : Tag.ofNumber? (Bytes.toNatLE (d.take u32Size)) with
    | none => exact .inr ⟨_, by decide, decode_of_unknown hl ht⟩
    | some tag =>
      have hd := decode_of_tag hl ht
      split at hd
      · exact .inl ⟨tag, hd⟩
      · next code hf => exact .inr ⟨code, flaw_mem hf, hd⟩

/-- Decoding gives fields or a fault, by the length, the number in front and the seed alone. The
length of a seed is any number of eight bytes, however far it goes beyond the payload. -/
theorem decode_verdict (d : Bytes) :
    (d.length < u32Size ∧ (decode d).Raises .invalidFormat) ∨
    (u32Size ≤ d.length ∧ 11 < Bytes.toNatLE (d.take u32Size) ∧
      (decode d).Raises .unknownInstruction) ∨
    ∃ tag : Tag, u32Size ≤ d.length ∧ Bytes.toNatLE (d.take u32Size) = tag.number ∧
      match flaw tag d with
      | none => ∃ fs, decode d = .ok (tag, fs)
      | some code => (decode d).Raises code := by
  by_cases h : d.length < u32Size
  · exact .inl ⟨h, decode_of_short h⟩
  · have hd : u32Size ≤ d.length := Nat.le_of_not_lt h
    cases ht : Tag.ofNumber? (Bytes.toNatLE (d.take u32Size)) with
    | none => exact .inr (.inl ⟨hd, Tag.ofNumber?_eq_none_iff.1 ht, decode_of_unknown hd ht⟩)
    | some tag =>
      exact .inr (.inr ⟨tag, hd, (Tag.number_of_ofNumber? ht).symm, decode_of_tag hd ht⟩)

/-- A seed of one bad byte, with the owner behind it missing. -/
example : flaw .transferWithSeed ([11, 0, 0, 0] ++ List.replicate 8 7 ++
    [1, 0, 0, 0, 0, 0, 0, 0, 0xFF]) = some .invalidSeed := by
  decide +kernel

end Payload
end SystemProgram
