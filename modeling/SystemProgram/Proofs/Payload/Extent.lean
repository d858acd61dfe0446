import SystemProgram.Proofs.Payload.Verdict

namespace SystemProgram

open Wire

namespace FieldKind

variable {kind : FieldKind} {v : Value} {bs : Bytes} {n : Nat}

theorem skip_spelling_append (h : kind.spelling v = some bs) (rest : Bytes) :
    kind.skip (bs ++ rest) = .ok rest := by
  cases kind with
  | u64 =>
    obtain ⟨i, _, _, rfl⟩ := spelling_u64_eq_some_iff.1 h
    have hl : (Bytes.ofNatLE u64Size i).length = u64Size := Bytes.length_ofNatLE ..
    rw [skip, Bytes.skip_of_le (by simp [hl]), List.drop_left' hl]
  | pubkey =>
    obtain ⟨k, _, rfl⟩ := spelling_pubkey_eq_some_iff.1 h
    rw [skip, Bytes.skip_of_le (by simp [k.size_eq]), List.drop_left' k.size_eq]
  | string =>
    obtain ⟨s, hs, _, rfl⟩ := spelling_string_eq_some_iff.1 h
    have hl : (Bytes.ofNatLE u64Size (Utf8.size s)).length = u64Size := Bytes.length_ofNatLE ..
    have hc : Utf8.size s < Bytes.card u64Size := Nat.lt_succ_of_le hs
    have hu : (Utf8.encode s ++ rest).take (Utf8.size s) = Utf8.encode s := List.take_left' rfl
    have hr : (Utf8.encode s ++ rest).drop (Utf8.size s) = rest := List.drop_left' rfl
    rw [skip, List.append_assoc, Bytes.skip_of_le (by simp [hl]), List.drop_left' hl,
      List.take_left' hl, Bytes.toNatLE_ofNatLE_of_lt hc]
    change (Bytes.skip (Utf8.size s) (Utf8.encode s ++ rest) >>= _) = _
    rw [Bytes.skip_of_le (by simp [Utf8.size]), hu, hr, Utf8.decode?_encode]
    rfl

/-- A part of a field ends too soon, also where the cut goes through a character of a text. -/
theorem skip_take (h : kind.spelling v = some bs) (hn : n < bs.length) :
    kind.skip (bs.take n) = .error .invalidFormat := by
  have ht : (bs.take n).length = n := List.length_take_of_le hn.le
  cases kind with
  | u64 =>
    obtain ⟨i, _, _, rfl⟩ := spelling_u64_eq_some_iff.1 h
    rw [Bytes.length_ofNatLE] at hn
    exact Bytes.skip_of_lt (by omega)
  | pubkey =>
    obtain ⟨k, _, rfl⟩ := spelling_pubkey_eq_some_iff.1 h
    rw [k.size_eq] at hn
    exact Bytes.skip_of_lt (by omega)
  | string =>
    obtain ⟨s, hs, _, rfl⟩ := spelling_string_eq_some_iff.1 h
    have hl : (Bytes.ofNatLE u64Size (Utf8.size s)).length = u64Size := Bytes.length_ofNatLE ..
    have hc : Utf8.size s < Bytes.card u64Size := Nat.lt_succ_of_le hs
    rw [List.length_append, hl] at hn
    by_cases hp : n < u64Size
    · rw [skip, Bytes.skip_of_lt (by omega)]
      rfl
    · -- The length is there, and more bytes than are left.
      have hp : u64Size ≤ n := Nat.le_of_not_lt hp
      rw [List.take_append, hl, List.take_of_length_le (by omega)] at ht ⊢
      rw [List.length_append, hl] at ht
      rw [skip, Bytes.skip_of_le (by simp [hl]), List.drop_left' hl, List.take_left' hl,
        Bytes.toNatLE_ofNatLE_of_lt hc]
      change (Bytes.skip (Utf8.size s) ((Utf8.encode s).take (n - u64Size)) >>= _) = _
      rw [Bytes.skip_of_lt]
      · rfl
      · change n < u64Size + Utf8.size s at hn
        omega

end FieldKind

theorem Layout.skip_take {l : Layout} {fs : Fields} {body : Bytes} (h : l.Spells fs body) {n : Nat}
    (hn : n < body.length) : Layout.skip l (body.take n) = .error .invalidFormat := by
  induction l generalizing fs body n with
  | nil =>
    obtain ⟨_, rfl⟩ := h
    exact absurd hn (Nat.not_lt_zero n)
  | cons field l ih =>
    obtain ⟨v, gs, xs, ys, _, hx, hl, rfl⟩ := h
    rw [Layout.skip_cons, List.take_append]
    by_cases hc : n < xs.length
    · rw [Nat.sub_eq_zero_of_le hc.le, List.take_zero, List.append_nil,
        FieldKind.skip_take hx hc]
      rfl
    · rw [List.length_append] at hn
      have hm : n - xs.length < ys.length := by omega
      rw [List.take_of_length_le (by omega), FieldKind.skip_spelling_append hx]
      exact ih hl hm

namespace Payload

variable {tag : Tag} {fs : Fields} {bs : Bytes}

theorem length_header (tag : Tag) : (header tag).length = u32Size :=
  Bytes.length_ofNatLE ..

theorem toNatLE_header (tag : Tag) : Bytes.toNatLE (header tag) = tag.number := by
  have hc : tag.number < Bytes.card u32Size := by cases tag <;> decide
  exact Bytes.toNatLE_ofNatLE_of_lt hc

/-- A part of a payload ends too soon. -/
theorem decode_take (h : decode bs = .ok (tag, fs)) {n : Nat} (hn : n < bs.length) :
    (decode (bs.take n)).Raises .invalidFormat := by
  obtain ⟨body, hl, rfl⟩ := decode_eq_ok_iff.1 h
  have ht : ((header tag ++ body).take n).length = n := List.length_take_of_le hn.le
  by_cases hs : n < u32Size
  · exact decode_of_short (by omega)
  · have hp : (header tag ++ body).take n = header tag ++ body.take (n - u32Size) := by
      rw [List.take_append, length_header, List.take_of_length_le]
      rw [length_header]
      omega
    have hd : u32Size ≤ ((header tag ++ body).take n).length := by omega
    have hf : Tag.ofNumber? (Bytes.toNatLE (((header tag ++ body).take n).take u32Size)) =
        some tag := by
      rw [hp, List.take_left' (length_header tag), toNatLE_header, Tag.ofNumber?_number]
    rw [List.length_append, length_header] at hn
    have hk : ofFlaw (flaw tag ((header tag ++ body).take n)) = .error .invalidFormat := by
      rw [← skip_layout_close tag hd, hp, List.drop_left' (length_header tag),
        Layout.skip_take hl (by omega)]
      rfl
    have hv := decode_of_tag hd hf
    cases hw : flaw tag ((header tag ++ body).take n) with
    | none =>
      rw [hw] at hk
      cases hk
    | some code =>
      rw [hw] at hk hv
      cases hk
      exact hv

/-- Bytes behind a payload are left over, and counted. -/
theorem decode_append (h : decode bs = .ok (tag, fs)) {s : Bytes} (hs : s ≠ []) :
    decode (bs ++ s) = .error (.fault (.trailingBytes s.length)) := by
  obtain ⟨body, hl, rfl⟩ := decode_eq_ok_iff.1 h
  have ht : readTag.run (.between [] (header tag ++ body ++ s)) =
      (.ok tag, .between (header tag) (body ++ s)) :=
    (readTag_accepts ..).2 ⟨header tag, body ++ s, rfl, by simp, rfl⟩
  have hg : (Read.fields tag.layout).run (.between (header tag) (body ++ s)) =
      (.ok fs, .between (header tag ++ body) s) :=
    (Read.fields_accepts _ ..).2 ⟨body, s, hl, rfl, rfl⟩
  rw [decode_eq_run, read, Read.run_bind, ht]
  dsimp only
  rw [Read.run_bind, hg]
  dsimp only
  rw [Read.run_bind, Read.finish_run, if_neg hs]

/-- An encoding is told apart from all its parts and all its continuations: a part of it, wherever
it is cut, ends too soon, and of bytes behind it their number is reported. So no encoding begins
with another one. -/
theorem encode_self_delimiting (h : encode tag fs = .ok bs) :
    (∀ n, n < bs.length → (decode (bs.take n)).Raises .invalidFormat) ∧
    (∀ s, s ≠ [] → decode (bs ++ s) = .error (.fault (.trailingBytes s.length)) ∧
      (Fault.trailingBytes s.length).code = .trailingBytes) ∧
    ∀ tag' fs' bs', encode tag' fs' = .ok bs' → bs <+: bs' → bs = bs' := by
  have hd {tag : Tag} {fs : Fields} {bs : Bytes} (h : encode tag fs = .ok bs) :
      ∃ gs, decode bs = .ok (tag, gs) := by
    obtain ⟨gs, body, _, hl, rfl⟩ := encode_eq_ok_iff.1 h
    exact ⟨gs, decode_eq_ok_iff.2 ⟨body, hl, rfl⟩⟩
  obtain ⟨gs, hb⟩ := hd h
  refine ⟨fun n hn => decode_take hb hn, fun s hs => ⟨decode_append hb hs, rfl⟩, ?_⟩
  intro tag' fs' bs' h' hp
  obtain ⟨s, rfl⟩ := hp
  obtain ⟨gs', hb'⟩ := hd h'
  by_cases hs : s = []
  · rw [hs, List.append_nil]
  · rw [decode_append hb hs] at hb'
    cases hb'

/-- A seed of one letter in two bytes, cut between the two. -/
theorem encode_self_delimiting_in_character :
    ∃ bs, encode .transferWithSeed
        [("seed", .str "é"), ("from_owner", .key rent), ("lamports", .int 7)] = .ok bs ∧
      bs.length = 54 ∧ (decode (bs.take 21)).Raises .invalidFormat := by
  have hp : List.Perm [("seed", Value.str "é"), ("from_owner", .key rent), ("lamports", .int 7)]
      [("lamports", .int 7), ("seed", .str "é"), ("from_owner", .key rent)] :=
    .trans (.cons _ (.swap ..)) (.swap ..)
  obtain ⟨body, hs, hl⟩ : ∃ body, Tag.transferWithSeed.layout.Spells
      [("lamports", .int 7), ("seed", .str "é"), ("from_owner", .key rent)] body ∧
      body.length = 50 :=
    ⟨_, .cons rfl (.cons rfl (.cons rfl .nil)), by
      simp only [List.length_append, Bytes.length_ofNatLE, PublicKey.size_eq]
      rfl⟩
  have h := encode_eq_ok_iff.2 ⟨_, body, hp, hs, rfl⟩
  have hn : (header .transferWithSeed ++ body).length = 54 := by
    rw [List.length_append, length_header, hl]
    rfl
  exact ⟨_, h, hn, (encode_self_delimiting h).1 21 (by omega)⟩

end Payload
end SystemProgram
