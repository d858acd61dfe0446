import SystemProgram.Proofs.Wire.Field

namespace SystemProgram

namespace Fields

variable {fs gs : Fields} {name : String} {v : Value}

theorem mem_of_get?_eq_some (h : fs.get? name = some v) : (name, v) ∈ fs := by
  obtain ⟨⟨n, w⟩, hf, rfl⟩ := Option.map_eq_some_iff.1 h
  have hn : n = name := by simpa using List.find?_some hf
  exact hn ▸ List.mem_of_find?_eq_some hf

theorem get?_eq_some_of_mem (hd : fs.names.Nodup) (h : (name, v) ∈ fs) :
    fs.get? name = some v := by
  induction fs with
  | nil => cases h
  | cons f fs ih =>
    rw [names, List.map_cons, List.nodup_cons] at hd
    rw [get?, List.find?_cons]
    rcases List.mem_cons.1 h with rfl | h
    · simp
    · have hf : f.1 ≠ name := by
        intro hn
        exact hd.1 (hn ▸ List.mem_map_of_mem h)
      rw [decide_eq_false hf]
      exact ih hd.2 h

/-- Two mappings of the same names are the same if one agrees with the other at each of them. -/
theorem perm_iff_get? (hg : gs.names.Nodup) (hn : fs.names.Perm gs.names) :
    fs.Perm gs ↔ ∀ f ∈ gs, fs.get? f.1 = some f.2 := by
  constructor
  · intro h f hf
    exact get?_eq_some_of_mem (hn.symm.nodup hg) (h.symm.subset hf)
  · intro h
    -- All entries of `gs` are among those of `fs`, and these are no more than there are names.
    have hs : gs ⊆ fs := fun f hf => mem_of_get?_eq_some (h f hf)
    have hl : fs.length ≤ gs.length := by
      simpa [names] using hn.length_eq.le
    exact ((List.subperm_of_subset hg.of_map hs).perm_of_length_le hl).symm

theorem eq_of_perm (hp : fs.Perm gs) (hn : fs.names = gs.names) (hd : gs.names.Nodup) :
    fs = gs := by
  induction gs generalizing fs with
  | nil => exact hp.eq_nil
  | cons g gs ih =>
    obtain - | ⟨f, fs⟩ := fs
    · cases hn
    · obtain ⟨hf, ht⟩ := List.cons.inj hn
      obtain ⟨hg, hd'⟩ := List.nodup_cons.1 hd
      have he : f = g := by
        rcases List.mem_cons.1 (hp.subset (.head _)) with h | h
        · exact h
        · exact absurd (hf ▸ List.mem_map_of_mem h) hg
      subst he
      rw [ih hp.cons_inv ht hd']

/-- Where all values are exact, fields that are the same are equal. -/
theorem eq_of_same (h : List.Forall₂ (fun f g => f.1 = g.1 ∧ f.2.same g.2 = true) fs gs)
    (hf : ∀ f ∈ fs, f.2.IsExact) (hg : ∀ g ∈ gs, g.2.IsExact) : fs = gs := by
  induction h with
  | nil => rfl
  | @cons f g fs gs hfg _ ih =>
    obtain ⟨hf₀, hf⟩ := List.forall_mem_cons.1 hf
    obtain ⟨hg₀, hg⟩ := List.forall_mem_cons.1 hg
    have hv : f.2 = g.2 := (hf₀.same_iff hg₀).1 hfg.2
    rw [ih hf hg, Prod.ext hfg.1 hv]

end Fields

namespace Payload

open Wire

variable {tag : Tag} {fs gs : Fields} {bs : Bytes}

theorem sorted_eq_sorted_iff {xs ys : List String} : sorted xs = sorted ys ↔ xs.Perm ys := by
  have hp (zs : List String) : (sorted zs).Perm zs := List.mergeSort_perm ..
  have hs (zs : List String) : (sorted zs).Pairwise (· ≤ ·) := by
    have h : (sorted zs).Pairwise fun a b => decide (a ≤ b) :=
      List.pairwise_mergeSort (by simpa using fun a b c => String.le_trans)
        (by simpa using String.le_total) zs
    simpa using h
  constructor
  · intro h
    exact (hp xs).symm.trans (h ▸ hp ys)
  · intro h
    exact ((hp xs).trans (h.trans (hp ys).symm)).eq_of_pairwise
      (fun _ _ _ _ => String.le_antisymm) (hs xs) (hs ys)

theorem matchesLayout_iff {l : Layout} : matchesLayout l fs = true ↔ fs.names.Perm l.names := by
  unfold matchesLayout
  rw [decide_eq_true_iff, sorted_eq_sorted_iff]

theorem writeFields_eq_ok_iff {l : Layout} {w w' : Writer} :
    writeFields fs w l = .ok w' ↔
      ∃ gs bs, l.Spells gs bs ∧ (∀ f ∈ gs, fs.get? f.1 = some f.2) ∧ w' = w.append bs := by
  induction l generalizing w with
  | nil =>
    constructor
    · intro h
      cases h
      exact ⟨[], [], ⟨rfl, rfl⟩, by simp, by simp [Writer.append]⟩
    · intro h
      obtain ⟨_, _, ⟨rfl, rfl⟩, _, rfl⟩ := h
      simp [writeFields, Writer.append]
  | cons field l ih =>
    obtain ⟨name, kind⟩ := field
    simp only [writeFields, Outcome.bind_eq_ok_iff, Fields.get, Outcome.ofOption_eq_ok_iff,
      Writer.field_eq_ok_iff, ih]
    constructor
    · intro h
      obtain ⟨v, hv, _, ⟨xs, hx, rfl⟩, gs, ys, hl, hg, rfl⟩ := h
      refine ⟨(name, v) :: gs, xs ++ ys, ⟨v, gs, xs, ys, rfl, hx, hl, rfl⟩, ?_, ?_⟩
      · exact List.forall_mem_cons.2 ⟨hv, hg⟩
      · rw [Writer.append_append]
    · intro h
      obtain ⟨_, _, ⟨v, gs, xs, ys, rfl, hx, hl, rfl⟩, hg, rfl⟩ := h
      obtain ⟨hv, hg⟩ := List.forall_mem_cons.1 hg
      exact ⟨v, hv, _, ⟨xs, hx, rfl⟩, gs, ys, hl, hg, by rw [Writer.append_append]⟩

def header (tag : Tag) : Bytes :=
  Bytes.ofNatLE u32Size tag.number

theorem u32_number (tag : Tag) : Writer.u32 ⟨[]⟩ (.int tag.number) = .ok ⟨header tag⟩ := by
  cases tag <;> rfl

theorem write_eq (tag : Tag) (fs : Fields) :
    write tag fs = writeFields fs ⟨header tag⟩ tag.layout >>= fun w => .ok w.buf := by
  rw [write, u32_number]
  rfl

theorem encode_of_perm (hn : fs.names.Perm tag.layout.names) : encode tag fs = write tag fs :=
  if_pos (matchesLayout_iff.2 hn)

theorem encode_of_not_perm (hn : ¬fs.names.Perm tag.layout.names) :
    encode tag fs = .error (.defect (.fieldMismatch tag (sorted fs.names))) :=
  if_neg (mt matchesLayout_iff.1 hn)

theorem write_eq_ok_iff :
    write tag fs = .ok bs ↔ ∃ gs body,
      tag.layout.Spells gs body ∧ (∀ f ∈ gs, fs.get? f.1 = some f.2) ∧ bs = header tag ++ body := by
  simp only [write_eq, Outcome.bind_eq_ok_iff, writeFields_eq_ok_iff]
  constructor
  · intro h
    obtain ⟨_, ⟨gs, body, hl, hg, rfl⟩, h⟩ := h
    exact ⟨gs, body, hl, hg, (Except.ok.inj h).symm⟩
  · intro h
    obtain ⟨gs, body, hl, hg, rfl⟩ := h
    exact ⟨_, ⟨gs, body, hl, hg, rfl⟩, rfl⟩

/-- Fields are encoded as what their values spell in the order of the layout. -/
theorem encode_eq_ok_iff :
    encode tag fs = .ok bs ↔
      ∃ (gs : Fields) (body : Bytes),
        fs.Perm gs ∧ tag.layout.Spells gs body ∧ bs = header tag ++ body := by
  constructor
  · intro h
    by_cases hm : fs.names.Perm tag.layout.names
    · rw [encode_of_perm hm] at h
      obtain ⟨gs, body, hl, hg, rfl⟩ := write_eq_ok_iff.1 h
      have hn : fs.names.Perm (Fields.names gs) := hl.names_eq ▸ hm
      have hd : (Fields.names gs).Nodup := hl.names_eq ▸ tag.layout_nodup
      exact ⟨gs, body, (Fields.perm_iff_get? hd hn).2 hg, hl, rfl⟩
    · rw [encode_of_not_perm hm] at h
      cases h
  · intro h
    obtain ⟨gs, body, hp, hl, rfl⟩ := h
    have hn : fs.names.Perm gs.names := hp.map Prod.fst
    have hd : gs.names.Nodup := hl.names_eq ▸ tag.layout_nodup
    rw [encode_of_perm (hl.names_eq ▸ hn)]
    exact write_eq_ok_iff.2 ⟨gs, body, hl, (Fields.perm_iff_get? hd hn).1 hp, rfl⟩

theorem readTag_accepts : readTag.Accepts fun bs tag => bs = header tag := by
  refine ((Read.unsigned_accepts u32Size).bind
    (S := fun n xs tag => xs = [] ∧ tag.number = n) fun n => ?_).congr ?_
  · rcases ht : Tag.ofNumber? n with _ | t
    · refine (Read.accepts_throw _).congr fun xs tag => ⟨False.elim, fun h => ?_⟩
      rw [← h.2, Tag.ofNumber?_number] at ht
      cases ht
    · obtain rfl := Tag.number_of_ofNumber? ht
      refine (Read.accepts_pure t).congr fun xs tag => and_congr_right fun _ => ?_
      constructor
      · intro h
        rw [h]
      · intro h
        have hn := Tag.ofNumber?_number tag
        rw [h, Tag.ofNumber?_number] at hn
        exact (Option.some.inj hn).symm
  · intro bs tag
    constructor
    · intro h
      obtain ⟨n, xs, _, ⟨_, rfl⟩, ⟨rfl, rfl⟩, rfl⟩ := h
      rw [List.append_nil, header]
    · intro h
      have hc : tag.number < Bytes.card u32Size := by cases tag <;> decide
      exact ⟨tag.number, header tag, [], ⟨hc, rfl⟩, ⟨rfl, rfl⟩, by simpa using h⟩

/-- Just the encodings of fields in the order of the layout are decoded. -/
theorem decode_eq_ok_iff :
    decode bs = .ok (tag, fs) ↔ ∃ body, tag.layout.Spells fs body ∧ bs = header tag ++ body := by
  have hr : decode bs = .ok (tag, fs) ↔ ∃ s, read.run (.between [] bs) = (.ok (tag, fs), s) := by
    unfold decode
    rw [← Reader.between_nil]
    constructor
    · exact fun h => ⟨_, Prod.ext h rfl⟩
    · intro h
      obtain ⟨s, h⟩ := h
      exact congrArg Prod.fst h
  rw [hr]
  simp only [read, Read.run_bind_eq_ok_iff]
  constructor
  · intro h
    obtain ⟨_, t, _, ht, gs, _, hg, _, _, hf, h⟩ := h
    obtain ⟨_, rest, rfl, rfl, rfl⟩ := (readTag_accepts ..).1 ht
    obtain ⟨body, rest, hl, rfl, rfl⟩ := (Read.fields_accepts _ ..).1 hg
    rw [Read.finish_run] at hf
    split at hf
    · next hn =>
      cases h
      exact ⟨body, hl, by rw [hn, List.append_nil]⟩
    · cases hf
  · intro h
    obtain ⟨body, hl, rfl⟩ := h
    have hf : Read.finish.run (.between (header tag ++ body) []) =
        (.ok (), .between (header tag ++ body) []) := by
      rw [Read.finish_run, if_pos rfl]
    exact ⟨_, tag, _, (readTag_accepts ..).2 ⟨_, body, rfl, rfl, rfl⟩, fs, _,
      (Read.fields_accepts _ ..).2 ⟨body, [], hl, by simp, rfl⟩, (), _, hf, rfl⟩

/-- Fields that are listed in the order of the layout come back as they are. -/
theorem encode_eq_ok_iff_decode (hn : fs.names = tag.layout.names) :
    encode tag fs = .ok bs ↔ decode bs = .ok (tag, fs) := by
  rw [encode_eq_ok_iff, decode_eq_ok_iff]
  constructor
  · intro h
    obtain ⟨gs, body, hp, hl, rfl⟩ := h
    have he : fs = gs :=
      Fields.eq_of_perm hp (hn.trans hl.names_eq.symm) (hl.names_eq ▸ tag.layout_nodup)
    exact ⟨body, he ▸ hl, rfl⟩
  · intro h
    obtain ⟨body, hl, rfl⟩ := h
    exact ⟨fs, body, .refl fs, hl, rfl⟩

theorem decode_injective {xs ys : Bytes} (hx : decode xs = .ok (tag, fs))
    (hy : decode ys = .ok (tag, fs)) : xs = ys := by
  obtain ⟨_, hl, _⟩ := decode_eq_ok_iff.1 hx
  have ex : encode tag fs = .ok xs := (encode_eq_ok_iff_decode hl.names_eq).2 hx
  have ey : encode tag fs = .ok ys := (encode_eq_ok_iff_decode hl.names_eq).2 hy
  exact Except.ok.inj (ex.symm.trans ey)

/-- Encoding fields and decoding them are inverse to each other, up to the order in which the fields
are listed. Values are compared exactly: no truth value or fraction passes for the number that it
equals. So just the encodings can be decoded, and what two of them decode to tells them apart. -/
theorem encode_inverse_decode :
    (∀ tag fs bs, encode tag fs = .ok bs ↔ ∃ gs, decode bs = .ok (tag, gs) ∧ fs.Perm gs) ∧
    (∀ bs, (∃ tag fs, decode bs = .ok (tag, fs)) ↔ ∃ tag fs, encode tag fs = .ok bs) ∧
    ∀ xs ys tag fs gs, decode xs = .ok (tag, fs) → decode ys = .ok (tag, gs) → fs.Perm gs →
      xs = ys := by
  have hi (tag : Tag) (fs : Fields) (bs : Bytes) :
      encode tag fs = .ok bs ↔ ∃ gs, decode bs = .ok (tag, gs) ∧ fs.Perm gs := by
    simp only [encode_eq_ok_iff, decode_eq_ok_iff]
    constructor
    · intro h
      obtain ⟨gs, body, hp, hl⟩ := h
      exact ⟨gs, ⟨body, hl⟩, hp⟩
    · intro h
      obtain ⟨gs, ⟨body, hl⟩, hp⟩ := h
      exact ⟨gs, body, hp, hl⟩
  refine ⟨hi, fun bs => ⟨?_, ?_⟩, ?_⟩
  · intro h
    obtain ⟨tag, fs, h⟩ := h
    exact ⟨tag, fs, (hi tag fs bs).2 ⟨fs, h, .refl fs⟩⟩
  · intro h
    obtain ⟨tag, fs, h⟩ := h
    obtain ⟨gs, hg, _⟩ := (hi tag fs bs).1 h
    exact ⟨tag, gs, hg⟩
  · intro xs ys tag fs gs hx hy hp
    have ex : encode tag fs = .ok xs := (hi tag fs xs).2 ⟨fs, hx, .refl fs⟩
    have ey : encode tag fs = .ok ys := (hi tag fs ys).2 ⟨gs, hy, hp⟩
    exact Except.ok.inj (ex.symm.trans ey)

example : decode [2, 0, 0, 0, 5, 1, 0, 0, 0, 0, 0, 0] = .ok (.transfer, [("lamports", .int 261)]) :=
  rfl

end Payload
end SystemProgram
