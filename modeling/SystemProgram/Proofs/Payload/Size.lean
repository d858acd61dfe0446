import SystemProgram.Proofs.Payload.Refusal

namespace SystemProgram

open Wire

namespace FieldKind

/-- How many bytes a field of the kind takes. A text takes those of its length and its own. -/
def size : FieldKind → Value → Nat
  | .u64, _ => 8
  | .pubkey, _ => 32
  | .string, .str s => 8 + Utf8.size s
  | .string, _ => 8

variable {kind : FieldKind} {v : Value} {bs : Bytes}

theorem length_spelling (h : kind.spelling v = some bs) : bs.length = kind.size v := by
  cases kind with
  | u64 =>
    obtain ⟨n, _, _, rfl⟩ := spelling_u64_eq_some_iff.1 h
    exact Bytes.length_ofNatLE ..
  | pubkey =>
    obtain ⟨k, _, rfl⟩ := spelling_pubkey_eq_some_iff.1 h
    exact k.size_eq
  | string =>
    obtain ⟨s, _, rfl, rfl⟩ := spelling_string_eq_some_iff.1 h
    rw [List.length_append, Bytes.length_ofNatLE]
    rfl

theorem fieldSize_of_holds (h : kind.Holds v) : Payload.fieldSize kind v = .ok (kind.size v) := by
  cases kind with
  | u64 => rfl
  | pubkey => rfl
  | string =>
    obtain ⟨s, rfl, _⟩ := h
    rfl

end FieldKind

namespace Fields

variable {fs gs : Fields} {field : String × FieldKind}

def spelling (fs : Fields) (field : String × FieldKind) : Bytes :=
  ((fs.get? field.1).bind field.2.spelling).getD []

/-- How many bytes a field of the layout takes. -/
def size (fs : Fields) (field : String × FieldKind) : Nat :=
  ((fs.get? field.1).map field.2.size).getD 0

theorem spelling_of_get? {v : Value} {bs : Bytes} (hv : fs.get? field.1 = some v)
    (hs : field.2.spelling v = some bs) : fs.spelling field = bs := by
  rw [spelling, hv, Option.bind_some, hs, Option.getD_some]

theorem size_of_get? {v : Value} (hv : fs.get? field.1 = some v) :
    fs.size field = field.2.size v := by
  rw [size, hv, Option.map_some, Option.getD_some]

theorem length_spelling (h : fs.Holds field) : (fs.spelling field).length = fs.size field := by
  obtain ⟨v, hv, hk⟩ := h
  obtain ⟨bs, hs⟩ := FieldKind.exists_spelling hk
  rw [spelling_of_get? hv hs, size_of_get? hv, FieldKind.length_spelling hs]

theorem length_flatMap_spelling {l : Layout} (h : ∀ field ∈ l, fs.Holds field) :
    (l.flatMap fs.spelling).length = (l.map fs.size).sum := by
  have hl : l.map (fun field => (fs.spelling field).length) = l.map fs.size :=
    List.map_congr_left fun field hf => length_spelling (h field hf)
  rw [List.length_flatMap, hl]

/-- A mapping is what it has under its names, however it is listed. -/
theorem get?_perm (hd : fs.names.Nodup) (hp : fs.Perm gs) (name : String) :
    fs.get? name = gs.get? name := by
  have hd' : gs.names.Nodup := (hp.map Prod.fst).nodup hd
  apply Option.ext
  intro v
  constructor
  · intro h
    exact get?_eq_some_of_mem hd' (hp.subset (mem_of_get?_eq_some h))
  · intro h
    exact get?_eq_some_of_mem hd (hp.symm.subset (mem_of_get?_eq_some h))

end Fields

namespace Payload

variable {tag : Tag} {fs gs : Fields} {l : Layout}

theorem writeFields_of_holds (h : ∀ field ∈ l, fs.Holds field) (w : Writer) :
    writeFields fs w l = .ok (w.append (l.flatMap fs.spelling)) := by
  induction l generalizing w with
  | nil => simp [writeFields, Writer.append]
  | cons field l ih =>
    obtain ⟨name, kind⟩ := field
    obtain ⟨⟨v, hv, hk⟩, h⟩ := List.forall_mem_cons.1 h
    obtain ⟨bs, hs⟩ := FieldKind.exists_spelling hk
    have hw : w.field kind v = .ok (w.append bs) := Writer.field_eq_ok_iff.2 ⟨bs, hs, rfl⟩
    rw [List.flatMap_cons, Fields.spelling_of_get? hv hs, ← Writer.append_append, ← ih h,
      writeFields_cons hv, hw]
    rfl

theorem fieldsSize_of_holds (h : ∀ field ∈ l, fs.Holds field) :
    fieldsSize fs l = .ok (l.map fs.size).sum := by
  induction l with
  | nil => rfl
  | cons field l ih =>
    obtain ⟨name, kind⟩ := field
    obtain ⟨⟨v, hv, hk⟩, h⟩ := List.forall_mem_cons.1 h
    rw [fieldsSize, Fields.get, hv, List.map_cons, List.sum_cons, Fields.size_of_get? hv]
    change (fieldSize kind v >>= fun n => fieldsSize fs l >>= fun m => pure (n + m)) = _
    rw [FieldKind.fieldSize_of_holds hk, ih h]
    rfl

theorem writeFields_congr (h : ∀ name, fs.get? name = gs.get? name) (w : Writer) :
    writeFields fs w l = writeFields gs w l := by
  induction l generalizing w with
  | nil => rfl
  | cons field l ih =>
    obtain ⟨name, kind⟩ := field
    simp only [writeFields, Fields.get, h, ih]

/-- Listing the fields in another order changes nothing, be it bytes or a failure. -/
theorem encode_perm (hp : fs.Perm gs) : encode tag gs = encode tag fs := by
  have hs : gs.names.Perm fs.names := hp.symm.map Prod.fst
  by_cases hn : fs.names.Perm tag.layout.names
  · have hd : fs.names.Nodup := hn.symm.nodup tag.layout_nodup
    rw [encode_of_perm hn, encode_of_perm (hs.trans hn), write_eq, write_eq,
      writeFields_congr (Fields.get?_perm hd hp)]
  · rw [encode_of_not_perm hn, encode_of_not_perm fun h => hn (hs.symm.trans h),
      sorted_eq_sorted_iff.2 hs]

theorem encode_of_holds (hn : fs.names.Perm tag.layout.names)
    (h : ∀ field ∈ tag.layout, fs.Holds field) :
    encode tag fs = .ok (header tag ++ tag.layout.flatMap fs.spelling) := by
  rw [encode_of_perm hn, write_eq, writeFields_of_holds h]
  rfl

theorem encodedSize_of_holds (h : ∀ field ∈ tag.layout, fs.Holds field) :
    encodedSize tag fs = .ok (header tag ++ tag.layout.flatMap fs.spelling).length := by
  rw [encodedSize, fieldsSize_of_holds h, List.length_append, Fields.length_flatMap_spelling h,
    header, Bytes.length_ofNatLE]
  rfl

/-- Fields under distinct names are encoded exactly if their names are those of the layout and each
of them can hold its value. Otherwise the program that calls is at fault, with wrong names before
any value is looked at; a number in a value may be too long to be written. Only where the first
value that its field cannot hold is a text without a UTF-8 form, there is no defect in the report.
The bytes are the number of the instruction and then the fields, in the order of the layout and not
in that of the list, and there are as many as have been announced. -/
theorem encode_mapping (hd : fs.names.Nodup) :
    ((∃ bs, encode tag fs = .ok bs) ↔
      (∀ name, name ∈ fs.names ↔ name ∈ tag.layout.names) ∧
        ∀ field ∈ tag.layout, fs.Holds field) ∧
    ((∃ bs, encode tag fs = .ok bs) ∨ (∃ d, encode tag fs = .error (.ofDefect d)) ∨
      encode tag fs = .error .notEncodable ∧
        ∃ before name after t, tag.layout = before ++ (name, .string) :: after ∧
          (∀ field ∈ before, fs.Holds field) ∧ fs.get? name = some (.broken t)) ∧
    (¬(∀ name, name ∈ fs.names ↔ name ∈ tag.layout.names) →
      encode tag fs = .error (.defect (.fieldMismatch tag (sorted fs.names)))) ∧
    (∀ gs : Fields, fs.Perm gs → encode tag gs = encode tag fs) ∧
    ∀ bs, encode tag fs = .ok bs →
      bs = Bytes.ofNatLE 4 tag.number ++ tag.layout.flatMap fs.spelling ∧
      encodedSize tag fs = .ok bs.length ∧ bs.length = 4 + (tag.layout.map fs.size).sum := by
  rw [← List.perm_ext_iff_of_nodup hd tag.layout_nodup]
  have hne {e : Failure} (he : encode tag fs = .error e) (bs : Bytes) : encode tag fs ≠ .ok bs := by
    rw [he]
    nofun
  by_cases hn : fs.names.Perm tag.layout.names
  · by_cases hl : ∀ field ∈ tag.layout, fs.Holds field
    · have he := encode_of_holds hn hl
      refine ⟨iff_of_true ⟨_, he⟩ ⟨hn, hl⟩, .inl ⟨_, he⟩, absurd hn, fun gs => encode_perm, ?_⟩
      intro bs hb
      obtain rfl := Except.ok.inj (he.symm.trans hb)
      refine ⟨rfl, encodedSize_of_holds hl, ?_⟩
      rw [List.length_append, Fields.length_flatMap_spelling hl, header, Bytes.length_ofNatLE]
      rfl
    · obtain ⟨hl', _⟩ | ⟨before, name, kind, after, v, ht, hb, hv, _, he⟩ := encode_verdict hn
      · exact absurd hl' hl
      · refine ⟨iff_of_false (fun h => h.elim (hne he)) fun h => hl h.2, .inr ?_, absurd hn,
          fun gs => encode_perm, fun bs hb => absurd hb (hne he bs)⟩
        rcases kind.refusal_cases v with ⟨d, hd⟩ | ⟨rfl, hr, t, rfl⟩
        · exact .inl ⟨d, hd ▸ he⟩
        · exact .inr ⟨hr ▸ he, before, name, after, t, ht, hb, hv⟩
  · have he := encode_of_not_perm hn
    exact ⟨iff_of_false (fun h => h.elim (hne he)) fun h => hn h.1,
      .inr (.inl ⟨.fieldMismatch tag (sorted fs.names), he⟩), fun _ => he, fun gs => encode_perm,
      fun bs hb => absurd hb (hne he bs)⟩

/-- A seed of two letters in six bytes, with the fields in an order of their own. -/
theorem encode_mapping_reordered :
    let fs : Fields := [("owner", .key rent), ("seed", .str "é😀"), ("base", .key systemProgram)]
    ∃ bs, fs.names.Nodup ∧ encode .assignWithSeed fs = .ok bs ∧
      encode .assignWithSeed fs.reverse = .ok bs ∧ bs.length = 82 ∧
      encodedSize .assignWithSeed fs = .ok 82 := by
  intro fs
  have hd : fs.names.Nodup := by decide
  obtain ⟨hiff, _, _, hp, hs⟩ := @encode_mapping .assignWithSeed fs hd
  have hn : fs.names.Perm Tag.assignWithSeed.layout.names := by decide
  have hh : ∀ field ∈ Tag.assignWithSeed.layout, fs.Holds field := by
    simp only [Tag.layout, List.forall_mem_cons]
    exact ⟨⟨_, rfl, _, rfl⟩, ⟨_, rfl, _, rfl, by decide +kernel⟩, ⟨_, rfl, _, rfl⟩,
      List.forall_mem_nil _⟩
  obtain ⟨bs, hb⟩ := hiff.2 ⟨fun _ => hn.mem_iff, hh⟩
  obtain ⟨_, hz, hl⟩ := hs bs hb
  have hb' : encode .assignWithSeed fs.reverse = .ok bs :=
    (hp _ (List.reverse_perm fs).symm).trans hb
  have hn : bs.length = 82 := hl.trans (by decide +kernel)
  exact ⟨bs, hd, hb, hb', hn, hn ▸ hz⟩

/-- Where a seed is half of a character, no defect is reported. -/
theorem encode_halfSeed :
    ¬∀ (tag : Tag) (fs : Fields), fs.names.Nodup →
      (∃ bs, encode tag fs = .ok bs) ∨ ∃ d, encode tag fs = .error (.ofDefect d) := by
  let fs : Fields := [("base", .key systemProgram), ("seed", .broken ⟨[], ⟨0⟩, []⟩),
    ("owner", .key systemProgram)]
  have hn : fs.names.Perm Tag.assignWithSeed.layout.names := .refl _
  have he : encode .assignWithSeed fs = .error .notEncodable := by
    rw [encode_of_perm hn]
    rfl
  intro h
  rcases h .assignWithSeed fs (by decide) with ⟨_, h⟩ | ⟨d, h⟩
  · cases he.symm.trans h
  · exact Failure.ofDefect_ne_notEncodable d (Except.error.inj (h.symm.trans he))

end Payload
end SystemProgram
