import SystemProgram.Proofs.Payload

namespace SystemProgram

open Wire

theorem Failure.ofDefect_ne_notEncodable (d : Defect) : ofDefect d ≠ notEncodable := by
  unfold ofDefect
  split <;> nofun

namespace FieldKind

/-- The values that a field of the kind can hold: numbers of 64 bits, keys, and texts whose length
in bytes is such a number. -/
def Holds : FieldKind → Value → Prop
  | .u64, v => ∃ i, v = .int i ∧ 0 ≤ i ∧ i ≤ maxU64
  | .pubkey, v => ∃ k, v = .key k
  | .string, v => ∃ s, v = .str s ∧ Utf8.size s ≤ maxU64

/-- What is reported of a value that a field of the kind cannot hold. That a text has no UTF-8 form
is not reported as a defect. -/
def refusal : FieldKind → Value → Failure
  | .u64, v => .ofDefect (.tooWide v u64Size)
  | .pubkey, v => .ofDefect (.notKey v)
  | .string, .str s => .ofDefect (.tooWide (.int (Utf8.size s)) u64Size)
  | .string, .broken _ => .notEncodable
  | .string, v => .ofDefect (.notText v)

variable {kind : FieldKind} {v : Value}

theorem refusal_cases (kind : FieldKind) (v : Value) :
    (∃ d, kind.refusal v = .ofDefect d) ∨
      kind = .string ∧ kind.refusal v = .notEncodable ∧ ∃ t, v = .broken t := by
  cases kind with
  | u64 | pubkey => exact .inl ⟨_, rfl⟩
  | string =>
    cases v with
    | broken t => exact .inr ⟨rfl, rfl, t, rfl⟩
    | _ => exact .inl ⟨_, rfl⟩

theorem exists_spelling (h : kind.Holds v) : ∃ bs, kind.spelling v = some bs := by
  cases kind with
  | u64 =>
    obtain ⟨i, rfl, h0, hi⟩ := h
    refine ⟨_, spelling_u64_eq_some_iff.2 ⟨i.toNat, by omega, ?_, rfl⟩⟩
    rw [Int.toNat_of_nonneg h0]
  | pubkey =>
    obtain ⟨k, rfl⟩ := h
    exact ⟨_, rfl⟩
  | string =>
    obtain ⟨s, rfl, hs⟩ := h
    exact ⟨_, spelling_string_eq_some_iff.2 ⟨s, hs, rfl, rfl⟩⟩

end FieldKind

namespace Wire.Writer

variable {w : Writer} {kind : FieldKind} {v : Value}

theorem unsigned_eq_error {size max : Nat} (h : ∀ n, n ≤ max → v ≠ .int n) :
    w.unsigned size max v = .error (.ofDefect (.tooWide v size)) := by
  have hn : unsigned? max v = none := by
    cases hu : unsigned? max v with
    | none => rfl
    | some n =>
      obtain ⟨hle, hv⟩ := unsigned?_eq_some_iff.1 hu
      exact absurd hv (h n hle)
  rw [unsigned, Emit.unsigned, hn]
  rfl

theorem field_eq_ok (h : kind.Holds v) : ∃ w', w.field kind v = .ok w' := by
  obtain ⟨bs, hs⟩ := FieldKind.exists_spelling h
  exact ⟨_, field_eq_ok_iff.2 ⟨bs, hs, rfl⟩⟩

theorem field_eq_error (h : ¬kind.Holds v) :
    w.field kind v = .error (kind.refusal v) := by
  cases kind with
  | u64 =>
    apply unsigned_eq_error
    intro n hn hv
    exact h ⟨n, hv, by omega, by omega⟩
  | pubkey =>
    cases v with
    | key k => exact absurd ⟨k, rfl⟩ h
    | _ => rfl
  | string =>
    cases v with
    | str s =>
      -- The length is written first, and it is the length that does not fit.
      have hu : w.u64 (.int (Utf8.size s)) =
          .error (.ofDefect (.tooWide (.int (Utf8.size s)) u64Size)) := by
        apply unsigned_eq_error
        intro n hn hv
        have hs : Utf8.size s = n := by simpa using hv
        exact h ⟨s, rfl, hs ▸ hn⟩
      change w.string (.str s) = _
      rw [string_str, hu]
      rfl
    | _ => rfl

end Wire.Writer

def Fields.Holds (fs : Fields) (field : String × FieldKind) : Prop :=
  ∃ v, fs.get? field.1 = some v ∧ field.2.Holds v

namespace Payload

variable {tag : Tag} {fs : Fields}

theorem writeFields_cons {l : Layout} {name : String} {kind : FieldKind} {v : Value}
    (hv : fs.get? name = some v) (w : Writer) :
    writeFields fs w ((name, kind) :: l) = w.field kind v >>= fun w' => writeFields fs w' l := by
  rw [writeFields, Fields.get, hv]
  rfl

/-- Writing stops at the first value that its field cannot hold. -/
theorem writeFields_verdict {l : Layout} (h : ∀ field ∈ l, ∃ v, fs.get? field.1 = some v)
    (w : Writer) :
    ((∀ field ∈ l, fs.Holds field) ∧ ∃ w', writeFields fs w l = .ok w') ∨
      ∃ before name kind after v, l = before ++ (name, kind) :: after ∧
        (∀ field ∈ before, fs.Holds field) ∧ fs.get? name = some v ∧ ¬kind.Holds v ∧
        writeFields fs w l = .error (kind.refusal v) := by
  induction l generalizing w with
  | nil => exact .inl ⟨by simp, w, rfl⟩
  | cons field l ih =>
    obtain ⟨name, kind⟩ := field
    obtain ⟨⟨v, hv⟩, h⟩ := List.forall_mem_cons.1 h
    rw [writeFields_cons hv]
    by_cases hk : kind.Holds v
    · obtain ⟨w', hw⟩ := Writer.field_eq_ok (w := w) hk
      have hf : fs.Holds (name, kind) := ⟨v, hv, hk⟩
      rw [hw]
      change (_ ∧ ∃ w'', writeFields fs w' l = .ok w'') ∨ _
      rcases ih h w' with ⟨hl, ho⟩ | ⟨before, name', kind', after, v', rfl, hb, hv', hk', he⟩
      · exact .inl ⟨List.forall_mem_cons.2 ⟨hf, hl⟩, ho⟩
      · exact .inr ⟨(name, kind) :: before, name', kind', after, v', rfl,
          List.forall_mem_cons.2 ⟨hf, hb⟩, hv', hk', he⟩
    · refine .inr ⟨[], name, kind, l, v, rfl, by simp, hv, hk, ?_⟩
      rw [Writer.field_eq_error hk]
      rfl

/-- With the fields of the layout, encoding fails only at a value that its field cannot hold. -/
theorem encode_verdict (hn : fs.names.Perm tag.layout.names) :
    ((∀ field ∈ tag.layout, fs.Holds field) ∧ ∃ bs, encode tag fs = .ok bs) ∨
      ∃ before name kind after v, tag.layout = before ++ (name, kind) :: after ∧
        (∀ field ∈ before, fs.Holds field) ∧ fs.get? name = some v ∧ ¬kind.Holds v ∧
        encode tag fs = .error (kind.refusal v) := by
  have hd : fs.names.Nodup := hn.symm.nodup tag.layout_nodup
  have hg : ∀ field ∈ tag.layout, ∃ v, fs.get? field.1 = some v := by
    intro field hf
    have hm : field.1 ∈ fs.names := hn.symm.subset (List.mem_map_of_mem hf)
    obtain ⟨⟨name, v⟩, hv, he⟩ := List.mem_map.1 hm
    exact ⟨v, he ▸ Fields.get?_eq_some_of_mem hd hv⟩
  rw [encode_of_perm hn, write_eq]
  rcases writeFields_verdict hg ⟨header tag⟩ with
    ⟨hl, w, hw⟩ | ⟨before, name, kind, after, v, hl, hb, hv, hk, hw⟩
  · exact .inl ⟨hl, w.buf, by rw [hw]; rfl⟩
  · exact .inr ⟨before, name, kind, after, v, hl, hb, hv, hk, by rw [hw]; rfl⟩

end Payload
end SystemProgram
