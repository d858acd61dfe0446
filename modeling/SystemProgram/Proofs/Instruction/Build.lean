import SystemProgram.Proofs.Instruction.Sheet
import SystemProgram.Proofs.Payload.Refusal

namespace SystemProgram

namespace FieldRow

def Holds (p : Params) (r : FieldRow) : Prop :=
  ∃ v, p.fields.get? r.param = some v ∧ r.kind.Holds v

/-- The row of a field of the payload. The authority of a new nonce account has a name of its own
there. -/
def ofField (field : String × FieldKind) : FieldRow :=
  ⟨if field.1 = "authorized" then "authorized_pubkey" else field.1, field.2⟩

theorem map_ofField (t : Tag) : t.layout.map ofField = t.sheet.fields := by
  cases t <;> rfl

theorem get?_ofField (p : Params) :
    ∀ field ∈ p.tag.layout, p.fields.get? (ofField field).param = p.payload.get? field.1 := by
  cases p
  all_goals
    repeat refine List.forall_mem_cons.2 ⟨rfl, ?_⟩
    exact List.forall_mem_nil _

theorem holds_ofField_iff {p : Params} {field : String × FieldKind} (h : field ∈ p.tag.layout) :
    (ofField field).Holds p ↔ p.payload.Holds field := by
  unfold Holds Fields.Holds
  rw [get?_ofField p field h]
  rfl

theorem forall_holds_iff {p : Params} :
    (∀ r ∈ p.tag.sheet.fields, r.Holds p) ↔ ∀ field ∈ p.tag.layout, p.payload.Holds field := by
  rw [← map_ofField, List.forall_mem_map]
  exact forall₂_congr fun field h => holds_ofField_iff h

end FieldRow

open FieldRow

/-- Building ends with an instruction or at the first parameter that its field cannot hold. -/
theorem Params.build_cases (p : Params) :
    (∃ ix, p.build = .ok ix) ∧ (∀ r ∈ p.tag.sheet.fields, r.Holds p) ∨
      ∃ before r after v, p.tag.sheet.fields = before ++ r :: after ∧
        (∀ q ∈ before, q.Holds p) ∧ p.fields.get? r.param = some v ∧ ¬r.kind.Holds v ∧
        p.build = .error (r.kind.refusal v) := by
  rw [forall_holds_iff, Params.build]
  rcases Payload.encode_verdict (.of_eq p.names_payload) with
    ⟨hl, bs, he⟩ | ⟨before, name, kind, after, v, hl, hb, hv, hk, he⟩
  · rw [he]
    exact .inl ⟨⟨_, rfl⟩, hl⟩
  · have hm : (name, kind) ∈ p.tag.layout := hl ▸ List.mem_append_right _ (.head _)
    rw [he]
    refine .inr ⟨before.map ofField, ofField (name, kind), after.map ofField, v, ?_, ?_, ?_, hk, rfl⟩
    · rw [← map_ofField, hl, List.map_append, List.map_cons]
    · rw [List.forall_mem_map]
      intro field hf
      exact (holds_ofField_iff (hl ▸ List.mem_append_left _ hf)).2 (hb field hf)
    · rw [get?_ofField p _ hm, hv]

/-- Building gives an instruction exactly if every field of the payload can hold its parameter. If
not, the first of them that cannot, in the order of the payload, is reported; a number in it may be
too long to be written, and of a text without a UTF-8 form no defect is reported. No parameter that
is an account only plays a part. What is no parameters at all has no builder. -/
theorem Subject.build_verdict (s : Subject) :
    match s with
    | .params p =>
      ((∃ ix, s.build = .ok ix) ↔ ∀ r ∈ p.tag.sheet.fields, r.Holds p) ∧
        ((∀ r ∈ p.tag.sheet.fields, r.Holds p) ∨
          ∃ before r after v, p.tag.sheet.fields = before ++ r :: after ∧
            (∀ q ∈ before, q.Holds p) ∧ p.fields.get? r.param = some v ∧ ¬r.kind.Holds v ∧
            s.build = .error (r.kind.refusal v))
    | .foreign typeName =>
      s.build = .error (.fault (.noBuilder typeName)) ∧
        (Fault.noBuilder typeName).code = .unknownInstruction := by
  cases s with
  | foreign typeName => exact ⟨rfl, rfl⟩
  | params p =>
    change ((∃ ix, p.build = .ok ix) ↔ _) ∧ (_ ∨ ∃ _ _ _ _, _ ∧ _ ∧ _ ∧ _ ∧ p.build = _)
    rcases p.build_cases with ⟨hb, hr⟩ | ⟨before, r, after, v, hl, hb, hv, hk, he⟩
    · exact ⟨iff_of_true hb hr, .inl hr⟩
    · refine ⟨iff_of_false ?_ ?_, .inr ⟨before, r, after, v, hl, hb, hv, hk, he⟩⟩
      · intro h
        obtain ⟨ix, h⟩ := h
        cases he.symm.trans h
      · intro h
        obtain ⟨u, hu, hk'⟩ := h r (hl ▸ List.mem_append_right _ (.head _))
        exact hk (Option.some.inj (hv.symm.trans hu) ▸ hk')

/-- Where the seed is half of a character, no defect is reported. -/
theorem Params.build_halfSeed :
    ¬∀ p : Params, (∃ ix, p.build = .ok ix) ∨ ∃ d, p.build = .error (.ofDefect d) := by
  let p : Params := .assignWithSeed (.key systemProgram) (.key systemProgram)
    (.broken ⟨[], ⟨0⟩, []⟩) (.key systemProgram)
  have hb : p.build = .error .notEncodable := by
    rw [Params.build, Payload.encode_of_perm (.of_eq p.names_payload)]
    rfl
  intro h
  rcases h p with ⟨_, h⟩ | ⟨d, h⟩
  · cases hb.symm.trans h
  · exact Failure.ofDefect_ne_notEncodable d (Except.error.inj (h.symm.trans hb))

namespace Params

variable {p : Params} {ix : Instruction}

theorem holds_of_build (h : p.build = .ok ix) : ∀ r ∈ p.tag.sheet.fields, r.Holds p := by
  rcases p.build_cases with ⟨_, hr⟩ | ⟨_, _, _, _, _, _, _, _, hb⟩
  · exact hr
  · rw [h] at hb
    cases hb

theorem nodup_names (p : Params) : p.fields.names.Nodup := by
  rw [names_fields]
  cases p.tag <;> decide

/-- What a relation says of all parameters and their values it says of each, found by its name. -/
theorem exists_get? {R : String × FieldKind → Value → Prop}
    (h : List.Forall₂ R p.tag.parameters p.values) :
    ∀ f ∈ p.tag.parameters, ∃ v, p.fields.get? f.1 = some v ∧ R f v := by
  intro f hf
  obtain ⟨hl, hz⟩ := List.forall₂_iff_zip.1 h
  have hm : f ∈ (p.tag.parameters.zip p.values).map Prod.fst := by
    rwa [List.map_fst_zip hl.le]
  obtain ⟨⟨_, v⟩, hv, rfl⟩ := List.mem_map.1 hm
  refine ⟨v, Fields.get?_eq_some_of_mem p.nodup_names ?_, hz hv⟩
  rw [fields, Layout.names, List.zip_map_left]
  exact List.mem_map_of_mem hv

/-- All that is no key goes into the payload. -/
theorem mem_sheet_of_mem_parameters (t : Tag) :
    ∀ f ∈ t.parameters, f.2 ≠ .pubkey → (⟨f.1, f.2⟩ : FieldRow) ∈ t.sheet.fields := by
  cases t <;> decide

theorem mem_parameters_of_mem_sheet (t : Tag) :
    ∀ r ∈ t.sheet.fields, (r.param, r.kind) ∈ t.parameters := by
  cases t <;> decide

theorem int_of_build (h : p.build = .ok ix) {name : String} {v : Value}
    (hf : (name, .u64) ∈ p.tag.parameters) (hv : (name, v) ∈ p.fields) :
    ∃ n : Nat, n ≤ Wire.maxU64 ∧ v = .int n := by
  obtain ⟨w, hw, i, rfl, h0, hi⟩ := holds_of_build h _ (mem_sheet_of_mem_parameters _ _ hf nofun)
  rw [Fields.get?_eq_some_of_mem p.nodup_names hv] at hw
  obtain rfl := Option.some.inj hw
  exact ⟨i.toNat, by omega, by rw [Int.toNat_of_nonneg h0]⟩

end Params

end SystemProgram
