import SystemProgram.Proofs.Command
import SystemProgram.Proofs.Fixture.Vector
import SystemProgram.Proofs.Instruction.Build
import SystemProgram.Proofs.Yaml.Value

namespace SystemProgram.Fixture

open Yaml (Legible areNames)
open Value (record)
open Command (oneFile locate_oneFile)

variable {p : Params} {ix : Instruction} {v : Value} {indent : Nat}

theorem areNames_params (p : Params) :
    areNames ((("instruction", Value.str p.tag.lowerName) ::
      p.fields.map fun f => (f.1, plain f.2)).map Prod.fst) = true := by
  have hn : areNames ("instruction" :: p.tag.parameters.names) = true := by
    cases p.tag <;> decide
  rw [← p.names_fields] at hn
  rw [List.map_cons, List.map_map]
  exact hn

/-- Keys are recorded as texts, numbers as such. Those that are built are short. -/
theorem legible_plain {kind : FieldKind} {name : String} (hb : p.build = .ok ix)
    (hk : kind.Admits v) (hf : (name, kind) ∈ p.tag.parameters) (hv : (name, v) ∈ p.fields)
    (hi : indent + 2 < Yaml.lineWidth) : Legible indent (plain v) := by
  cases kind with
  | u64 =>
    obtain ⟨n, hn, rfl⟩ := Params.int_of_build hb hf hv
    -- Twenty digits are enough for all numbers of 64 bits.
    have hm : Wire.maxU64 < 10 ^ 20 := by decide
    have hp : 10 ^ 20 ≤ 10 ^ Integer.maxDigits := Nat.pow_le_pow_right (by decide) (by decide)
    exact .int hi (by omega)
  | pubkey =>
    obtain ⟨k, rfl⟩ := hk
    exact .str _ hi
  | string =>
    obtain ⟨s, rfl⟩ := hk
    exact .str _ hi

theorem legible_ofParams (hp : p.IsTyped) (hb : p.build = .ok ix)
    (hi : indent + 4 < Yaml.lineWidth) : Legible indent (ofParams p) := by
  refine .record (areNames_params p) (List.forall_mem_cons.2 ⟨.str _ hi, ?_⟩)
  rw [List.forall_mem_map]
  intro e he
  obtain ⟨kind, hf, hk⟩ := hp.admits e he
  exact legible_plain hb hk hf he hi

theorem legible_accountRecord (k : PublicKey) (a : AccountMeta)
    (hi : indent + 4 < Yaml.lineWidth) : Legible indent (accountRecord k a) := by
  have hn : areNames ["pubkey", "is_signer", "is_writable"] = true := by decide
  refine .record hn ?_
  simp only [List.forall_mem_cons]
  exact ⟨.str _ hi, .bool _ hi, .bool _ hi, List.forall_mem_nil _⟩

theorem exists_accountRecord {as : List AccountMeta} {docs : List Value}
    (h : List.Forall₂ (fun a v => ofAccount a = .ok v) as docs) :
    ∀ v ∈ docs, ∃ k a, v = accountRecord k a := by
  induction h with
  | nil => exact List.forall_mem_nil _
  | @cons a _ _ _ ha _ ih =>
    obtain ⟨k, _, hv⟩ := ofAccount_eq_ok_iff.1 ha
    exact List.forall_mem_cons.2 ⟨⟨k, a, hv⟩, ih⟩

theorem legible_ofInstruction {built : Value} (h : ofInstruction ix = .ok built)
    (hi : indent + 6 < Yaml.lineWidth) : Legible indent built := by
  obtain ⟨k, accounts, _, ha, rfl⟩ := ofInstruction_eq_ok_iff.1 h
  have hr := exists_accountRecord ha
  have hn : areNames ["program_id", "accounts", "data"] = true := by decide
  have hl : Legible (indent + 2) (.list accounts) := by
    refine .list (fun v hv => ?_) fun v hv => ?_
    · obtain ⟨k, a, rfl⟩ := hr v hv
      exact ⟨_, rfl⟩
    · obtain ⟨k, a, rfl⟩ := hr v hv
      exact legible_accountRecord k a hi
  refine .record hn ?_
  simp only [List.forall_mem_cons]
  exact ⟨.str _ (by omega), hl, .str _ (by omega), List.forall_mem_nil _⟩

/-- A value that is recorded of an instruction, built from parameters of the right kinds. -/
def IsRecorded (vec : Value) : Prop :=
  ∃ (name : Text) (p : Params) (ix : Instruction) (built : Value), p.IsTyped ∧
    p.build = .ok ix ∧ ofInstruction ix = .ok built ∧ vec = vectorRecord (.ofText name) p built

theorem legible_ofText (t : Text) (hi : indent + 2 < Yaml.lineWidth) :
    Legible indent (.ofText t) := by
  cases t with
  | whole cs => exact .str _ hi
  | broken t => exact .broken t hi

theorem IsRecorded.legible {vec : Value} (h : IsRecorded vec) : Legible 0 vec := by
  obtain ⟨name, p, ix, built, hp, hb, hi, rfl⟩ := h
  have hn : areNames ["name", "params", "expected"] = true := by decide
  refine .record hn ?_
  simp only [List.forall_mem_cons]
  exact ⟨legible_ofText name (by decide), legible_ofParams hp hb (by decide),
    legible_ofInstruction hi (by decide), List.forall_mem_nil _⟩

/-- Vectors that are written into a file of YAML are read from it as they were, each text as a text,
each number and truth value as such, and all fields in order. -/
theorem loadVectors_render {vecs : List Value} {path : String} (hr : ∀ vec ∈ vecs, IsRecorded vec)
    (hy : isYaml path.toList = true) :
    ∃ text, Yaml.render (record [("vectors", .list vecs)]) = .ok text ∧
      ∀ (t : FileTree) (place : List Name), t.locate path.toList = some place →
        t.bytes? place = some (Utf8.encode text) → loadVectors t path = .ok vecs := by
  have hl : Legible 0 (.list vecs) := by
    refine .list (fun vec hm => ?_) fun vec hm => (hr vec hm).legible
    obtain ⟨_, _, _, _, _, _, _, rfl⟩ := hr vec hm
    exact ⟨_, rfl⟩
  have hn : areNames ["vectors"] = true := by decide
  have hf : ∀ f ∈ [("vectors", Value.list vecs)], Legible 0 f.2 := by simpa using hl
  obtain ⟨cs, he, hc, ht⟩ := @Yaml.load_render [("vectors", .list vecs)] hn hf
  refine ⟨_, he, fun t place hp hb => ?_⟩
  rw [loadVectors, readDocument, readText_eq hp hb hc]
  change ((if isYaml path.toList then Yaml.load (String.ofList cs) else _) >>= vectors) = _
  rw [if_pos hy, ht]
  rfl

/-- Blanks at both ends, quotes, indicators, control characters, several lines, and between all that
half of a character. -/
def awkwardName : Text :=
  .broken ⟨" null: \x27\"\n\n \x85\u2028# 😀".toList, ⟨⟨0x3D, by decide⟩⟩,
    "\x00\t- ".toList.map .char⟩

def awkwardParams : Params :=
  .assignWithSeed (.key systemProgram) (.key rent) (.str "2024-02-30") (.key systemProgram)

theorem loadVectors_render_awkward :
    ∃ vec, IsRecorded vec ∧ field "name" vec = .ok (.ofText awkwardName) ∧
      field "params" vec = .ok (ofParams awkwardParams) ∧
      ∃ text, Yaml.render (record [("vectors", .list [vec])]) = .ok text ∧
        loadVectors (oneFile (Utf8.encode text)) "v.yaml" = .ok [vec] := by
  have hb := Params.build_of_spells (p := awkwardParams) (.cons rfl (.cons rfl (.cons rfl .nil)))
  have hk : ∀ v ∈ Params.keys awkwardParams, ∃ k, v = .key k :=
    List.forall_mem_cons.2 ⟨⟨_, rfl⟩, List.forall_mem_singleton.2 ⟨_, rfl⟩⟩
  rw [← Params.keys_of_build hb] at hk
  have hp : awkwardParams.IsTyped := Params.isTyped_of_build hb hk
  obtain ⟨built, hi⟩ := exists_ofInstruction (Params.build_eq_ok_iff.1 hb).1 hk
  have hr : IsRecorded (vectorRecord (.ofText awkwardName) awkwardParams built) :=
    ⟨_, _, _, built, hp, hb, hi, rfl⟩
  have hy : isYaml "v.yaml".toList = true := by cbv
  obtain ⟨text, ht, hl⟩ := loadVectors_render (List.forall_mem_singleton.2 hr) hy
  refine ⟨_, hr, rfl, rfl, text, ht, ?_⟩
  apply hl _ _ (locate_oneFile _)
  simp [oneFile, FileTree.bytes?]

end SystemProgram.Fixture
