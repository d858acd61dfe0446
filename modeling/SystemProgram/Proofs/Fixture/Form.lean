import SystemProgram.Proofs.Instruction.RoundTrip
import SystemProgram.Proofs.Key
import SystemProgram.Fixture.Form

namespace SystemProgram

theorem Outcome.mapM_eq_ok_iff {α β : Type} {f : α → Outcome β} {xs : List α} {ys : List β} :
    xs.mapM f = .ok ys ↔ List.Forall₂ (fun x y => f x = .ok y) xs ys := by
  induction xs generalizing ys with
  | nil =>
    rw [List.mapM_nil, List.forall₂_nil_left_iff]
    exact ⟨fun h => (Except.ok.inj h).symm, fun h => congrArg Except.ok h.symm⟩
  | cons x xs ih =>
    simp only [List.mapM_cons, bind_eq_ok_iff, List.forall₂_cons_left_iff, ih]
    constructor
    · intro h
      obtain ⟨y, hy, zs, hz, h⟩ := h
      exact ⟨y, zs, hy, hz, (Except.ok.inj h).symm⟩
    · intro h
      obtain ⟨y, zs, hy, hz, h⟩ := h
      exact ⟨y, hy, zs, hz, congrArg Except.ok h.symm⟩

namespace FieldKind

/-- The values that a fixture can keep. In place of a text it keeps everything but a key, of which
only the text would be recorded. -/
def Keeps : FieldKind → Value → Prop
  | .u64, v => ∃ i, v = .int i
  | .pubkey, v => ∃ k, v = .key k
  | .string, v => ∀ k, v ≠ .key k

theorem Admits.keeps {kind : FieldKind} {v : Value} (h : kind.Admits v) : kind.Keeps v := by
  cases kind with
  | u64 => exact h
  | pubkey => exact h
  | string =>
    obtain ⟨s, rfl⟩ := h
    nofun

end FieldKind

def Params.IsKept (p : Params) : Prop :=
  List.Forall₂ (fun f v => f.2.Keeps v) p.tag.parameters p.values

theorem Params.IsTyped.isKept {p : Params} (h : p.IsTyped) : p.IsKept :=
  h.imp fun _ _ ha => ha.keeps

namespace Fixture

open Value

section Fields

variable {fields : List (String × Value)} {name : String} {v doc : Value}

theorem field_record (h : (name, v) ∈ fields) (hd : (fields.map Prod.fst).Nodup) :
    field name (record fields) = .ok v :=
  Outcome.ofOption_eq_ok_iff.2 (find?_record_of_mem hd h)

theorem field_of_same (hs : (record fields).same doc = true) (h : (name, v) ∈ fields)
    (hd : (fields.map Prod.fst).Nodup) : ∃ w, field name doc = .ok w ∧ v.same w = true := by
  obtain ⟨es, rfl, he⟩ := record_same hd hs
  obtain ⟨w, hw, hv⟩ := he _ h
  exact ⟨w, Outcome.ofOption_eq_ok_iff.2 hw, hv⟩

end Fields

section Instructions

variable {a : AccountMeta} {ix : Instruction} {v w doc : Value}

theorem keyText_eq_ok_iff : keyText v = .ok w ↔ ∃ k, v = .key k ∧ w = .str k.toBase58 := by
  cases v with
  | key k => simp [keyText, eq_comm]
  | _ => simp [keyText]

def accountRecord (k : PublicKey) (a : AccountMeta) : Value :=
  .record [("pubkey", .str k.toBase58), ("is_signer", .bool a.isSigner),
    ("is_writable", .bool a.isWritable)]

theorem ofAccount_eq_ok_iff :
    ofAccount a = .ok doc ↔ ∃ k, a.pubkey = .key k ∧ doc = accountRecord k a := by
  simp only [ofAccount, Outcome.bind_eq_ok_iff, keyText_eq_ok_iff]
  constructor
  · intro h
    obtain ⟨_, ⟨k, hk, hv⟩, h⟩ := h
    subst hv
    exact ⟨k, hk, (Except.ok.inj h).symm⟩
  · intro h
    obtain ⟨k, hk, h⟩ := h
    exact ⟨_, ⟨k, hk, rfl⟩, congrArg Except.ok h.symm⟩

/-- An account comes back from everything that equals its record. -/
theorem account_of_same (ha : ofAccount a = .ok doc) (h : doc.same v = true) :
    account v = .ok a := by
  have hn : ["pubkey", "is_signer", "is_writable"].Nodup := by decide
  obtain ⟨k, hk, rfl⟩ := ofAccount_eq_ok_iff.1 ha
  obtain ⟨key, hf, hs⟩ := field_of_same h (.head _) hn
  obtain ⟨signer, hf₁, hs₁⟩ := field_of_same h (.tail _ (.head _)) hn
  obtain ⟨writable, hf₂, hs₂⟩ := field_of_same h (.tail _ (.tail _ (.head _))) hn
  obtain rfl := str_same_iff.1 hs
  have hb : PublicKey.ofBase58 (.str k.toBase58) = .ok k := PublicKey.ofBase58_toBase58 k
  simp only [account, Outcome.bind_eq_ok_iff]
  refine ⟨_, hf, k, hb, signer, hf₁, writable, hf₂, congrArg Except.ok ?_⟩
  rw [isTrue_of_bool_same hs₁, isTrue_of_bool_same hs₂, ← hk]

theorem accountRecord_same_self (k : PublicKey) (a : AccountMeta) :
    (accountRecord k a).same (accountRecord k a) = true := by
  apply record_same_self
  simp only [List.forall_mem_cons]
  exact ⟨str_same_iff.2 rfl, bool_same_self _, bool_same_self _, List.forall_mem_nil _⟩

def instructionRecord (k : PublicKey) (accounts : List Value) (data : Bytes) : Value :=
  .record [("program_id", .str k.toBase58), ("accounts", .list accounts),
    ("data", .str (Hex.text data))]

theorem ofInstruction_eq_ok_iff :
    ofInstruction ix = .ok doc ↔ ∃ k accounts, ix.programId = .key k ∧
      List.Forall₂ (fun a v => ofAccount a = .ok v) ix.accounts accounts ∧
      doc = instructionRecord k accounts ix.data := by
  simp only [ofInstruction, Outcome.bind_eq_ok_iff, keyText_eq_ok_iff, Outcome.mapM_eq_ok_iff]
  constructor
  · intro h
    obtain ⟨_, ⟨k, hk, hv⟩, accounts, ha, h⟩ := h
    subst hv
    exact ⟨k, accounts, hk, ha, (Except.ok.inj h).symm⟩
  · intro h
    obtain ⟨k, accounts, hk, ha, h⟩ := h
    exact ⟨_, ⟨k, hk, rfl⟩, accounts, ha, congrArg Except.ok h.symm⟩

theorem exists_accountRecords {as : List AccountMeta}
    (h : ∀ a ∈ as, ∃ k, a.pubkey = .key k) :
    ∃ docs, List.Forall₂ (fun a v => ofAccount a = .ok v) as docs := by
  induction as with
  | nil => exact ⟨[], .nil⟩
  | cons a as ih =>
    obtain ⟨⟨k, hk⟩, h⟩ := List.forall_mem_cons.1 h
    obtain ⟨docs, hd⟩ := ih h
    exact ⟨_, .cons (ofAccount_eq_ok_iff.2 ⟨k, hk, rfl⟩) hd⟩

theorem exists_ofInstruction {k : PublicKey} (hp : ix.programId = .key k)
    (hk : ∀ v ∈ ix.keys, ∃ k, v = .key k) : ∃ doc, ofInstruction ix = .ok doc := by
  have ha : ∀ a ∈ ix.accounts, ∃ k, a.pubkey = .key k :=
    fun a ha => hk _ (List.mem_map_of_mem ha)
  obtain ⟨accounts, ha⟩ := exists_accountRecords ha
  exact ⟨_, ofInstruction_eq_ok_iff.2 ⟨k, accounts, hp, ha, rfl⟩⟩

def parts : List String :=
  ["program_id", "accounts", "data"]

/-- Each part of the first record has its equal in the second. -/
def Agree (v w : Value) : Prop :=
  ∀ part ∈ parts, ∃ a b, field part v = .ok a ∧ field part w = .ok b ∧ a.same b = true

section Record

variable {k : PublicKey} {docs : List Value} {data : Bytes}

theorem field_programId :
    field "program_id" (instructionRecord k docs data) = .ok (.str k.toBase58) := rfl

theorem field_accounts : field "accounts" (instructionRecord k docs data) = .ok (.list docs) := rfl

theorem field_data :
    field "data" (instructionRecord k docs data) = .ok (.str (Hex.text data)) := rfl

/-- Texts leave no choice; accounts may be recorded in other ways that are equal by content. -/
theorem agree_instructionRecord_iff :
    Agree (instructionRecord k docs data) v ↔
      field "program_id" v = .ok (.str k.toBase58) ∧
      (∃ docs', field "accounts" v = .ok (.list docs') ∧
        List.Forall₂ (fun d d' => d.same d' = true) docs docs') ∧
      field "data" v = .ok (.str (Hex.text data)) := by
  simp only [Agree, parts, List.forall_mem_cons, field_programId, field_accounts, field_data,
    Except.ok.injEq]
  constructor
  · intro h
    obtain ⟨⟨_, _, rfl, h₀, hs₀⟩, ⟨_, _, rfl, h₁, hs₁⟩, ⟨_, _, rfl, h₂, hs₂⟩, _⟩ := h
    obtain rfl := str_same_iff.1 hs₀
    obtain ⟨docs', rfl, hd⟩ := list_same_iff.1 hs₁
    obtain rfl := str_same_iff.1 hs₂
    exact ⟨h₀, ⟨docs', h₁, sameAll_iff.1 hd⟩, h₂⟩
  · intro h
    obtain ⟨h₀, ⟨docs', h₁, hd⟩, h₂⟩ := h
    have hs := list_same_iff.2 ⟨docs', rfl, sameAll_iff.2 hd⟩
    exact ⟨⟨_, _, rfl, h₀, str_same_iff.2 rfl⟩, ⟨_, _, rfl, h₁, hs⟩,
      ⟨_, _, rfl, h₂, str_same_iff.2 rfl⟩, List.forall_mem_nil _⟩

end Record

theorem accountRecords_same_self {as : List AccountMeta} {docs : List Value}
    (h : List.Forall₂ (fun a v => ofAccount a = .ok v) as docs) :
    List.Forall₂ (fun d d' => d.same d' = true) docs docs := by
  induction h with
  | nil => exact .nil
  | @cons a _ _ _ ha _ ih =>
    obtain ⟨k, _, rfl⟩ := ofAccount_eq_ok_iff.1 ha
    exact .cons (accountRecord_same_self k a) ih

theorem agree_self (h : ofInstruction ix = .ok doc) : Agree doc doc := by
  obtain ⟨k, docs, _, ha, rfl⟩ := ofInstruction_eq_ok_iff.1 h
  have hs := accountRecords_same_self ha
  exact agree_instructionRecord_iff.2 ⟨field_programId, ⟨docs, field_accounts, hs⟩, field_data⟩

theorem hexBytes_text (bs : Bytes) : hexBytes (.str (Hex.text bs)) = .ok bs := by
  rw [hexBytes, Hex.text, String.toList_ofList, Hex.decode?_encode]
  rfl

theorem accounts_of_same {as : List AccountMeta} {docs docs' : List Value}
    (ha : List.Forall₂ (fun a v => ofAccount a = .ok v) as docs)
    (hs : List.Forall₂ (fun v w => v.same w = true) docs docs') :
    docs'.mapM account = .ok as := by
  rw [Outcome.mapM_eq_ok_iff]
  induction ha generalizing docs' with
  | nil =>
    obtain rfl := List.forall₂_nil_left_iff.1 hs
    exact .nil
  | cons ha _ ih =>
    obtain ⟨v, vs, hv, hvs, rfl⟩ := List.forall₂_cons_left_iff.1 hs
    exact .cons (account_of_same ha hv) (ih hvs)

/-- An instruction comes back from everything whose parts equal those of its record. -/
theorem instruction_of_agree (hi : ofInstruction ix = .ok doc) (h : Agree doc v) :
    instruction v = .ok ix := by
  obtain ⟨k, docs, hk, ha, rfl⟩ := ofInstruction_eq_ok_iff.1 hi
  obtain ⟨h₀, ⟨docs', h₁, hd⟩, h₂⟩ := agree_instructionRecord_iff.1 h
  have hb : PublicKey.ofBase58 (.str k.toBase58) = .ok k := PublicKey.ofBase58_toBase58 k
  have hm : docs'.mapM account = .ok ix.accounts := accounts_of_same ha hd
  have hx : hexBytes (.str (Hex.text ix.data)) = .ok ix.data := hexBytes_text ix.data
  simp only [instruction, Outcome.bind_eq_ok_iff]
  exact ⟨_, h₀, k, hb, _, h₁, docs', rfl, _, hm, _, h₂, _, hx, congrArg Except.ok (hk ▸ rfl)⟩

end Instructions

section Parameters

variable {p : Params} {ix : Instruction} {kind : FieldKind} {l : Layout} {v w doc : Value}

theorem loadFields_eq_ok_iff {vs : List Value} :
    loadFields doc l = .ok vs ↔
      List.Forall₂ (fun f v => ∃ w, field f.1 doc = .ok w ∧ load f.2 w = .ok v) l vs := by
  induction l generalizing vs with
  | nil =>
    rw [loadFields, List.forall₂_nil_left_iff]
    exact ⟨fun h => (Except.ok.inj h).symm, fun h => congrArg Except.ok h.symm⟩
  | cons f l ih =>
    obtain ⟨name, kind⟩ := f
    simp only [loadFields, Outcome.bind_eq_ok_iff, List.forall₂_cons_left_iff, ih]
    constructor
    · intro h
      obtain ⟨w, hw, v, hv, vs, hvs, h⟩ := h
      exact ⟨v, vs, ⟨w, hw, hv⟩, hvs, (Except.ok.inj h).symm⟩
    · intro h
      obtain ⟨v, vs, ⟨w, hw, hv⟩, hvs, h⟩ := h
      exact ⟨w, hw, v, hv, vs, hvs, congrArg Except.ok h.symm⟩

theorem params_eq_ok_iff :
    params doc = .ok p ↔
      (∃ v, field "instruction" doc = .ok v ∧ tagOf v = .ok p.tag) ∧
        List.Forall₂ (fun f v => ∃ w, field f.1 doc = .ok w ∧ load f.2 w = .ok v)
          p.tag.parameters p.values := by
  simp only [params, Outcome.bind_eq_ok_iff, Params.ofValues, Outcome.ofOption_eq_ok_iff,
    Params.ofValues?_eq_some_iff, loadFields_eq_ok_iff]
  constructor
  · intro h
    obtain ⟨v, hv, tag, ht, vs, hl, hp, hvs⟩ := h
    subst hp hvs
    exact ⟨⟨v, hv, ht⟩, hl⟩
  · intro h
    obtain ⟨⟨v, hv, ht⟩, hl⟩ := h
    exact ⟨v, hv, _, ht, _, hl, rfl, rfl⟩

theorem tagOf_lowerName (t : Tag) : tagOf (.str t.lowerName) = .ok t := by
  cases t <;> rfl

theorem plain_ne_key (v : Value) (k : PublicKey) : plain v ≠ .key k := by
  cases v with
  | key _ => nofun
  | _ => nofun

/-- Whatever is loaded can be kept, as long as no key stands in place of a text. -/
theorem keeps_of_load (hl : load kind w = .ok v) (hw : kind = .string → ∀ k, w ≠ .key k) :
    kind.Keeps v := by
  cases kind with
  | u64 =>
    obtain ⟨i, _, h⟩ := Outcome.bind_eq_ok_iff.1 hl
    exact ⟨i, (Except.ok.inj h).symm⟩
  | pubkey =>
    obtain ⟨k, _, h⟩ := Outcome.bind_eq_ok_iff.1 hl
    exact ⟨k, (Except.ok.inj h).symm⟩
  | string =>
    obtain rfl := Except.ok.inj hl
    exact hw rfl

theorem plain_of_keeps_string (h : FieldKind.string.Keeps v) : plain v = v := by
  cases v with
  | key k => exact absurd rfl (h k)
  | _ => rfl

theorem load_plain_iff : load kind (plain v) = .ok v ↔ kind.Keeps v := by
  constructor
  · exact fun h => keeps_of_load h fun _ => plain_ne_key v
  · intro h
    cases kind with
    | u64 =>
      obtain ⟨i, rfl⟩ := h
      rfl
    | pubkey =>
      obtain ⟨k, rfl⟩ := h
      exact Outcome.bind_eq_ok_iff.2 ⟨k, PublicKey.ofBase58_toBase58 k, rfl⟩
    | string => exact congrArg Except.ok (plain_of_keeps_string h)

theorem isExact_plain (h : kind.Admits v) : (plain v).IsExact := by
  cases kind <;> obtain ⟨_, rfl⟩ := h <;> trivial

theorem nodup_names (p : Params) :
    (("instruction", str p.tag.lowerName) :: p.fields.map fun f => (f.1, plain f.2)).map
      Prod.fst |>.Nodup := by
  have hf : p.fields.map Prod.fst = p.tag.parameters.names := p.names_fields
  have hn : ("instruction" :: p.tag.parameters.names).Nodup := by
    cases p.tag <;> decide
  rw [List.map_cons, List.map_map]
  exact hf ▸ hn

theorem field_instruction (p : Params) :
    field "instruction" (ofParams p) = .ok (.str p.tag.lowerName) :=
  field_record (.head _) (nodup_names p)

theorem field_ofParams {f : String × FieldKind} (h : (f, v) ∈ p.tag.parameters.zip p.values) :
    field f.1 (ofParams p) = .ok (plain v) := by
  have hf : (f.1, v) ∈ p.fields := by
    rw [Params.fields, Layout.names, List.zip_map_left]
    exact List.mem_map_of_mem h
  have hr : (f.1, plain v) ∈ p.fields.map fun f => (f.1, plain f.2) := List.mem_map_of_mem hf
  exact field_record (.tail _ hr) (nodup_names p)

/-- Parameters come back from their record if and only if each of them can be kept. -/
theorem params_ofParams_iff : params (ofParams p) = .ok p ↔ p.IsKept := by
  rw [params_eq_ok_iff, field_instruction]
  simp only [Params.IsKept, List.forall₂_iff_zip]
  constructor
  · intro h
    obtain ⟨_, hl, hz⟩ := h
    refine ⟨hl, fun {f v} hm => ?_⟩
    obtain ⟨w, hw, hv⟩ := hz hm
    obtain rfl := Except.ok.inj ((field_ofParams hm).symm.trans hw)
    exact load_plain_iff.1 hv
  · intro h
    obtain ⟨hl, hz⟩ := h
    refine ⟨⟨_, rfl, tagOf_lowerName _⟩, hl, fun {f v} hm => ?_⟩
    exact ⟨plain v, field_ofParams hm, load_plain_iff.2 (hz hm)⟩

theorem ofParams_same_self (h : p.IsTyped) : (ofParams p).same (ofParams p) = true := by
  refine record_same_self (List.forall_mem_cons.2 ⟨str_same_iff.2 rfl, ?_⟩)
  rw [List.forall_mem_map]
  intro e he
  obtain ⟨_, _, ha⟩ := h.admits e he
  exact (isExact_plain ha).same_self

theorem keys_of_params (h : params doc = .ok p) : ∀ v ∈ p.keys, ∃ k, v = .key k := by
  apply Params.keys_of_pubkeys
  apply (params_eq_ok_iff.1 h).2.imp
  intro f v hl hf
  obtain ⟨w, _, hv⟩ := hl
  rw [hf] at hv
  exact keeps_of_load hv nofun

end Parameters

end Fixture
end SystemProgram
