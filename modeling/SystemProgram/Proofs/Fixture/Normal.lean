import SystemProgram.Proofs.Fixture.Form
import SystemProgram.Proofs.Key.Text

namespace SystemProgram

/-- If whatever was read comes back from its record, recording it again changes nothing. -/
theorem Outcome.renew_renewed {α : Type} {read : Value → Outcome α} {write : α → Outcome Value}
    {doc doc' : Value} (hr : ∀ a, read doc = .ok a → write a = .ok doc' → read doc' = .ok a)
    (h : (read doc >>= write) = .ok doc') : (read doc' >>= write) = .ok doc' := by
  obtain ⟨a, ha, hw⟩ := bind_eq_ok_iff.1 h
  exact bind_eq_ok_iff.2 ⟨a, hr a ha hw, hw⟩

structure Instruction.IsKeyed (ix : Instruction) : Prop where
  programId : ∃ k, ix.programId = .key k
  keys : ∀ v ∈ ix.keys, ∃ k, v = .key k

namespace Fixture

/-- The record of the parameters that a document stands for. -/
def renewParams (doc : Value) : Outcome Value :=
  params doc >>= fun p => .ok (ofParams p)

section Parameters

variable {p : Params} {doc : Value}

theorem name_of_string (t : Tag) : ∀ f ∈ t.parameters, f.2 = .string → f.1 = "seed" := by
  cases t <;> decide

/-- All but the seed is converted when it is read. -/
theorem isKept_of_params (hs : ∀ k, field "seed" doc ≠ .ok (.key k)) (h : params doc = .ok p) :
    p.IsKept := by
  obtain ⟨hl, hz⟩ := List.forall₂_iff_zip.1 (params_eq_ok_iff.1 h).2
  refine List.forall₂_iff_zip.2 ⟨hl, fun {f v} hm => ?_⟩
  obtain ⟨w, hw, hv⟩ := hz hm
  -- Only a text could be a key here, and the one parameter that is a text is the seed.
  refine keeps_of_load hv fun hk k he => hs k ?_
  rw [← name_of_string _ f (List.of_mem_zip hm).1 hk, hw, he]

/-- Parameters come back from their record exactly if those that are to be keys are keys, those that
are to be numbers are integers, of any sign and size, and the seed is no key, which would be
recorded as its text. A document in which the seed is no key, as in every document that is read
from a file, gives parameters that come back, so that renewing it twice is renewing it once. -/
theorem params_come_back :
    (∀ p, params (ofParams p) = .ok p ↔ p.IsKept) ∧
    (∀ doc p, (∀ k, field "seed" doc ≠ .ok (.key k)) → params doc = .ok p →
      params (ofParams p) = .ok p) ∧
    ∀ doc doc', (∀ k, field "seed" doc ≠ .ok (.key k)) → renewParams doc = .ok doc' →
      renewParams doc' = .ok doc' := by
  have hb : ∀ doc p, (∀ k, field "seed" doc ≠ .ok (.key k)) → params doc = .ok p →
      params (ofParams p) = .ok p :=
    fun _ _ hs h => params_ofParams_iff.2 (isKept_of_params hs h)
  refine ⟨fun _ => params_ofParams_iff, hb, fun doc doc' hs h => ?_⟩
  refine Outcome.renew_renewed (fun p hp hw => ?_) h
  exact Except.ok.inj hw ▸ hb doc p hs hp

/-- The name is in mixed letters, a blank and a line end stand behind a key, the seed is a list, and
the space is a text with blanks around it. -/
theorem params_come_back_loose :
    let doc : Value := .record [("instruction", .str "AlLocate_With_Seed"),
      ("account_pubkey", .str "11111111111111111111111111111111 \n"),
      ("base", .str rentText), ("seed", .list [.null, .int 7]), ("space", .str " -1_000 "),
      ("owner", .str "11111111111111111111111111111111")]
    let p : Params := .allocateWithSeed (.key systemProgram) (.key rent) (.list [.null, .int 7])
      (.int (-1000)) (.key systemProgram)
    params doc = .ok p ∧ params (ofParams p) = .ok p ∧
      renewParams doc = .ok (ofParams p) ∧ renewParams (ofParams p) = .ok (ofParams p) := by
  intro doc p
  have hs : ∀ k, field "seed" doc ≠ .ok (.key k) := nofun
  have hp : params doc = .ok p := by
    have hk {t : String} {k : PublicKey} (h : Text.trimEnd t.toList = k.toBase58.toList) :
        load .pubkey (.str t) = .ok (.key k) :=
      Outcome.bind_eq_ok_iff.2 ⟨k, PublicKey.ofBase58_eq_ok_iff.2 h, rfl⟩
    exact params_eq_ok_iff.2 ⟨⟨_, rfl, rfl⟩, .cons ⟨_, rfl, hk (by decide +kernel)⟩ <|
      .cons ⟨_, rfl, hk (by decide +kernel)⟩ <| .cons ⟨_, rfl, rfl⟩ <| .cons ⟨_, rfl, rfl⟩ <|
      .cons ⟨_, rfl, hk (by decide +kernel)⟩ .nil⟩
  have hr : renewParams doc = .ok (ofParams p) := Outcome.bind_eq_ok_iff.2 ⟨p, hp, rfl⟩
  exact ⟨hp, params_come_back.2.1 doc p hs hp, hr, params_come_back.2.2 doc _ hs hr⟩

end Parameters

def renewInstruction (doc : Value) : Outcome Value :=
  instruction doc >>= ofInstruction

section Instructions

variable {a : AccountMeta} {ix : Instruction} {doc : Value}

/-- An instruction comes back from what is recorded of it. -/
theorem instruction_ofInstruction (h : ofInstruction ix = .ok doc) : instruction doc = .ok ix :=
  instruction_of_agree h (agree_self h)

theorem pubkey_of_account (h : account doc = .ok a) : ∃ k, a.pubkey = .key k := by
  simp only [account, Outcome.bind_eq_ok_iff] at h
  obtain ⟨_, _, k, _, _, _, _, _, h⟩ := h
  exact ⟨k, (congrArg AccountMeta.pubkey (Except.ok.inj h)).symm⟩

theorem keys_of_accounts {as : List AccountMeta} {docs : List Value}
    (h : docs.mapM account = .ok as) : ∀ a ∈ as, ∃ k, a.pubkey = .key k := by
  have hf := (Outcome.mapM_eq_ok_iff.1 h).flip
  exact ((List.forall₂_and_left as docs).1 (hf.imp fun _ _ ha => ⟨pubkey_of_account ha, ha⟩)).1

theorem isKeyed_of_instruction (h : instruction doc = .ok ix) : ix.IsKeyed := by
  simp only [instruction, Outcome.bind_eq_ok_iff] at h
  obtain ⟨_, _, k, _, _, _, docs, _, as, ha, _, _, data, _, h⟩ := h
  obtain rfl := Except.ok.inj h
  exact ⟨⟨k, rfl⟩, List.forall_mem_map.2 (keys_of_accounts ha)⟩

theorem exists_ofInstruction_iff : (∃ doc, ofInstruction ix = .ok doc) ↔ ix.IsKeyed := by
  constructor
  · intro h
    -- The record is read again, and reading gives nothing but keys.
    obtain ⟨doc, hd⟩ := h
    exact isKeyed_of_instruction (instruction_ofInstruction hd)
  · intro h
    obtain ⟨k, hk⟩ := h.programId
    exact exists_ofInstruction hk h.keys

/-- An instruction can be recorded exactly if its program and its accounts are keys, and it comes
back from the record. What is read from a document is always such an instruction, so that renewing
a document twice is renewing it once. -/
theorem instruction_comes_back :
    (∀ ix : Instruction,
      (∃ doc, ofInstruction ix = .ok doc ∧ instruction doc = .ok ix) ↔ ix.IsKeyed) ∧
    (∀ doc ix, instruction doc = .ok ix →
      ∃ doc', ofInstruction ix = .ok doc' ∧ instruction doc' = .ok ix) ∧
    ∀ doc doc', renewInstruction doc = .ok doc' → renewInstruction doc' = .ok doc' := by
  have hb : ∀ ix : Instruction,
      (∃ doc, ofInstruction ix = .ok doc ∧ instruction doc = .ok ix) ↔ ix.IsKeyed := by
    intro ix
    rw [← exists_ofInstruction_iff]
    exact exists_congr fun doc => and_iff_left_of_imp instruction_ofInstruction
  refine ⟨hb, fun doc ix h => (hb ix).2 (isKeyed_of_instruction h), fun doc doc' h => ?_⟩
  exact Outcome.renew_renewed (fun _ _ hw => instruction_ofInstruction hw) h

/-- Blanks stand behind a key and between bytes, letters are of both kinds, and the flags are a text
and an empty list. -/
theorem instruction_comes_back_loose :
    let doc : Value := .record [("program_id", .str "11111111111111111111111111111111 "),
      ("accounts", .list [.record [("pubkey", .str rentText), ("is_signer", .str "no"),
        ("is_writable", .list [])]]),
      ("data", .str "0A fF\n")]
    let ix : Instruction := ⟨.key systemProgram, [⟨.key rent, true, false⟩], [0x0A, 0xFF]⟩
    instruction doc = .ok ix ∧
      ∃ doc', ofInstruction ix = .ok doc' ∧ instruction doc' = .ok ix ∧
        renewInstruction doc = .ok doc' ∧ renewInstruction doc' = .ok doc' := by
  intro doc ix
  have hp : PublicKey.ofBase58 (.str "11111111111111111111111111111111 ") = .ok systemProgram :=
    PublicKey.ofBase58_eq_ok_iff.2 (by decide +kernel)
  have hr : PublicKey.ofBase58 (.str rentText) = .ok rent :=
    PublicKey.ofBase58_eq_ok_iff.2 (by decide +kernel)
  have hi : instruction doc = .ok ix := by
    simp only [instruction, account, Outcome.bind_eq_ok_iff, Outcome.mapM_eq_ok_iff]
    exact ⟨_, rfl, systemProgram, hp, _, rfl, _, rfl, _,
      .cons ⟨_, rfl, rent, hr, _, rfl, _, rfl, rfl⟩ .nil, _, rfl, _, rfl, rfl⟩
  obtain ⟨doc', hd, hi'⟩ := instruction_comes_back.2.1 doc ix hi
  have hn : renewInstruction doc = .ok doc' := Outcome.bind_eq_ok_iff.2 ⟨ix, hi, hd⟩
  exact ⟨hi, doc', hd, hi', hn, instruction_comes_back.2.2 doc doc' hn⟩

end Instructions

end Fixture
end SystemProgram
