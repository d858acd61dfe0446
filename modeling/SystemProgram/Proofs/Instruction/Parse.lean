import SystemProgram.Proofs.Payload
import SystemProgram.Instruction.Parse

namespace SystemProgram

def Instruction.keys (ix : Instruction) : List Value :=
  ix.accounts.map AccountMeta.pubkey

def Params.keys (p : Params) : List Value :=
  p.accounts.map AccountMeta.pubkey

/-- The account keys of an instruction in which the parameters can be found: those that building
lists. The base of a new account may also be listed when it is the account that pays. -/
def Params.Fits (p : Params) (ks : List Value) : Prop :=
  ks = p.keys ∨ ∃ payer newAccount seed lamports space owner,
    p = .createAccountWithSeed payer newAccount payer seed lamports space owner ∧
      ks = [payer, newAccount, payer]

section CreateAccountWithSeed

variable {source newAccount base seed lamports space owner : Value} {ks : List Value}

theorem Params.keys_createAccountWithSeed :
    (createAccountWithSeed source newAccount base seed lamports space owner).keys =
      if base.same source then [source, newAccount] else [source, newAccount, base] := by
  rw [keys, accounts]
  split <;> rfl

theorem Params.fits_createAccountWithSeed_iff {k : PublicKey} :
    (createAccountWithSeed source newAccount (.key k) seed lamports space owner).Fits ks ↔
      source = .key k ∧ ks = [source, newAccount] ∨ ks = [source, newAccount, .key k] := by
  unfold Fits
  rw [keys_createAccountWithSeed]
  simp only [createAccountWithSeed.injEq]
  -- Building lists the base unless it is `source`; then only the exception lists it.
  by_cases hs : source = .key k
  · rw [if_pos (Value.key_same_iff.2 hs)]
    constructor
    · intro h
      rcases h with h | ⟨_, _, _, _, _, _, ⟨rfl, rfl, hb, _⟩, h⟩
      · exact .inl ⟨hs, h⟩
      · exact .inr (hb ▸ h)
    · intro h
      rcases h with ⟨_, h⟩ | h
      · exact .inl h
      · exact .inr ⟨_, _, _, _, _, _, ⟨rfl, rfl, hs.symm, rfl, rfl, rfl, rfl⟩, hs ▸ h⟩
  · rw [if_neg (mt Value.key_same_iff.1 hs)]
    constructor
    · intro h
      rcases h with h | ⟨_, _, _, _, _, _, ⟨hp, _, hb, _⟩, _⟩
      · exact .inr h
      · exact absurd (hp.trans hb.symm) hs
    · intro h
      rcases h with ⟨h, _⟩ | h
      · exact absurd h hs
      · exact .inl h

end CreateAccountWithSeed

namespace Instruction

variable {ix : Instruction}

theorem length_keys (ix : Instruction) : ix.keys.length = ix.accounts.length :=
  List.length_map ..

theorem keyAt_eq (ix : Instruction) (i : Nat) :
    ix.keyAt i = .ofOption .outOfRange ix.keys[i]? := by
  unfold keyAt keys
  rw [List.getElem?_map]

theorem keyAt_eq_ok_iff {i : Nat} {v : Value} : ix.keyAt i = .ok v ↔ ix.keys[i]? = some v := by
  rw [keyAt_eq, Outcome.ofOption_eq_ok_iff]

theorem expectSysvar_eq_ok_iff {i : Nat} {s : Sysvar} :
    ix.expectSysvar i s = .ok () ↔ ix.keys[i]? = some (.key s.key) := by
  simp only [expectSysvar, Outcome.bind_eq_ok_iff, keyAt_eq_ok_iff]
  constructor
  · intro h
    obtain ⟨v, hv, h⟩ := h
    split at h
    · next hs => rw [hv, Value.same_key_iff.1 hs]
    · cases h
  · intro h
    exact ⟨_, h, if_pos (Value.same_key_iff.2 rfl)⟩

theorem expectBase_eq_ok_iff {k : PublicKey} {i : Nat} {fault : Fault} :
    ix.expectBase (.key k) i fault = .ok () ↔ ix.keys[i]? = some (.key k) := by
  simp only [expectBase, Outcome.bind_eq_ok_iff, keyAt_eq_ok_iff]
  constructor
  · intro h
    obtain ⟨v, hv, h⟩ := h
    split at h
    · next hs => rw [hv, Value.key_same_iff.1 hs]
    · cases h
  · intro h
    exact ⟨_, h, if_pos (Value.key_same_iff.2 rfl)⟩

theorem parse_eq (ix : Instruction) :
    ix.parse =
      if ix.programId.same (.key systemProgram) then
        match Payload.decode ix.data with
        | .ok (tag, fs) =>
          if tag.accountCounts.contains ix.accounts.length then do
            (sysvarPlaces tag).forM fun e => ix.expectSysvar e.1 e.2
            ix.params fs tag
          else .error (.fault (.accountCount tag ix.accounts.length))
        | .error e => .error e
      else .error (.fault (.foreignProgram ix.programId)) := by
  unfold parse
  cases ix.programId.same (.key systemProgram) with
  | false => rfl
  | true =>
    rcases Payload.decode ix.data with e | ⟨tag, fs⟩
    · rfl
    · cases h : tag.accountCounts.contains ix.accounts.length <;> simp <;> rfl

theorem parse_eq_ok_iff_checks {p : Params} :
    ix.parse = .ok p ↔
      ix.programId = .key systemProgram ∧ ∃ tag fs, Payload.decode ix.data = .ok (tag, fs) ∧
        ix.accounts.length ∈ tag.accountCounts ∧
        (∀ e ∈ sysvarPlaces tag, ix.keys[e.1]? = some (.key e.2.key)) ∧
        ix.params fs tag = .ok p := by
  rw [parse_eq]
  constructor
  · intro h
    split at h
    · next hp =>
      split at h
      · next tag fs hd =>
        split at h
        · next hc =>
          obtain ⟨_, hs, hq⟩ := Outcome.bind_eq_ok_iff.1 h
          rw [Outcome.forM_eq_ok_iff] at hs
          exact ⟨Value.same_key_iff.1 hp, tag, fs, hd, List.contains_iff_mem.1 hc,
            fun e he => expectSysvar_eq_ok_iff.1 (hs e he), hq⟩
        · cases h
      · cases h
    · cases h
  · intro h
    obtain ⟨hp, tag, fs, hd, hc, hs, hq⟩ := h
    rw [hp, hd, if_pos (Value.key_same_iff.2 rfl)]
    dsimp only
    rw [if_pos (List.contains_iff_mem.2 hc)]
    refine Outcome.bind_eq_ok_iff.2 ⟨(), ?_, hq⟩
    exact Outcome.forM_eq_ok_iff.2 fun e he => expectSysvar_eq_ok_iff.2 (hs e he)

variable {fs : Fields} {body : Bytes} {p : Params}

/-- The parameters that are found are those whose payload and accounts the instruction has. -/
theorem fits_of_params {tag : Tag} (hf : tag.layout.Spells fs body)
    (hc : ix.accounts.length ∈ tag.accountCounts)
    (hs : ∀ e ∈ sysvarPlaces tag, ix.keys[e.1]? = some (.key e.2.key))
    (h : ix.params fs tag = .ok p) : p.tag = tag ∧ p.payload = fs ∧ p.Fits ix.keys := by
  obtain ⟨programId, accounts, data⟩ := ix
  obtain ⟨vs, hv, rfl⟩ := hf.exists_values
  -- The tag says how many values and accounts there are, and with these at hand `params` computes.
  cases tag with
  | createAccount =>
    match vs, hv, accounts, List.mem_singleton.1 hc, h with
    | [lamports, space, owner], _, [source, newAccount], _, h =>
      obtain rfl := Except.ok.inj h
      exact ⟨rfl, rfl, .inl rfl⟩
  | assign =>
    match vs, hv, accounts, List.mem_singleton.1 hc, h with
    | [owner], _, [account], _, h =>
      obtain rfl := Except.ok.inj h
      exact ⟨rfl, rfl, .inl rfl⟩
  | transfer =>
    match vs, hv, accounts, List.mem_singleton.1 hc, h with
    | [lamports], _, [source, target], _, h =>
      obtain rfl := Except.ok.inj h
      exact ⟨rfl, rfl, .inl rfl⟩
  | createAccountWithSeed =>
    match vs, hv, hf, h with
    | [base, seed, lamports, space, owner], _, hf, h =>
      obtain ⟨k, rfl⟩ := hf.isKey_head
      obtain ⟨_, hg, h⟩ := Outcome.bind_eq_ok_iff.1 h
      obtain rfl := Except.ok.inj hg
      simp only [Tag.accountCounts, List.mem_cons, List.not_mem_nil, or_false] at hc
      rcases hc with hc | hc
      · match accounts, hc, h with
        | [source, newAccount], _, h =>
          obtain ⟨_, he, h⟩ := Outcome.bind_eq_ok_iff.1 h
          have hb : source.pubkey = .key k := Option.some.inj (expectBase_eq_ok_iff.1 he)
          obtain rfl := Except.ok.inj h
          exact ⟨rfl, rfl, Params.fits_createAccountWithSeed_iff.2 (.inl ⟨hb, rfl⟩)⟩
      · match accounts, hc, h with
        | [source, newAccount, signer], _, h =>
          obtain ⟨_, he, h⟩ := Outcome.bind_eq_ok_iff.1 h
          have hb : signer.pubkey = .key k := Option.some.inj (expectBase_eq_ok_iff.1 he)
          obtain rfl := Except.ok.inj h
          refine ⟨rfl, rfl, Params.fits_createAccountWithSeed_iff.2 (.inr ?_)⟩
          rw [← hb]
          rfl
  | advanceNonceAccount =>
    match vs, hv, accounts, List.mem_singleton.1 hc, hs, h with
    | [], _, [nonce, blockhashes, authorized], _, hs, h =>
      obtain rfl := Except.ok.inj h
      have hb : blockhashes.pubkey = .key Sysvar.recentBlockhashes.key :=
        Option.some.inj (hs (1, .recentBlockhashes) (.head _))
      refine ⟨rfl, rfl, .inl ?_⟩
      simp [keys, Params.keys, Params.accounts, hb]
  | withdrawNonceAccount =>
    match vs, hv, accounts, List.mem_singleton.1 hc, hs, h with
    | [lamports], _, [nonce, target, blockhashes, rent, authorized], _, hs, h =>
      obtain rfl := Except.ok.inj h
      have hb : blockhashes.pubkey = .key Sysvar.recentBlockhashes.key :=
        Option.some.inj (hs (2, .recentBlockhashes) (.head _))
      have hr : rent.pubkey = .key Sysvar.rent.key :=
        Option.some.inj (hs (3, .rent) (.tail _ (.head _)))
      refine ⟨rfl, rfl, .inl ?_⟩
      simp [keys, Params.keys, Params.accounts, hb, hr]
  | initializeNonceAccount =>
    match vs, hv, accounts, List.mem_singleton.1 hc, hs, h with
    | [authorized], _, [nonce, blockhashes, rent], _, hs, h =>
      obtain rfl := Except.ok.inj h
      have hb : blockhashes.pubkey = .key Sysvar.recentBlockhashes.key :=
        Option.some.inj (hs (1, .recentBlockhashes) (.head _))
      have hr : rent.pubkey = .key Sysvar.rent.key :=
        Option.some.inj (hs (2, .rent) (.tail _ (.head _)))
      refine ⟨rfl, rfl, .inl ?_⟩
      simp [keys, Params.keys, Params.accounts, hb, hr]
  | authorizeNonceAccount =>
    match vs, hv, accounts, List.mem_singleton.1 hc, h with
    | [newAuthority], _, [nonce, authorized], _, h =>
      obtain rfl := Except.ok.inj h
      exact ⟨rfl, rfl, .inl rfl⟩
  | allocate =>
    match vs, hv, accounts, List.mem_singleton.1 hc, h with
    | [space], _, [account], _, h =>
      obtain rfl := Except.ok.inj h
      exact ⟨rfl, rfl, .inl rfl⟩
  | allocateWithSeed =>
    match vs, hv, accounts, List.mem_singleton.1 hc, hf, h with
    | [base, seed, space, owner], _, [account, signer], _, hf, h =>
      obtain ⟨k, rfl⟩ := hf.isKey_head
      obtain ⟨_, hg, h⟩ := Outcome.bind_eq_ok_iff.1 h
      obtain rfl := Except.ok.inj hg
      obtain ⟨_, he, h⟩ := Outcome.bind_eq_ok_iff.1 h
      have hb : signer.pubkey = .key k := Option.some.inj (expectBase_eq_ok_iff.1 he)
      obtain rfl := Except.ok.inj h
      refine ⟨rfl, rfl, .inl ?_⟩
      simp [keys, Params.keys, Params.accounts, hb]
  | assignWithSeed =>
    match vs, hv, accounts, List.mem_singleton.1 hc, hf, h with
    | [base, seed, owner], _, [account, signer], _, hf, h =>
      obtain ⟨k, rfl⟩ := hf.isKey_head
      obtain ⟨_, hg, h⟩ := Outcome.bind_eq_ok_iff.1 h
      obtain rfl := Except.ok.inj hg
      obtain ⟨_, he, h⟩ := Outcome.bind_eq_ok_iff.1 h
      have hb : signer.pubkey = .key k := Option.some.inj (expectBase_eq_ok_iff.1 he)
      obtain rfl := Except.ok.inj h
      refine ⟨rfl, rfl, .inl ?_⟩
      simp [keys, Params.keys, Params.accounts, hb]
  | transferWithSeed =>
    match vs, hv, accounts, List.mem_singleton.1 hc, h with
    | [lamports, seed, sourceOwner], _, [source, base, target], _, h =>
      obtain rfl := Except.ok.inj h
      exact ⟨rfl, rfl, .inl rfl⟩

theorem length_of_fits {ks : List Value} (h : p.Fits ks) : ks.length ∈ p.tag.accountCounts := by
  rcases h with rfl | ⟨_, _, _, _, _, _, rfl, rfl⟩
  · cases p with
    | createAccountWithSeed =>
      rw [Params.keys_createAccountWithSeed]
      split
      · exact .head _
      · exact .tail _ (.head _)
    | _ => exact .head _
  · exact .tail _ (.head _)

theorem sysvars_of_fits {ks : List Value} (h : p.Fits ks) :
    ∀ e ∈ sysvarPlaces p.tag, ks[e.1]? = some (.key e.2.key) := by
  rcases h with rfl | ⟨_, _, _, _, _, _, rfl, rfl⟩
  · cases p <;> simp [sysvarPlaces, Params.tag, Params.keys, Params.accounts]
  · simp [sysvarPlaces, Params.tag]

/-- Parameters are found wherever their payload and their accounts are. -/
theorem params_of_fits (hf : p.tag.layout.Spells p.payload body) (hk : p.Fits ix.keys) :
    ix.params p.payload p.tag = .ok p := by
  -- Most instructions only look accounts up; three also compare one with the base of the payload.
  cases p with
  | createAccountWithSeed source newAccount base seed lamports space owner =>
    obtain ⟨k, rfl⟩ := hf.isKey_head
    refine Outcome.bind_eq_ok_iff.2 ⟨_, rfl, ?_⟩
    simp only [← length_keys]
    rcases Params.fits_createAccountWithSeed_iff.1 hk with ⟨rfl, hk⟩ | hk
    · have hb : ix.expectBase (.key k) 0 .baseMissing = .ok () :=
        expectBase_eq_ok_iff.2 (by rw [hk]; rfl)
      simp only [keyAt_eq, hk]
      exact Outcome.bind_eq_ok_iff.2 ⟨(), hb, rfl⟩
    · have hb : ix.expectBase (.key k) 2 .baseMismatch = .ok () :=
        expectBase_eq_ok_iff.2 (by rw [hk]; rfl)
      simp only [keyAt_eq, hk]
      exact Outcome.bind_eq_ok_iff.2 ⟨(), hb, rfl⟩
  | allocateWithSeed account base seed space owner =>
    obtain ⟨k, rfl⟩ := hf.isKey_head
    obtain hk | ⟨_, _, _, _, _, _, ⟨⟩, _⟩ := hk
    have hb : ix.expectBase (.key k) 1 .baseMismatch = .ok () :=
      expectBase_eq_ok_iff.2 (by rw [hk]; rfl)
    refine Outcome.bind_eq_ok_iff.2 ⟨_, rfl, Outcome.bind_eq_ok_iff.2 ⟨(), hb, ?_⟩⟩
    simp only [keyAt_eq, hk]
    rfl
  | assignWithSeed account base seed owner =>
    obtain ⟨k, rfl⟩ := hf.isKey_head
    obtain hk | ⟨_, _, _, _, _, _, ⟨⟩, _⟩ := hk
    have hb : ix.expectBase (.key k) 1 .baseMismatch = .ok () :=
      expectBase_eq_ok_iff.2 (by rw [hk]; rfl)
    refine Outcome.bind_eq_ok_iff.2 ⟨_, rfl, Outcome.bind_eq_ok_iff.2 ⟨(), hb, ?_⟩⟩
    simp only [keyAt_eq, hk]
    rfl
  | _ =>
    obtain hk | ⟨_, _, _, _, _, _, ⟨⟩, _⟩ := hk
    simp only [Params.keys, Params.accounts, List.map_cons, List.map_nil,
      AccountMeta.pubkey_signer, AccountMeta.pubkey_writable, AccountMeta.pubkey_sysvar] at hk
    simp only [params, Params.tag, keyAt_eq, hk]
    rfl

/-- Parsing accepts an instruction exactly if it is one of the system program, with the payload of
the parameters and accounts that fit them. -/
theorem parse_eq_ok_iff :
    ix.parse = .ok p ↔
      ix.programId = .key systemProgram ∧ Payload.decode ix.data = .ok (p.tag, p.payload) ∧
        p.Fits ix.keys := by
  rw [parse_eq_ok_iff_checks]
  constructor
  · intro h
    obtain ⟨hp, tag, fs, hd, hc, hs, h⟩ := h
    obtain ⟨_, hf, _⟩ := Payload.decode_eq_ok_iff.1 hd
    obtain ⟨rfl, rfl, hk⟩ := fits_of_params hf hc hs h
    exact ⟨hp, hd, hk⟩
  · intro h
    obtain ⟨hp, hd, hk⟩ := h
    obtain ⟨_, hf, _⟩ := Payload.decode_eq_ok_iff.1 hd
    have hc := length_keys ix ▸ length_of_fits hk
    exact ⟨hp, p.tag, p.payload, hd, hc, sysvars_of_fits hk, params_of_fits hf hk⟩

end Instruction

end SystemProgram
