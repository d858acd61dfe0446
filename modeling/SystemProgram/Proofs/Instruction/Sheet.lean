import SystemProgram.Proofs.Instruction.RoundTrip

namespace SystemProgram

/-- What an account is: a parameter, by its name, or a system variable. -/
inductive Slot where
  | param (name : String)
  | sysvar (s : Sysvar)
deriving DecidableEq, Repr

structure AccountRow where
  slot : Slot
  isSigner : Bool
  isWritable : Bool
  /-- A parameter; if the slot has the same value, it is not listed. -/
  apartFrom : Option String := none
deriving DecidableEq, Repr

/-- A field of the payload, and the parameter that it is taken from. -/
structure FieldRow where
  param : String
  kind : FieldKind
deriving DecidableEq, Repr

structure Sheet where
  number : Nat
  accounts : List AccountRow
  fields : List FieldRow
deriving DecidableEq, Repr

def Tag.sheet : Tag → Sheet
  | .createAccount =>
    { number := 0
      accounts := [⟨.param "from_pubkey", true, true, none⟩,
        ⟨.param "new_account_pubkey", true, true, none⟩]
      fields := [⟨"lamports", .u64⟩, ⟨"space", .u64⟩, ⟨"owner", .pubkey⟩] }
  | .assign =>
    { number := 1
      accounts := [⟨.param "account_pubkey", true, true, none⟩]
      fields := [⟨"owner", .pubkey⟩] }
  | .transfer =>
    { number := 2
      accounts := [⟨.param "from_pubkey", true, true, none⟩,
        ⟨.param "to_pubkey", false, true, none⟩]
      fields := [⟨"lamports", .u64⟩] }
  | .createAccountWithSeed =>
    { number := 3
      accounts := [⟨.param "from_pubkey", true, true, none⟩,
        ⟨.param "new_account_pubkey", false, true, none⟩,
        ⟨.param "base", true, false, some "from_pubkey"⟩]
      fields := [⟨"base", .pubkey⟩, ⟨"seed", .string⟩, ⟨"lamports", .u64⟩, ⟨"space", .u64⟩,
        ⟨"owner", .pubkey⟩] }
  | .advanceNonceAccount =>
    { number := 4
      accounts := [⟨.param "nonce_pubkey", false, true, none⟩,
        ⟨.sysvar .recentBlockhashes, false, false, none⟩,
        ⟨.param "authorized_pubkey", true, false, none⟩]
      fields := [] }
  | .withdrawNonceAccount =>
    { number := 5
      accounts := [⟨.param "nonce_pubkey", false, true, none⟩,
        ⟨.param "to_pubkey", false, true, none⟩,
        ⟨.sysvar .recentBlockhashes, false, false, none⟩, ⟨.sysvar .rent, false, false, none⟩,
        ⟨.param "authorized_pubkey", true, false, none⟩]
      fields := [⟨"lamports", .u64⟩] }
  | .initializeNonceAccount =>
    { number := 6
      accounts := [⟨.param "nonce_pubkey", false, true, none⟩,
        ⟨.sysvar .recentBlockhashes, false, false, none⟩, ⟨.sysvar .rent, false, false, none⟩]
      fields := [⟨"authorized_pubkey", .pubkey⟩] }
  | .authorizeNonceAccount =>
    { number := 7
      accounts := [⟨.param "nonce_pubkey", false, true, none⟩,
        ⟨.param "authorized_pubkey", true, false, none⟩]
      fields := [⟨"new_authority", .pubkey⟩] }
  | .allocate =>
    { number := 8
      accounts := [⟨.param "account_pubkey", true, true, none⟩]
      fields := [⟨"space", .u64⟩] }
  | .allocateWithSeed =>
    { number := 9
      accounts := [⟨.param "account_pubkey", false, true, none⟩, ⟨.param "base", true, false, none⟩]
      fields := [⟨"base", .pubkey⟩, ⟨"seed", .string⟩, ⟨"space", .u64⟩, ⟨"owner", .pubkey⟩] }
  | .assignWithSeed =>
    { number := 10
      accounts := [⟨.param "account_pubkey", false, true, none⟩, ⟨.param "base", true, false, none⟩]
      fields := [⟨"base", .pubkey⟩, ⟨"seed", .string⟩, ⟨"owner", .pubkey⟩] }
  | .transferWithSeed =>
    { number := 11
      accounts := [⟨.param "from_pubkey", false, true, none⟩, ⟨.param "base", true, false, none⟩,
        ⟨.param "to_pubkey", false, true, none⟩]
      fields := [⟨"lamports", .u64⟩, ⟨"seed", .string⟩, ⟨"from_owner", .pubkey⟩] }

def Slot.value? (p : Params) : Slot → Option Value
  | .param name => p.fields.get? name
  | .sysvar s => some (.key s.key)

namespace AccountRow

def IsListed (p : Params) (r : AccountRow) : Prop :=
  ∀ other, r.apartFrom = some other → r.slot.value? p ≠ p.fields.get? other

structure Describes (p : Params) (r : AccountRow) (a : AccountMeta) : Prop where
  key : r.slot.value? p = some a.pubkey
  isSigner : a.isSigner = r.isSigner
  isWritable : a.isWritable = r.isWritable

/-- The accounts are those of the rows, one after the other, without rows that are not listed. -/
inductive Lists (p : Params) : List AccountRow → List AccountMeta → Prop where
  | nil : Lists p [] []
  | listed {r : AccountRow} {a : AccountMeta} {rs : List AccountRow} {as : List AccountMeta} :
    r.IsListed p → r.Describes p a → Lists p rs as → Lists p (r :: rs) (a :: as)
  | leftOut {r : AccountRow} {rs : List AccountRow} {as : List AccountMeta} :
    ¬r.IsListed p → Lists p rs as → Lists p (r :: rs) as

theorem Lists.always {p : Params} {r : AccountRow} {a : AccountMeta} {rs : List AccountRow}
    {as : List AccountMeta} (hr : r.apartFrom = none) (hd : r.Describes p a) (h : Lists p rs as) :
    Lists p (r :: rs) (a :: as) :=
  .listed (fun _ ho => nomatch hr.symm.trans ho) hd h

end AccountRow

/-- The bytes are the spellings of the rows' parameters, one after the other. -/
inductive FieldRow.Writes (p : Params) : List FieldRow → Bytes → Prop where
  | nil : Writes p [] []
  | cons {r : FieldRow} {rs : List FieldRow} {v : Value} {xs ys : Bytes} :
    p.fields.get? r.param = some v → r.kind.spelling v = some xs → Writes p rs ys →
    Writes p (r :: rs) (xs ++ ys)

open AccountRow FieldRow

namespace Params

variable {p : Params} {ix : Instruction}

/-- A base that pays is the only parameter that ever goes without its row. -/
theorem base_listed_iff {source newAccount seed lamports space owner : Value} {k : PublicKey} :
    (AccountRow.mk (.param "base") true false (some "from_pubkey")).IsListed
        (createAccountWithSeed source newAccount (.key k) seed lamports space owner) ↔
      source ≠ .key k := by
  constructor
  · intro h hs
    exact h "from_pubkey" rfl (congrArg some hs.symm)
  · intro h other ho hb
    obtain rfl := Option.some.inj ho
    exact h (Option.some.inj hb).symm

theorem accounts_listed {body : Bytes} (h : p.tag.layout.Spells p.payload body) :
    Lists p p.tag.sheet.accounts p.accounts := by
  cases p
  case createAccountWithSeed source newAccount base seed lamports space owner =>
    obtain ⟨k, rfl⟩ := h.isKey_head
    refine .always rfl ⟨rfl, rfl, rfl⟩ (.always rfl ⟨rfl, rfl, rfl⟩ ?_)
    by_cases hs : source = .key k
    · rw [if_pos (Value.key_same_iff.2 hs)]
      exact .leftOut (fun hl => base_listed_iff.1 hl hs) .nil
    · rw [if_neg (mt Value.key_same_iff.1 hs)]
      exact .listed (base_listed_iff.2 hs) ⟨rfl, rfl, rfl⟩ .nil
  all_goals
    repeat refine .always rfl ⟨rfl, rfl, rfl⟩ ?_
    exact .nil

theorem writes_of_spells {rows : List FieldRow} {l : Layout} {fs : Fields} {body : Bytes}
    (hr : List.Forall₂ (fun r f => p.fields.get? r.param = some f.2) rows fs)
    (hk : rows.map FieldRow.kind = l.map Prod.snd) (h : l.Spells fs body) :
    Writes p rows body := by
  induction hr generalizing l body with
  | nil =>
    obtain rfl := List.map_eq_nil_iff.1 hk.symm
    obtain ⟨_, rfl⟩ := h
    exact .nil
  | cons hv _ ih =>
    obtain - | ⟨field, l⟩ := l
    · cases hk
    · obtain ⟨hk₀, hk⟩ := List.cons.inj hk
      obtain ⟨v, gs, xs, ys, he, hx, hl, rfl⟩ := h
      obtain ⟨rfl, rfl⟩ := List.cons.inj he
      exact .cons hv (hk₀ ▸ hx) (ih hk hl)

theorem payload_written {body : Bytes} (h : p.tag.layout.Spells p.payload body) :
    Writes p p.tag.sheet.fields body := by
  cases p
  all_goals
    refine writes_of_spells ?_ rfl h
    repeat refine .cons rfl ?_
    exact .nil

theorem header_eq (t : Tag) : Payload.header t = Bytes.ofNatLE 4 t.sheet.number := by
  cases t <;> rfl

/-- What is built belongs to the system program, has the accounts of its table in their places, with
the flags that they have there, and carries the number of its table in four bytes and behind it the
fields of its table. -/
theorem build_keeps_to_sheet (h : p.build = .ok ix) :
    ix.programId = .key systemProgram ∧
      Lists p p.tag.sheet.accounts ix.accounts ∧
      ∃ body, Writes p p.tag.sheet.fields body ∧
        ix.data = Bytes.ofNatLE 4 p.tag.sheet.number ++ body := by
  obtain ⟨hp, ha, hd⟩ := build_eq_ok_iff.1 h
  obtain ⟨body, hs, hb⟩ := Payload.decode_eq_ok_iff.1 hd
  refine ⟨hp, ?_, body, payload_written hs, ?_⟩
  · rw [ha]
    exact accounts_listed hs
  · rw [hb, header_eq]

/-- A base that pays and receives, too, is listed like any other. -/
theorem build_keeps_to_sheet_same_accounts :
    let p := transferWithSeed (.key rent) (.key rent) (.key rent) (.key systemProgram) (.str "é")
      (.int 5)
    ∃ ix, p.build = .ok ix ∧ Lists p p.tag.sheet.accounts ix.accounts ∧ ix.accounts.length = 3 := by
  intro p
  have h := build_of_spells (p := p) (.cons rfl (.cons rfl (.cons rfl .nil)))
  exact ⟨_, h, (build_keeps_to_sheet h).2.1, rfl⟩

end Params
end SystemProgram
