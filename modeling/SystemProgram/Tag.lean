namespace SystemProgram

inductive Tag where
  | createAccount
  | assign
  | transfer
  | createAccountWithSeed
  | advanceNonceAccount
  | withdrawNonceAccount
  | initializeNonceAccount
  | authorizeNonceAccount
  | allocate
  | allocateWithSeed
  | assignWithSeed
  | transferWithSeed
deriving DecidableEq, Repr

namespace Tag

def all : List Tag :=
  [createAccount, assign, transfer, createAccountWithSeed, advanceNonceAccount,
   withdrawNonceAccount, initializeNonceAccount, authorizeNonceAccount, allocate,
   allocateWithSeed, assignWithSeed, transferWithSeed]

def number : Tag → Nat
  | createAccount => 0
  | assign => 1
  | transfer => 2
  | createAccountWithSeed => 3
  | advanceNonceAccount => 4
  | withdrawNonceAccount => 5
  | initializeNonceAccount => 6
  | authorizeNonceAccount => 7
  | allocate => 8
  | allocateWithSeed => 9
  | assignWithSeed => 10
  | transferWithSeed => 11

def name : Tag → String
  | createAccount => "CREATE_ACCOUNT"
  | assign => "ASSIGN"
  | transfer => "TRANSFER"
  | createAccountWithSeed => "CREATE_ACCOUNT_WITH_SEED"
  | advanceNonceAccount => "ADVANCE_NONCE_ACCOUNT"
  | withdrawNonceAccount => "WITHDRAW_NONCE_ACCOUNT"
  | initializeNonceAccount => "INITIALIZE_NONCE_ACCOUNT"
  | authorizeNonceAccount => "AUTHORIZE_NONCE_ACCOUNT"
  | allocate => "ALLOCATE"
  | allocateWithSeed => "ALLOCATE_WITH_SEED"
  | assignWithSeed => "ASSIGN_WITH_SEED"
  | transferWithSeed => "TRANSFER_WITH_SEED"

def lowerName (t : Tag) : String :=
  String.ofList (t.name.toList.map Char.toLower)

def ofNumber? (n : Nat) : Option Tag :=
  all.find? fun t => t.number = n

def ofName? (s : String) : Option Tag :=
  all.find? fun t => t.name = s

@[simp] theorem ofNumber?_number (t : Tag) : ofNumber? t.number = some t := by
  cases t <;> decide

theorem number_of_ofNumber? {n : Nat} {t : Tag} (h : ofNumber? n = some t) : t.number = n := by
  simpa using List.find?_some h

theorem ofNumber?_eq_none_iff {n : Nat} : ofNumber? n = none ↔ 11 < n := by
  constructor
  · intro h
    have h : ∀ t ∈ all, t.number ≠ n := by simpa [ofNumber?] using h
    by_cases hn : 11 < n
    · exact hn
    · have : ∀ m, m ≤ 11 → ∃ t ∈ all, t.number = m := by decide
      obtain ⟨t, ht, e⟩ := this n (by omega)
      exact absurd e (h t ht)
  · intro h
    have : ∀ t ∈ all, t.number ≤ 11 := by decide
    simp only [ofNumber?, List.find?_eq_none, decide_eq_true_eq]
    intro t ht e
    have := this t ht
    omega

end Tag
end SystemProgram
