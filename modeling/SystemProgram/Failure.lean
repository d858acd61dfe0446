import SystemProgram.Layout
import SystemProgram.Value.Shown

namespace SystemProgram

inductive ErrorCategory where
  | success
  | validation
  | instruction
  | address
  | internal
deriving DecidableEq, Repr

inductive ErrorCode where
  | success
  | invalidFormat
  | invalidPublicKey
  | invalidSeed
  | trailingBytes
  | unknownInstruction
  | invalidProgramId
  | invalidAccounts
  | maxSeedLengthExceeded
  | illegalOwner
  | internalError
  | unknown
deriving DecidableEq, Repr

namespace ErrorCategory

def number : ErrorCategory → Nat
  | success => 0
  | validation => 1
  | instruction => 2
  | address => 3
  | internal => 0xFF

def name : ErrorCategory → String
  | success => "SUCCESS"
  | validation => "VALIDATION"
  | instruction => "INSTRUCTION"
  | address => "ADDRESS"
  | internal => "INTERNAL"

end ErrorCategory

namespace ErrorCode

def all : List ErrorCode :=
  [success, invalidFormat, invalidPublicKey, invalidSeed, trailingBytes, unknownInstruction,
   invalidProgramId, invalidAccounts, maxSeedLengthExceeded, illegalOwner, internalError, unknown]

def number : ErrorCode → Nat
  | success => 0
  | invalidFormat => 0x100
  | invalidPublicKey => 0x101
  | invalidSeed => 0x102
  | trailingBytes => 0x103
  | unknownInstruction => 0x200
  | invalidProgramId => 0x201
  | invalidAccounts => 0x202
  | maxSeedLengthExceeded => 0x300
  | illegalOwner => 0x301
  | internalError => 0xFF00
  | unknown => 0xFFFF

def name : ErrorCode → String
  | success => "SUCCESS"
  | invalidFormat => "INVALID_FORMAT"
  | invalidPublicKey => "INVALID_PUBLIC_KEY"
  | invalidSeed => "INVALID_SEED"
  | trailingBytes => "TRAILING_BYTES"
  | unknownInstruction => "UNKNOWN_INSTRUCTION"
  | invalidProgramId => "INVALID_PROGRAM_ID"
  | invalidAccounts => "INVALID_ACCOUNTS"
  | maxSeedLengthExceeded => "MAX_SEED_LENGTH_EXCEEDED"
  | illegalOwner => "ILLEGAL_OWNER"
  | internalError => "INTERNAL_ERROR"
  | unknown => "UNKNOWN"

def category : ErrorCode → ErrorCategory
  | success => .success
  | invalidFormat | invalidPublicKey | invalidSeed | trailingBytes => .validation
  | unknownInstruction | invalidProgramId | invalidAccounts => .instruction
  | maxSeedLengthExceeded | illegalOwner => .address
  | internalError | unknown => .internal

def ofName? (s : String) : Option ErrorCode :=
  all.find? fun c => c.name = s

def ofNumber? (n : Int) : Option ErrorCode :=
  all.find? fun c => (c.number : Int) = n

end ErrorCode

structure SpecError where
  code : ErrorCode
  message : Text
deriving DecidableEq, Repr

def SpecError.text (e : SpecError) : Text :=
  (e.code.name ++ "(0x" ++ String.ofList (Quoted.hexDigits 4 e.code.number) ++ "): " : String) ++
    e.message

/-- The attributes that record where an error arose. They may be set later on, nothing else may. -/
def SpecError.traceAttributes : List String :=
  ["__traceback__", "__context__", "__cause__"]

inductive Sysvar where
  | recentBlockhashes
  | rent
deriving DecidableEq, Repr

def Sysvar.label : Sysvar → String
  | recentBlockhashes => "recent blockhashes"
  | rent => "rent"

def Sysvar.key : Sysvar → PublicKey
  | recentBlockhashes => SystemProgram.recentBlockhashes
  | rent => SystemProgram.rent

/-- What can be wrong with data from outside. -/
inductive Fault where
  | endOfData (need offset left : Int)
  | trailingBytes (count : Int)
  | seedNotUtf8
  | unknownTag (n : Nat)
  | noBuilder (typeName : String)
  | foreignProgram (programId : Value)
  | accountCount (tag : Tag) (found : Nat)
  | notSysvar (expected : Sysvar) (found : Value)
  | baseMissing
  | baseMismatch
  | keyNotBytes
  | keySize (found : Nat)
  | notBase58 (text : Value)
  | seedTooLong (size limit : Nat)
  | illegalOwner
deriving Repr

namespace Fault

def code : Fault → ErrorCode
  | endOfData .. => .invalidFormat
  | trailingBytes _ => .trailingBytes
  | seedNotUtf8 => .invalidSeed
  | unknownTag _ | noBuilder _ => .unknownInstruction
  | foreignProgram _ => .invalidProgramId
  | accountCount .. | notSysvar .. | baseMissing | baseMismatch => .invalidAccounts
  | keyNotBytes | keySize _ | notBase58 _ => .invalidPublicKey
  | seedTooLong .. => .maxSeedLengthExceeded
  | illegalOwner => .illegalOwner

def message : Fault → Text
  | endOfData need offset left =>
    "unexpected end of data: need " ++ Integer.text need ++ " bytes at offset " ++
      Integer.text offset ++ ", have " ++ Integer.text left
  | trailingBytes count => Integer.text count ++ " trailing bytes after payload"
  | seedNotUtf8 => "seed is not valid UTF-8"
  | unknownTag n => "unknown instruction tag " ++ Integer.natText n
  | noBuilder typeName => "no builder for " ++ typeName
  | foreignProgram programId => "not a system instruction: " ++ programId.text
  | accountCount tag found =>
    tag.name ++ " expects " ++ " or ".intercalate (tag.accountCounts.map Integer.natText) ++
      " accounts, got " ++ Integer.natText found
  | notSysvar expected found =>
    "expected " ++ expected.label ++ " sysvar, got " ++ found.text
  | baseMissing => "base account missing"
  | baseMismatch => "base account does not match payload"
  | keyNotBytes => "public key must be bytes"
  | keySize found =>
    "public key must be " ++ Integer.natText SystemProgram.keySize ++ " bytes, got " ++
      Integer.natText found
  | notBase58 text => "invalid base58: " ++ text.shown
  | seedTooLong size limit =>
    "seed is " ++ Integer.natText size ++ " bytes, max " ++ Integer.natText limit
  | illegalOwner => "owner must not end with the PDA marker"

def toSpecError (f : Fault) : SpecError :=
  ⟨f.code, f.message⟩

end Fault

/-- What a caller of the encoder can have done wrong. -/
inductive Defect where
  | tooWide (v : Value) (size : Nat)
  | notKey (v : Value)
  | notText (v : Value)
  | noLayout (tag : Value)
  | fieldMismatch (tag : Tag) (given : List String)
  | unknownKind (kind : String)
deriving Repr

namespace Defect

def shownNames (names : List String) : String :=
  "[" ++ ", ".intercalate (names.map Quoted.text) ++ "]"

def message : Defect → String
  | tooWide v size => v.shown ++ " does not fit in " ++ Integer.natText size ++ " bytes"
  | notKey v => "expected PublicKey, got " ++ v.typeName
  | notText v => "expected str, got " ++ v.typeName
  | noLayout tag => "no layout registered for " ++ tag.shown
  | fieldMismatch tag given =>
    tag.name ++ " fields " ++ shownNames given ++ " do not match layout " ++
      shownNames tag.layout.names
  | unknownKind kind => "unhandled field kind " ++ Quoted.text kind

def isShowable : Defect → Bool
  | tooWide v _ | noLayout v => v.isShowable
  | _ => true

end Defect

inductive Failure where
  | fault (f : Fault)
  | defect (d : Defect)
  /-- A field, a name or an instruction that is not there. -/
  | missing (key : Text)
  /-- Something that is no kind of instruction parameters was given as such. -/
  | notParams (typeName : String)
  | wrongType
  | badValue
  | overflow
  | outOfRange
  | tooDeep
  | frozen
  | malformedJson
  | malformedYaml
  | noSuchFile
  | isDirectory
  | notUtf8
  /-- A text has surrogates in it and so no UTF-8 form. -/
  | notEncodable
deriving Repr

def Failure.text : Failure → Text
  | fault f => f.toSpecError.text
  | defect d => d.message
  | missing key => ("not found: " : Text) ++ key
  | notParams typeName => "no instruction parameters: " ++ typeName
  | wrongType => "a value has the wrong type"
  | badValue => "a value cannot be read"
  | overflow => "a number is not finite"
  | outOfRange => "an index is out of range"
  | tooDeep => "a value lies in itself"
  | frozen => "an error cannot be changed"
  | malformedJson => "malformed JSON"
  | malformedYaml => "malformed YAML"
  | noSuchFile => "no such file"
  | isDirectory => "a directory is no file"
  | notUtf8 => "a text is not valid UTF-8"
  | notEncodable => "a text has no UTF-8 form"

/-- A defect as it is reported. With a number in it that is too long to be written, all that is
reported is that there is such a number. -/
def Failure.ofDefect (d : Defect) : Failure :=
  if d.isShowable then .defect d else .badValue

abbrev Outcome := Except Failure

namespace Outcome

def ofOption {α : Type} (failure : Failure) : Option α → Outcome α
  | some a => .ok a
  | none => .error failure

@[simp] theorem ofOption_eq_ok_iff {α : Type} {failure : Failure} {o : Option α} {a : α} :
    ofOption failure o = .ok a ↔ o = some a := by
  cases o <;> simp [ofOption]

theorem bind_eq_ok_iff {α β : Type} {m : Outcome α} {f : α → Outcome β} {b : β} :
    (m >>= f) = .ok b ↔ ∃ a, m = .ok a ∧ f a = .ok b := by
  cases m with
  | ok a =>
    constructor
    · intro h
      exact ⟨a, rfl, h⟩
    · intro h
      obtain ⟨_, ha, h⟩ := h
      cases ha
      exact h
  | error e =>
    constructor
    · intro h
      cases h
    · intro h
      obtain ⟨_, ha, _⟩ := h
      cases ha

theorem forM_eq_ok_iff {α : Type} {l : List α} {f : α → Outcome PUnit} :
    l.forM f = .ok () ↔ ∀ a ∈ l, f a = .ok () := by
  induction l with
  | nil => exact ⟨fun _ => List.forall_mem_nil _, fun _ => rfl⟩
  | cons a l ih =>
    change (f a >>= fun _ => l.forM f) = _ ↔ _
    rw [bind_eq_ok_iff, List.forall_mem_cons, ih]
    constructor
    · intro h
      obtain ⟨_, ha, hl⟩ := h
      exact ⟨ha, hl⟩
    · intro h
      exact ⟨(), h.1, h.2⟩

end Outcome

/-- An error stays as it was reported; only the record of where it arose changes. -/
def SpecError.assign (e : SpecError) (attr : String) : Outcome SpecError :=
  if attr ∈ traceAttributes then .ok e else .error .frozen

end SystemProgram
