import SystemProgram.Hash.Sha256
import SystemProgram.Key.Base58
import SystemProgram.Text.Hex
import SystemProgram.Text.Utf8

namespace SystemProgram

def keySize : Nat := 32

structure PublicKey where
  bytes : Bytes
  size_eq : bytes.length = keySize
deriving DecidableEq, Repr

namespace PublicKey

def ofBytes? (bs : Bytes) : Option PublicKey :=
  if h : bs.length = keySize then some ⟨bs, h⟩ else none

def toBase58 (k : PublicKey) : String :=
  String.ofList (Base58.encode k.bytes)

def allZero : PublicKey :=
  ⟨List.replicate keySize 0, by simp⟩

/-- The key with the given base-58 text, or zero bytes if the text names none. -/
def known (text : String) : PublicKey :=
  ((Base58.decode? text.toList).bind ofBytes?).getD allZero

@[ext] theorem ext {k l : PublicKey} (h : k.bytes = l.bytes) : k = l := by
  cases k; cases l; cases h; rfl

@[simp] theorem ofBytes?_bytes (k : PublicKey) : ofBytes? k.bytes = some k := by
  simp [ofBytes?, k.size_eq]

theorem bytes_of_ofBytes? {bs : Bytes} {k : PublicKey} (h : ofBytes? bs = some k) :
    k.bytes = bs := by
  unfold ofBytes? at h
  split at h
  · cases h; rfl
  · cases h

theorem ofBytes?_isSome_iff {bs : Bytes} : (ofBytes? bs).isSome ↔ bs.length = keySize := by
  unfold ofBytes?
  split <;> simp_all

end PublicKey

def systemProgramText : String := "11111111111111111111111111111111"
def recentBlockhashesText : String := "SysvarRecentB1ockHashes11111111111111111111"
def rentText : String := "SysvarRent111111111111111111111111111111111"

def systemProgram : PublicKey := .known systemProgramText

def recentBlockhashes : PublicKey := .known recentBlockhashesText

def rent : PublicKey := .known rentText

end SystemProgram
