import SystemProgram.Bytes

namespace SystemProgram.Utf8

def encode (s : String) : Bytes :=
  s.toUTF8.data.toList

def decode? (bs : Bytes) : Option String :=
  String.fromUTF8? ⟨bs.toArray⟩

def size (s : String) : Nat :=
  (encode s).length

theorem decode?_encode (s : String) : decode? (encode s) = some s := by
  have h : s.toByteArray.IsValidUTF8 := s.isValidUTF8
  simp [decode?, encode, String.fromUTF8?, String.toUTF8, h, String.fromUTF8]

theorem encode_of_decode? {bs : Bytes} {s : String} (h : decode? bs = some s) :
    encode s = bs := by
  unfold decode? String.fromUTF8? at h
  split at h
  · cases h
    rfl
  · cases h

theorem decode?_eq_some_iff {bs : Bytes} {s : String} : decode? bs = some s ↔ encode s = bs :=
  ⟨encode_of_decode?, fun h => h ▸ decode?_encode s⟩

theorem encode_injective {s t : String} (h : encode s = encode t) : s = t := by
  have := decode?_encode s
  rw [h, decode?_encode] at this
  exact (Option.some.inj this).symm

end SystemProgram.Utf8
