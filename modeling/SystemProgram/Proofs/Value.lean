import SystemProgram.Value
import Mathlib.Tactic

namespace SystemProgram

namespace Binary64

open Integer (signed)

theorem signed_eq_zero_iff {negative : Bool} {n : Nat} : signed negative n = 0 ↔ n = 0 := by
  cases negative <;> simp [signed]

/-- A double that is an integer is zero just if the integer is. -/
theorem isZero_of_isInt {x : Binary64} {i : Int} (h : x.isInt i = true) :
    x.isZero = decide (i = 0) := by
  unfold isInt at h
  unfold isZero
  cases hx : x.parts with
  | finite negative m q =>
    rw [hx] at h
    have hm : m = 0 ↔ i = 0 := by
      dsimp only at h
      split at h
      · rw [decide_eq_true_iff] at h
        rw [← h, signed_eq_zero_iff, Nat.shiftLeft_eq]
        simp
      · obtain ⟨hd, h⟩ := Bool.and_eq_true_iff.1 h
        rw [decide_eq_true_iff, Nat.shiftLeft_eq, Nat.one_mul] at hd
        rw [decide_eq_true_iff] at h
        rw [← h, signed_eq_zero_iff, Nat.shiftRight_eq_div_pow]
        constructor
        · intro hm
          rw [hm, Nat.zero_div]
        · intro hq
          rw [← Nat.div_add_mod m (2 ^ (-q).toNat), hq, hd]
          simp
    exact decide_eq_decide.2 hm
  | _ =>
    rw [hx] at h
    cases h

end Binary64

namespace Value

-- Opened case by case; their equations are found once, here, and not anew in each proof.
attribute [local simp] same sameLeaf

theorem key_same_iff {k : PublicKey} {v : Value} : (key k).same v = true ↔ v = key k := by
  cases v with
  | key l => simpa using eq_comm
  | _ => simp

theorem same_key_iff {v : Value} {k : PublicKey} : v.same (key k) = true ↔ v = key k := by
  cases v <;> simp

theorem str_same_iff {s : String} {v : Value} : (str s).same v = true ↔ v = str s := by
  cases v with
  | str t => simpa using eq_comm
  | _ => simp

theorem int_same_int_iff {i j : Int} : (int i).same (int j) = true ↔ i = j := by
  simp

theorem bool_same_self (b : Bool) : (bool b).same (bool b) = true := by
  simp

/-- What equals a truth value, be it a number, counts as that truth value. -/
theorem isTrue_of_bool_same {b : Bool} {v : Value} (h : (bool b).same v = true) :
    v.isTrue = b := by
  cases v with
  | bool c =>
    have hc : b = c := by simpa using h
    exact hc.symm
  | int i =>
    have hi : b.toInt = i := by simpa using h
    rw [isTrue, ← hi]
    cases b <;> rfl
  | float x =>
    have hx : x.isInt b.toInt = true := by simpa using h
    rw [isTrue, Binary64.isZero_of_isInt hx]
    cases b <;> rfl
  | _ => simp at h

theorem broken_same_iff {t : BrokenText} {v : Value} :
    (broken t).same v = true ↔ v = broken t := by
  cases v with
  | broken u => simpa using eq_comm
  | _ => simp

/-- Keys, integers and texts. No two of them are equal by content without being the same. -/
def IsExact : Value → Prop
  | key _ | int _ | str _ | broken _ => True
  | _ => False

theorem IsExact.same_iff {v w : Value} (hv : v.IsExact) (hw : w.IsExact) :
    v.same w = true ↔ v = w := by
  cases v with
  | key k => rw [key_same_iff, eq_comm]
  | str s => rw [str_same_iff, eq_comm]
  | broken t => rw [broken_same_iff, eq_comm]
  | int i =>
    cases w with
    | int j => rw [int_same_int_iff, int.injEq]
    | key l => simp
    | str t => simp
    | broken t => simp
    | _ => cases hw
  | _ => cases hv

theorem IsExact.same_self {v : Value} (h : v.IsExact) : v.same v = true :=
  (h.same_iff h).2 rfl

theorem list_same_iff {xs : List Value} {v : Value} :
    (list xs).same v = true ↔ ∃ ys, v = list ys ∧ sameAll xs ys = true := by
  cases v <;> simp

theorem map_same_iff {es : List (Value × Value)} {v : Value} :
    (map es).same v = true ↔
      ∃ fs, v = map fs ∧ es.length = fs.length ∧ entriesAmong es fs = true := by
  cases v <;> simp

theorem sameAll_iff {vs ws : List Value} :
    sameAll vs ws = true ↔ List.Forall₂ (fun v w => v.same w = true) vs ws := by
  induction vs generalizing ws with
  | nil => cases ws <;> simp [sameAll]
  | cons v vs ih => cases ws <;> simp [sameAll, ih]

theorem entriesAmong_iff {es fs : List (Value × Value)} :
    entriesAmong es fs = true ↔
      ∀ e ∈ es, ∃ f ∈ fs, e.1.same f.1 = true ∧ e.2.same f.2 = true := by
  induction es with
  | nil => simp [entriesAmong]
  | cons e es ih =>
    rw [entriesAmong, Bool.and_eq_true, ih, List.forall_mem_cons, List.any_eq_true]
    simp only [Bool.and_eq_true]

variable {es : List (Value × Value)} {fields : List (String × Value)} {name : String}
  {k v w : Value}

theorem find?_cons_of_ne (h : k ≠ str name) : find? name ((k, v) :: es) = find? name es := by
  cases k with
  | str s =>
    have hs : s ≠ name := fun hs => h (hs ▸ rfl)
    rw [find?_str_cons, if_neg hs]
  | _ => rfl

theorem find?_eq_some_of_mem (hd : (es.map Prod.fst).Nodup) (h : (str name, v) ∈ es) :
    find? name es = some v := by
  induction es with
  | nil => cases h
  | cons e es ih =>
    obtain ⟨k, w⟩ := e
    obtain ⟨hk, hd⟩ := List.nodup_cons.1 hd
    rcases List.mem_cons.1 h with he | h
    · cases he
      rw [find?_str_cons, if_pos rfl]
    · have hm : str name ∈ es.map Prod.fst := List.mem_map_of_mem h
      have hn : k ≠ str name := fun he => hk (he ▸ hm)
      rw [find?_cons_of_ne hn]
      exact ih hd h

theorem nodup_keys (hd : (fields.map Prod.fst).Nodup) :
    ((fields.map Prod.fst).map str).Nodup :=
  hd.map fun _ _ => str.inj

theorem find?_record_of_mem (hd : (fields.map Prod.fst).Nodup) (h : (name, v) ∈ fields) :
    find? name (fields.map fun f => (str f.1, f.2)) = some v := by
  refine find?_eq_some_of_mem ?_ (List.mem_map_of_mem h)
  have hn := nodup_keys hd
  rw [List.map_map] at hn ⊢
  exact hn

/-- What equals a record has a field of equal content under each of its names. -/
theorem record_same (hd : (fields.map Prod.fst).Nodup) (h : (record fields).same w = true) :
    ∃ es, w = map es ∧ ∀ f ∈ fields, ∃ v, find? f.1 es = some v ∧ f.2.same v = true := by
  obtain ⟨es, rfl, hl, he⟩ := map_same_iff.1 h
  rw [entriesAmong_iff, List.forall_mem_map] at he
  have he : ∀ f ∈ fields, ∃ v, (str f.1, v) ∈ es ∧ f.2.same v = true := by
    intro f hf
    obtain ⟨⟨k, v⟩, hm, hk, hv⟩ := he f hf
    exact ⟨v, str_same_iff.1 hk ▸ hm, hv⟩
  -- There are no more keys than names, and each name is a key, so no key comes twice.
  have hn := nodup_keys hd
  have hsub : (fields.map Prod.fst).map str ⊆ es.map Prod.fst := by
    intro k hk
    obtain ⟨_, hn, rfl⟩ := List.mem_map.1 hk
    obtain ⟨f, hf, rfl⟩ := List.mem_map.1 hn
    obtain ⟨v, hv, _⟩ := he f hf
    exact List.mem_map_of_mem hv
  have hp : ((fields.map Prod.fst).map str).Perm (es.map Prod.fst) := by
    apply (List.subperm_of_subset hn hsub).perm_of_length_le
    simp only [List.length_map] at hl ⊢
    exact hl.ge
  refine ⟨es, rfl, fun f hf => ?_⟩
  obtain ⟨v, hm, hv⟩ := he f hf
  exact ⟨v, find?_eq_some_of_mem (hp.nodup hn) hm, hv⟩

theorem record_same_self (h : ∀ f ∈ fields, f.2.same f.2 = true) :
    (record fields).same (record fields) = true := by
  refine map_same_iff.2 ⟨_, rfl, rfl, entriesAmong_iff.2 fun e he => ⟨e, he, ?_⟩⟩
  obtain ⟨f, hf, rfl⟩ := List.mem_map.1 he
  exact ⟨str_same_iff.2 rfl, h f hf⟩

end Value
end SystemProgram
