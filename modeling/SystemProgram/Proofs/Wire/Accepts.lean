import SystemProgram.Wire.Reader
import Mathlib.Tactic

namespace SystemProgram.Wire

namespace Reader

/-- The reader that has `before` behind it and `after` still to read. -/
def between (before after : Bytes) : Reader :=
  ⟨before ++ after, before.length⟩

theorem between_nil (bs : Bytes) : between [] bs = ⟨bs, 0⟩ := rfl

@[simp] theorem remaining_between (before after : Bytes) :
    (between before after).remaining = after.length := by
  simp [between, remaining]

end Reader

namespace Read

variable {α β : Type}

theorem run_bind (m : Read α) (f : α → Read β) (r : Reader) :
    (m >>= f).run r = match m.run r with
      | (.ok a, s) => (f a).run s
      | (.error e, s) => (.error e, s) := by
  change (match m.run r with | (x, s) => (ExceptT.bindCont f x : StateM Reader _) s) = _
  rcases m.run r with ⟨_ | _, _⟩ <;> rfl

theorem run_bind_eq_ok_iff {m : Read α} {f : α → Read β} {r t : Reader} {b : β} :
    (m >>= f).run r = (.ok b, t) ↔
      ∃ a s, m.run r = (.ok a, s) ∧ (f a).run s = (.ok b, t) := by
  rw [run_bind]
  rcases m.run r with ⟨e | a, s⟩
  · constructor
    · intro h
      cases h
    · intro h
      obtain ⟨_, _, ⟨⟩, _⟩ := h
  · constructor
    · exact fun h => ⟨a, s, rfl, h⟩
    · intro h
      obtain ⟨_, _, ⟨⟩, h⟩ := h
      exact h

theorem bytes_run (n : Nat) (before after : Bytes) :
    (Read.bytes n).run (.between before after) =
      if after.length < n then
        (.error (.fault (.endOfData n before.length after.length)), .between before after)
      else (.ok (after.take n), .between (before ++ after.take n) (after.drop n)) := by
  have hg : (get : Read Reader).run (.between before after) =
    (.ok (.between before after), .between before after) := rfl
  rw [Read.bytes, run_bind, hg]
  dsimp only
  rw [Reader.remaining_between]
  by_cases h : after.length < n
  · rw [if_pos h, if_pos (by omega)]
    rfl
  · have hn : n ≤ after.length := Nat.le_of_not_lt h
    have hs : (before ++ after).slice before.length (before.length + n) = after.take n := by
      rw [Bytes.slice_of_le (by omega) (by omega) (by simp; omega)]
      simp
    rw [if_neg h, if_neg (by omega)]
    change (Except.ok ((before ++ after).slice before.length (before.length + n)),
      (⟨before ++ after, (before.length : Int) + n⟩ : Reader)) = _
    rw [hs]
    simp [Reader.between, Nat.min_eq_left hn]

theorem finish_run (before after : Bytes) :
    finish.run (.between before after) =
      if after = [] then (.ok (), .between before after)
      else (.error (.fault (.trailingBytes after.length)), .between before after) := by
  have hr : remaining.run (.between before after) =
      (.ok (after.length : Int), .between before after) := by
    rw [← Reader.remaining_between before after]
    rfl
  rw [finish, run_bind, hr]
  cases after <;> rfl

/-- With any bytes before and behind, `m` gives `a` exactly if what is left begins with some `bs`
for which `R bs a`, and then takes just these bytes. -/
def Accepts (m : Read α) (R : Bytes → α → Prop) : Prop :=
  ∀ before after a s, m.run (.between before after) = (.ok a, s) ↔
    ∃ bs rest, R bs a ∧ after = bs ++ rest ∧ s = .between (before ++ bs) rest

theorem Accepts.congr {m : Read α} {R S : Bytes → α → Prop} (hm : m.Accepts R)
    (h : ∀ bs a, R bs a ↔ S bs a) : m.Accepts S := by
  have he : R = S := by
    funext bs a
    exact propext (h bs a)
  exact he ▸ hm

theorem accepts_pure (a : α) : Accepts (pure a) fun bs b => bs = [] ∧ b = a := by
  intro before after b s
  constructor
  · intro h
    cases h
    exact ⟨[], after, ⟨rfl, rfl⟩, rfl, by rw [List.append_nil]⟩
  · intro h
    obtain ⟨_, rest, ⟨rfl, rfl⟩, rfl, rfl⟩ := h
    rw [List.append_nil]
    rfl

theorem accepts_throw (e : Failure) : Accepts (throw e : Read α) fun _ _ => False := by
  intro before after b s
  constructor
  · intro h
    cases h
  · intro h
    obtain ⟨_, _, ⟨⟩, _⟩ := h

theorem Accepts.bind {m : Read α} {f : α → Read β} {R : Bytes → α → Prop}
    {S : α → Bytes → β → Prop} (hm : m.Accepts R) (hf : ∀ a, (f a).Accepts (S a)) :
    (m >>= f).Accepts fun bs b => ∃ a xs ys, R xs a ∧ S a ys b ∧ bs = xs ++ ys := by
  intro before after b t
  rw [run_bind_eq_ok_iff]
  constructor
  · intro h
    obtain ⟨a, s, hms, hfs⟩ := h
    obtain ⟨xs, rest, hR, rfl, rfl⟩ := (hm ..).1 hms
    obtain ⟨ys, rest, hS, rfl, rfl⟩ := (hf a ..).1 hfs
    exact ⟨xs ++ ys, rest, ⟨a, xs, ys, hR, hS, rfl⟩, by simp, by simp⟩
  · intro h
    obtain ⟨_, rest, ⟨a, xs, ys, hR, hS, rfl⟩, rfl, rfl⟩ := h
    refine ⟨a, .between (before ++ xs) (ys ++ rest), (hm ..).2 ?_, (hf a ..).2 ?_⟩
    · exact ⟨xs, ys ++ rest, hR, by simp, rfl⟩
    · exact ⟨ys, rest, hS, rfl, by simp⟩

/-- A value computed from what was read. -/
theorem Accepts.map {m : Read α} {R : Bytes → α → Prop} (hm : m.Accepts R) (f : α → β) :
    (m >>= fun a => pure (f a)).Accepts fun bs b => ∃ a, R bs a ∧ b = f a := by
  apply (hm.bind fun a => accepts_pure (f a)).congr
  intro bs b
  constructor
  · intro h
    obtain ⟨a, xs, _, hR, ⟨rfl, rfl⟩, rfl⟩ := h
    exact ⟨a, by simpa using hR, rfl⟩
  · intro h
    obtain ⟨a, hR, rfl⟩ := h
    exact ⟨a, bs, [], hR, ⟨rfl, rfl⟩, by simp⟩

theorem bytes_accepts (n : Nat) :
    (Read.bytes n).Accepts fun bs a => bs.length = n ∧ a = bs := by
  intro before after a s
  rw [bytes_run]
  constructor
  · intro h
    split at h
    · cases h
    · obtain ⟨rfl, rfl⟩ := Prod.mk.inj h |>.imp_left Except.ok.inj
      refine ⟨after.take n, after.drop n, ⟨?_, rfl⟩, ?_, rfl⟩
      · rw [List.length_take]
        omega
      · rw [List.take_append_drop]
  · intro h
    obtain ⟨bs, rest, ⟨rfl, rfl⟩, rfl, rfl⟩ := h
    rw [if_neg (by simp)]
    simp

end Read
end SystemProgram.Wire
