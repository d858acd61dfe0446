import SystemProgram.FileTree
import Mathlib.Data.List.DropRight

namespace SystemProgram

def Name.IsLegal (n : Name) : Prop :=
  n ≠ [] ∧ '/' ∉ n

namespace Path

variable {cs d path : List Char} {n : Name} {way way' : List Name}

theorem split_of_not_mem (h : '/' ∉ n) : split n = [n] := by
  induction n with
  | nil => rfl
  | cons c cs ih =>
    obtain ⟨hc, hcs⟩ := not_or.1 (mt List.mem_cons.2 h)
    rw [split, if_neg (Ne.symm hc), ih hcs]

theorem split_append_slash (cs path : List Char) :
    split (cs ++ '/' :: path) = split cs ++ split path := by
  induction cs with
  | nil => rfl
  | cons c cs ih =>
    rw [List.cons_append, split, split]
    by_cases hc : c = '/'
    · rw [if_pos hc, if_pos hc, ih, List.cons_append]
    · rw [if_neg hc, if_neg hc, ih]
      obtain ⟨m, ms, hm⟩ := List.exists_cons_of_ne_nil (split_ne_nil cs)
      rw [hm]
      rfl

theorem split_append_slashes (cs : List Char) (k : Nat) :
    split (cs ++ List.replicate k '/') = split cs ++ List.replicate k [] := by
  induction k with
  | zero => simp
  | succ k ih =>
    rw [List.replicate_succ', ← List.append_assoc, split_append_slash, ih, List.replicate_succ',
      List.append_assoc]
    rfl

/-- The parts, each with a slash behind it. -/
theorem flatMap_split (cs : List Char) : (split cs).flatMap (· ++ ['/']) = cs ++ ['/'] := by
  induction cs with
  | nil => rfl
  | cons c cs ih =>
    rw [split]
    by_cases hc : c = '/'
    · rw [if_pos hc, List.flatMap_cons, ih, hc]
      rfl
    · rw [if_neg hc]
      obtain ⟨m, ms, hm⟩ := List.exists_cons_of_ne_nil (split_ne_nil cs)
      rw [hm] at ih ⊢
      rw [List.cons_append, ← ih]
      rfl

theorem mem_of_mem_split {c : Char} (hn : n ∈ split cs) (hc : c ∈ n) : c ∈ cs := by
  have hm : c ∈ (split cs).flatMap (· ++ ['/']) :=
    List.mem_flatMap.2 ⟨n, hn, List.mem_append_left _ hc⟩
  rw [flatMap_split] at hm
  rcases List.mem_append.1 hm with h | h
  · exact h
  · rw [List.mem_singleton.1 h] at hc
    exact absurd hc (not_mem_of_mem_split hn)

theorem join_singleton (n : Name) : join [n] = n := by
  simp [join]

theorem join_cons (n : Name) (hw : way ≠ []) : join (n :: way) = n ++ '/' :: join way := by
  rw [join, List.intercalate_cons_of_ne_nil hw, List.append_assoc]
  rfl

theorem split_join (hw : way ≠ []) (h : ∀ n ∈ way, '/' ∉ n) : split (join way) = way := by
  induction way with
  | nil => exact absurd rfl hw
  | cons n way ih =>
    obtain ⟨hn, h⟩ := List.forall_mem_cons.1 h
    by_cases hw : way = []
    · subst hw
      rw [join_singleton]
      exact split_of_not_mem hn
    · rw [join_cons n hw, split_append_slash, split_of_not_mem hn, ih hw h]
      rfl

theorem join_concat (hw : way ≠ []) (n : Name) : join (way ++ [n]) = join way ++ '/' :: n := by
  induction way with
  | nil => exact absurd rfl hw
  | cons m way ih =>
    rw [List.cons_append, join_cons m (by simp)]
    by_cases hw : way = []
    · subst hw
      rw [List.nil_append, join_singleton, join_singleton]
    · rw [ih hw, join_cons m hw, List.append_assoc]
      rfl

theorem join_ne_nil (hw : way ≠ []) (h : ∀ n ∈ way, n.IsLegal) : join way ≠ [] := by
  intro hj
  have hs : split (join way) = way := split_join hw fun n hn => (h n hn).2
  rw [hj] at hs
  subst hs
  exact (h [] (.head _)).1 rfl

/-- Names that are put together neither begin nor end with a slash. -/
theorem head?_join (h : ∀ n ∈ way, n.IsLegal) : (join way).head? ≠ some '/' := by
  cases way with
  | nil => nofun
  | cons n way =>
    obtain ⟨hn, hs⟩ := h n (.head _)
    have he : (join (n :: way)).head? = n.head? := by
      by_cases hw : way = []
      · rw [hw, join_singleton]
      · rw [join_cons n hw, List.head?_append_of_ne_nil n hn]
    rw [he]
    exact fun hc => hs (List.mem_of_head? hc)

theorem getLast?_join (h : ∀ n ∈ way, n.IsLegal) : (join way).getLast? ≠ some '/' := by
  rcases List.eq_nil_or_concat' way with rfl | ⟨way, n, rfl⟩
  · nofun
  · obtain ⟨hn, hs⟩ := h n (by simp)
    have he : (join (way ++ [n])).getLast? = n.getLast? := by
      by_cases hw : way = []
      · rw [hw, List.nil_append, join_singleton]
      · rw [join_concat hw, List.getLast?_append_cons, List.getLast?_cons_of_ne_nil hn]
    rw [he]
    exact fun hc => hs (List.mem_of_getLast? hc)

/-- The path of a directory as it stands before a name. -/
def opened (d : List Char) : List Char :=
  if d = [] ∨ d.getLast? = some '/' then d else d ++ ['/']

theorem append_eq (h : path.head? ≠ some '/') (d : List Char) :
    append d path = opened d ++ path := by
  rw [append, if_neg h, opened]
  split
  · rfl
  · rw [List.append_assoc]
    rfl

theorem opened_of_ne_nil (hd : d ≠ []) (hl : d.getLast? ≠ some '/') : opened d = d ++ ['/'] :=
  if_neg (not_or.2 ⟨hd, hl⟩)

theorem opened_opened (d : List Char) : opened (opened d) = opened d := by
  rw [opened]
  apply if_pos
  rw [opened]
  split
  · assumption
  · simp

/-- Names below a directory are put behind its path one by one or all at once. -/
theorem append_append_join (hn : n.IsLegal) (hw : ∀ m ∈ way, m.IsLegal) (d : List Char) :
    append (append d (join way)) n = append d (join (way ++ [n])) := by
  have hs {n : Name} (hn : n.IsLegal) : n.head? ≠ some '/' := fun h => hn.2 (List.mem_of_head? h)
  have hall : ∀ m ∈ way ++ [n], m.IsLegal :=
    List.forall_mem_append.2 ⟨hw, List.forall_mem_singleton.2 hn⟩
  rw [append_eq (hs hn), append_eq (head?_join hw), append_eq (head?_join hall)]
  by_cases hne : way = []
  · subst hne
    change opened (opened d ++ []) ++ n = _
    rw [List.append_nil, opened_opened, List.nil_append, join_singleton]
  · have hj : join way ≠ [] := join_ne_nil hne hw
    have hl : (opened d ++ join way).getLast? ≠ some '/' := by
      rw [List.getLast?_append_of_ne_nil _ hj]
      exact getLast?_join hw
    rw [opened_of_ne_nil (List.append_ne_nil_of_right_ne_nil _ hj) hl, join_concat hne]
    simp

theorem append_join_injective (hw : ∀ n ∈ way, n.IsLegal) (hw' : ∀ n ∈ way', n.IsLegal)
    (hn : way ≠ []) (hn' : way' ≠ []) (h : append d (join way) = append d (join way')) :
    way = way' := by
  rw [append_eq (head?_join hw), append_eq (head?_join hw')] at h
  rw [← split_join hn fun n hm => (hw n hm).2, ← split_join hn' fun n hm => (hw' n hm).2,
    List.append_cancel_left h]

/-- The path of a directory stands in front of what lies in it with parts of its own. -/
theorem exists_split_opened (d path : List Char) :
    ∃ parts, split (opened d ++ path) = parts ++ split path ∧
      parts.flatMap (· ++ ['/']) = opened d ∧ ∀ n ∈ parts, ∀ c ∈ n, c ∈ d := by
  by_cases hd : d = []
  · exact ⟨[], by rw [hd]; rfl, by rw [hd]; rfl, List.forall_mem_nil _⟩
  · have hb : ∃ b, opened d = b ++ ['/'] ∧ ∀ c ∈ b, c ∈ d := by
      by_cases hl : d.getLast? = some '/'
      · obtain ⟨b, rfl⟩ := List.getLast?_eq_some_iff.1 hl
        exact ⟨b, if_pos (.inr hl), fun c hc => List.mem_append_left _ hc⟩
      · exact ⟨d, opened_of_ne_nil hd hl, fun _ => id⟩
    obtain ⟨b, ho, hb⟩ := hb
    refine ⟨split b, ?_, ?_, fun n hn c hc => hb c (mem_of_mem_split hn hc)⟩
    · rw [ho, List.append_assoc, List.singleton_append, split_append_slash]
    · rw [ho, flatMap_split]

theorem dropSlashes_of_all (h : d.all (· = '/') = true) : dropSlashes d = d :=
  if_pos h

theorem dropSlashes_eq (h : d.all (· = '/') = false) : dropSlashes d = d.rdropWhile (· = '/') := by
  rw [dropSlashes, h]
  rfl

/-- Nothing but slashes is dropped. -/
theorem exists_dropSlashes (d : List Char) : ∃ k, d = dropSlashes d ++ List.replicate k '/' := by
  cases h : d.all (· = '/') with
  | true => exact ⟨0, by rw [dropSlashes_of_all h]; simp⟩
  | false =>
    have hr : ∀ c ∈ d.rtakeWhile (· = '/'), c = '/' := by
      intro c hc
      simpa using List.mem_rtakeWhile_imp hc
    refine ⟨(d.rtakeWhile (· = '/')).length, ?_⟩
    rw [dropSlashes_eq h, ← List.eq_replicate_of_mem hr, List.rdropWhile_append_rtakeWhile]

/-- A path that is more than slashes keeps its beginning. -/
theorem head?_dropSlashes (d : List Char) : (dropSlashes d).head? = d.head? := by
  cases h : d.all (· = '/') with
  | true => rw [dropSlashes_of_all h]
  | false =>
    obtain ⟨k, hk⟩ := exists_dropSlashes d
    have hn : dropSlashes d ≠ [] := by
      intro hn
      rw [hn, List.nil_append] at hk
      rw [hk] at h
      simp at h
    rw [hk, List.head?_append_of_ne_nil _ hn, ← hk]

theorem dropSlashes_opened (d : List Char) : dropSlashes (opened d) = dropSlashes d := by
  rw [opened]
  split
  · rfl
  · next hd =>
    obtain ⟨hn, hl⟩ := not_or.1 hd
    have h : d.all (· = '/') = false := by
      rw [Bool.eq_false_iff]
      intro h
      rw [List.getLast?_eq_some_getLast hn] at hl
      exact hl (congrArg some (of_decide_eq_true (List.all_eq_true.1 h _ (List.getLast_mem hn))))
    have h' : (d ++ ['/']).all (· = '/') = false := by
      rw [List.all_append, h]
      rfl
    rw [dropSlashes_eq h', dropSlashes_eq h, List.rdropWhile_concat_pos _ _ _ (by rfl)]

end Path
end SystemProgram
