import SystemProgram.Proofs.FileTree.Tree
import SystemProgram.Proofs.FileTree.Wildcard
import Mathlib.Data.List.Flatten
import Mathlib.Data.List.Nodup

namespace SystemProgram

theorem nodup_eraseDups {α : Type} [BEq α] [LawfulBEq α] (xs : List α) : xs.eraseDups.Nodup := by
  match xs with
  | [] => exact List.nodup_nil
  | x :: xs =>
    rw [List.eraseDups_cons, List.nodup_cons]
    refine ⟨fun hm => ?_, nodup_eraseDups _⟩
    simp at hm
termination_by xs.length
decreasing_by exact Nat.lt_succ_of_le (List.length_filter_le _ _)

namespace FileTree

variable {t : FileTree} {place way : List Name} {n : Name} {d ending : List Char}

/-- The ways below a place that a search for names with some ending goes. -/
def waysTo (t : FileTree) (place : List Name) (ending : List Char) : List (List Name) :=
  ([] :: (t.directoriesBelow place).filter fun way => !way.any isHidden).flatMap fun way =>
    ((t.list (place ++ way) false).filter fun n => !isHidden n && ending.isSuffixOf n).map
      (way ++ [·])

theorem mem_waysTo_iff (h : t.IsTree) {ending : List Char} :
    way ∈ t.waysTo place ending ↔ ∃ w n, way = w ++ [n] ∧ t.Holds (place ++ way) ∧
      (∀ m ∈ way, isHidden m = false) ∧ ending <:+ n := by
  simp only [waysTo, List.mem_flatMap, List.mem_map, List.mem_filter, List.mem_cons,
    mem_directoriesBelow_iff, mem_list_iff h, Bool.and_eq_true, Bool.not_eq_true',
    List.isSuffixOf_iff_suffix, List.any_eq_false]
  constructor
  · rintro ⟨w, hw, n, ⟨hh, hn, he⟩, rfl⟩
    refine ⟨w, n, rfl, by rwa [← List.append_assoc], ?_, he⟩
    refine List.forall_mem_append.2 ⟨?_, List.forall_mem_singleton.2 hn⟩
    rcases hw with rfl | ⟨_, hv⟩
    · exact List.forall_mem_nil _
    · exact fun m hm => Bool.eq_false_iff.2 (hv m hm)
  · rintro ⟨w, n, rfl, hh, hv, he⟩
    obtain ⟨hw, hn⟩ := List.forall_mem_append.1 hv
    rw [← List.append_assoc] at hh
    have hd : t.isDirectory (place ++ w) = true := hh.isDirectory h (List.cons_ne_nil _ _)
    refine ⟨w, ?_, n, ⟨hh, hn n (.head _), he⟩, rfl⟩
    by_cases h0 : w = []
    · exact .inl h0
    · exact .inr ⟨⟨h0, hd⟩, fun m hm => Bool.eq_false_iff.1 (hw m hm)⟩

theorem nodup_waysTo (t : FileTree) (place : List Name) (ending : List Char) :
    (t.waysTo place ending).Nodup := by
  have hdirs : ([] :: (t.directoriesBelow place).filter fun way => !way.any isHidden).Nodup := by
    refine List.nodup_cons.2 ⟨fun hm => ?_, (nodup_eraseDups _).filter _⟩
    exact (mem_directoriesBelow_iff.1 (List.mem_filter.1 hm).1).1 rfl
  refine List.nodup_flatMap.2 ⟨fun w _ => ?_, hdirs.imp fun hne => ?_⟩
  · exact ((nodup_eraseDups _).filter _).map fun m n h => by simpa using h
  · intro x hx hy
    obtain ⟨m, _, rfl⟩ := List.mem_map.1 hx
    obtain ⟨n, _, h⟩ := List.mem_map.1 hy
    exact hne (List.append_inj' h rfl).1.symm

variable {ending : List Char}

theorem splitPattern_eq (hd : Wildcard.IsPlain d) (he : '/' ∉ ending) :
    splitPattern (Path.append (Path.append d anyDirectories) ('*' :: ending)) =
      (Path.dropSlashes d, [anyDirectories, '*' :: ending]) := by
  have hp : Path.append (Path.append d anyDirectories) ('*' :: ending) =
      Path.opened d ++ (anyDirectories ++ '/' :: '*' :: ending) := by
    rw [Path.append_eq (by simp) (Path.append _ _), Path.append_eq (by simp [anyDirectories]),
      Path.opened_of_ne_nil (by simp [anyDirectories]) (by simp [anyDirectories])]
    simp
  obtain ⟨parts, hs, hf, hm⟩ := Path.exists_split_opened d (anyDirectories ++ '/' :: '*' :: ending)
  have hq : Path.split (anyDirectories ++ '/' :: '*' :: ending) =
      [anyDirectories, '*' :: ending] := by
    rw [Path.split_append_slash, Path.split_of_not_mem (by decide),
      Path.split_of_not_mem (by simp [he])]
    rfl
  have hplain : ∀ n ∈ parts, (!Wildcard.isPattern n) = true := by
    intro n hn
    rw [Wildcard.isPlain_of_subset hd (hm n hn)]
    rfl
  rw [splitPattern, hp, hs, hq, List.span_eq_takeWhile_dropWhile,
    List.takeWhile_append_of_pos hplain, List.dropWhile_append_of_pos hplain]
  change (Path.dropSlashes ((parts ++ []).flatMap (· ++ ['/'])), _) = _
  rw [List.append_nil, hf, Path.dropSlashes_opened]
  rfl

theorem fitting_anyDirectories (hl : t.locateDirectory d = some place) :
    t.fitting true anyDirectories d =
      ([] :: (t.directoriesBelow place).filter fun way => !way.any isHidden).map Path.join := by
  rw [fitting, if_pos rfl, hl]
  rfl

theorem fitting_star (hl : t.locateDirectory d = some place) (he : Wildcard.IsPlain ending) :
    t.fitting false ('*' :: ending) d =
      (t.list place false).filter fun n => !isHidden n && ending.isSuffixOf n := by
  have hne : '*' :: ending ≠ anyDirectories := by
    intro h
    rw [(List.cons.inj h).2] at he
    cases he
  have hp : Wildcard.isPattern ('*' :: ending) = true := rfl
  rw [fitting, if_neg hne, if_pos hp, hl]
  refine List.filter_congr fun n _ => ?_
  have hm : Wildcard.matchAll (Wildcard.parse ('*' :: ending)) n = ending.isSuffixOf n := by
    rw [Bool.eq_iff_iff, Wildcard.matchAll_star_iff he, List.isSuffixOf_iff_suffix]
  rw [hm]
  rfl

/-- The pattern of all names with an ending below a directory finds what the ways lead to. -/
theorem search_eq (h : t.IsTree) (hl : t.locateDirectory d = some place) (hd : Wildcard.IsPlain d)
    (he : Wildcard.IsPlain ending) (hs : '/' ∉ ending) :
    t.search (Path.append (Path.append d anyDirectories) ('*' :: ending)) =
      (t.waysTo place ending).map fun way => Path.append (Path.dropSlashes d) (Path.join way) := by
  have hD := locateDirectory_dropSlashes hl
  rw [search, splitPattern_eq hd hs]
  generalize Path.dropSlashes d = d at hD
  change ([d].flatMap (t.advance true anyDirectories)).flatMap (t.advance false ('*' :: ending)) = _
  rw [List.flatMap_singleton, advance, fitting_anyDirectories hD, List.map_map, List.flatMap_map,
    waysTo, List.map_flatMap]
  refine List.flatMap_congr fun w hw => ?_
  obtain ⟨hdir, hv⟩ : t.isDirectory (place ++ w) = true ∧ ∀ m ∈ w, isHidden m = false := by
    rcases List.mem_cons.1 hw with rfl | hw
    · rw [List.append_nil]
      exact ⟨(locateDirectory_eq_some_iff.1 hl).2, List.forall_mem_nil _⟩
    · obtain ⟨hw, hv⟩ := List.mem_filter.1 hw
      exact ⟨(mem_directoriesBelow_iff.1 hw).2, by simpa using hv⟩
  have hw : ∀ m ∈ w, m.IsLegal :=
    fun m hm => h.legal _ (.inr hdir) m (List.mem_append_right _ hm)
  rw [Function.comp_apply, advance, fitting_star (locateDirectory_append h hD hdir hv) he,
    List.map_map]
  refine List.map_congr_left fun n hn => ?_
  have hn : t.Holds (place ++ w ++ [n]) := (mem_list_iff h).1 (List.mem_filter.1 hn).1
  exact Path.append_append_join (h.legal _ hn n (by simp)) hw d

end FileTree
end SystemProgram
