import SystemProgram.Proofs.FileTree.Search
import SystemProgram.Fixture.File

namespace SystemProgram.Fixture

open FileTree

variable {t : FileTree} {place way : List Name} {dir : String} {paths : List String}

/-- The way leads past nothing hidden to a name with the ending of a fixture file. -/
def IsFixtureWay (way : List Name) : Prop :=
  (∀ n ∈ way, isHidden n = false) ∧
    ∃ w n, way = w ++ [n] ∧ ∃ extension ∈ extensions, extension.toList <:+ n

def pathOf (dir : String) (way : List Name) : String :=
  String.ofList (Path.append (Path.dropSlashes dir.toList) (Path.join way))

def fixtureWays (t : FileTree) (place : List Name) : List (List Name) :=
  extensions.flatMap fun extension => t.waysTo place extension.toList

theorem mem_fixtureWays_iff (h : t.IsTree) :
    way ∈ fixtureWays t place ↔ IsFixtureWay way ∧ t.Holds (place ++ way) := by
  simp only [fixtureWays, List.mem_flatMap, mem_waysTo_iff h, IsFixtureWay]
  constructor
  · intro hw
    obtain ⟨extension, he, w, n, rfl, hh, hv, hs⟩ := hw
    exact ⟨⟨hv, w, n, rfl, extension, he, hs⟩, hh⟩
  · intro hw
    obtain ⟨⟨hv, w, n, rfl, extension, he, hs⟩, hh⟩ := hw
    exact ⟨extension, he, w, n, rfl, hh, hv, hs⟩

/-- No name has the endings of two kinds of files. -/
theorem nodup_fixtureWays (h : t.IsTree) : (fixtureWays t place).Nodup := by
  have hp : extensions.Pairwise fun a b => ¬a.toList <:+ b.toList ∧ ¬b.toList <:+ a.toList := by
    decide
  refine List.nodup_flatMap.2 ⟨fun _ _ => nodup_waysTo .., hp.imp fun hab => ?_⟩
  intro way ha hb
  obtain ⟨w, m, hm, _, _, ha⟩ := (mem_waysTo_iff h).1 ha
  obtain ⟨w', n, hn, _, _, hb⟩ := (mem_waysTo_iff h).1 hb
  obtain rfl := List.cons.inj (List.append_inj' (hm.symm.trans hn) rfl).2 |>.1
  exact (List.suffix_or_suffix_of_suffix ha hb).elim hab.1 hab.2

theorem findFiles_eq (h : t.IsTree) (hl : t.locateDirectory dir.toList = some place)
    (hd : Wildcard.IsPlain dir.toList) (h0 : '\x00' ∉ dir.toList) :
    findFiles t dir =
      .ok (((fixtureWays t place).map (pathOf dir)).mergeSort fun a b => decide (a ≤ b)) := by
  have hn : '\x00' ∉ (splitPattern (pattern dir.toList "")).1 := by
    rw [pattern, splitPattern_eq hd (by simp)]
    obtain ⟨k, hk⟩ := Path.exists_dropSlashes dir.toList
    intro hm
    exact h0 (hk ▸ List.mem_append_left _ hm)
  have he : ∀ extension ∈ extensions,
      Wildcard.IsPlain extension.toList ∧ '/' ∉ extension.toList := by
    decide
  have hf : (extensions.flatMap fun extension => t.search (pattern dir.toList extension)) =
      (fixtureWays t place).map fun way =>
        Path.append (Path.dropSlashes dir.toList) (Path.join way) := by
    rw [fixtureWays, List.map_flatMap]
    exact List.flatMap_congr fun extension hm =>
      search_eq h hl hd (he extension hm).1 (he extension hm).2
  rw [findFiles, if_neg hn, hf]
  dsimp only
  rw [List.map_map]
  rfl

/-- Texts without duplicates, once sorted, increase. -/
theorem pairwise_lt_mergeSort {xs : List String} (h : xs.Nodup) :
    (xs.mergeSort fun a b => decide (a ≤ b)).Pairwise (· < ·) := by
  have hs : (xs.mergeSort fun a b => decide (a ≤ b)).Pairwise fun a b => decide (a ≤ b) :=
    List.pairwise_mergeSort (by simpa using fun a b c => String.le_trans)
      (by simpa using String.le_total) xs
  have hn : (xs.mergeSort fun a b => decide (a ≤ b)).Nodup :=
    (List.mergeSort_perm ..).nodup_iff.2 h
  refine hs.imp₂ (fun a b hab hne => ?_) hn
  exact String.not_le.1 fun hba => hne (String.le_antisymm (of_decide_eq_true hab) hba)

theorem pathOf_injective (h : t.IsTree) {way' : List Name}
    (hw : way ∈ fixtureWays t place) (hw' : way' ∈ fixtureWays t place)
    (he : pathOf dir way = pathOf dir way') : way = way' := by
  have hl {way : List Name} (hw : way ∈ fixtureWays t place) :
      (∀ n ∈ way, n.IsLegal) ∧ way ≠ [] := by
    obtain ⟨⟨_, w, n, hn, _⟩, hh⟩ := (mem_fixtureWays_iff h).1 hw
    refine ⟨fun n hm => h.legal _ hh n (List.mem_append_right _ hm), ?_⟩
    simp [hn]
  exact Path.append_join_injective (hl hw).1 (hl hw').1 (hl hw).2 (hl hw').2
    (String.ofList_injective he)

/-- Below a directory whose path has no wildcards, the paths that are found are in order, without
duplicates, and those of all files and directories that have the ending of a fixture file, except
where something on the way from the directory is hidden. So they are the paths of just the files
exactly if no directory has such a name. Slashes at the end of the path are dropped. -/
theorem findFiles_below (h : t.IsTree) (hl : t.locateDirectory dir.toList = some place)
    (hd : Wildcard.IsPlain dir.toList) (h0 : '\x00' ∉ dir.toList) :
    ∃ paths, findFiles t dir = .ok paths ∧ paths.Pairwise (· < ·) ∧
      (∀ path, path ∈ paths ↔
        ∃ way, IsFixtureWay way ∧ t.Holds (place ++ way) ∧ path = pathOf dir way) ∧
      ((∀ path, path ∈ paths ↔
          ∃ way, IsFixtureWay way ∧ t.isFile (place ++ way) = true ∧ path = pathOf dir way) ↔
        ∀ way, IsFixtureWay way → t.isDirectory (place ++ way) = false) := by
  have hm : ∀ path, path ∈ (((fixtureWays t place).map (pathOf dir)).mergeSort
      fun a b => decide (a ≤ b)) ↔
        ∃ way, IsFixtureWay way ∧ t.Holds (place ++ way) ∧ path = pathOf dir way := by
    intro path
    rw [List.mem_mergeSort, List.mem_map]
    simp only [mem_fixtureWays_iff h, and_assoc, eq_comm]
  refine ⟨_, findFiles_eq h hl hd h0, ?_, hm, ?_⟩
  · exact pairwise_lt_mergeSort ((nodup_fixtureWays h).map_on fun _ hw _ hw' =>
      pathOf_injective h hw hw')
  · simp only [hm]
    constructor
    · intro hp way hw
      by_contra hd
      have hh : t.Holds (place ++ way) := .inr (by simpa using hd)
      obtain ⟨way', hw', hf, he⟩ := (hp _).1 ⟨way, hw, hh, rfl⟩
      obtain rfl := pathOf_injective h ((mem_fixtureWays_iff h).2 ⟨hw, hh⟩)
        ((mem_fixtureWays_iff h).2 ⟨hw', .inl hf⟩) he
      exact hd (h.apart _ hf)
    · intro hn path
      refine exists_congr fun way => and_congr_right fun hw => and_congr_left fun _ => ?_
      simp [Holds, hn way hw]

/-- The directory `s.json` is found like the file in it; what is hidden is not. -/
theorem findFiles_below_mixed :
    let files := [("d/b.yml", []), ("d/.h/x.json", []), ("d/s.json/a.yaml", []), ("d/n.txt", [])]
    ∃ paths, findFiles (.ofFiles files) "d/" = .ok paths ∧ paths.Pairwise (· < ·) ∧
      "d/b.yml" ∈ paths ∧ "d/s.json" ∈ paths ∧ "d/s.json/a.yaml" ∈ paths ∧
      ¬∀ path, path ∈ paths ↔ ∃ way, IsFixtureWay way ∧
        (FileTree.ofFiles files).isFile (["d".toList] ++ way) = true ∧ path = pathOf "d/" way := by
  intro files
  have ht : (FileTree.ofFiles files).IsTree :=
    isTree_ofFiles (by simp) (by decide) (by decide) (by decide) (by decide)
  have hl : (FileTree.ofFiles files).locateDirectory "d/".toList = some ["d".toList] := by decide
  obtain ⟨paths, hf, hp, hm, hd⟩ := findFiles_below ht hl (by decide) (by decide)
  have hw (way : List Name) (hv : ∀ n ∈ way, isHidden n = false)
      (he : ∃ w n, way = w ++ [n] ∧ ∃ extension ∈ extensions, extension.toList <:+ n)
      (hh : (FileTree.ofFiles files).Holds (["d".toList] ++ way)) : pathOf "d/" way ∈ paths :=
    (hm _).2 ⟨way, ⟨hv, he⟩, hh, rfl⟩
  refine ⟨paths, hf, hp, ?_, ?_, ?_, fun h => ?_⟩
  · exact hw ["b.yml".toList] (by decide) ⟨[], _, rfl, ".yml", by decide, by decide⟩
      (.inl (by decide))
  · exact hw ["s.json".toList] (by decide) ⟨[], _, rfl, ".json", by decide, by decide⟩
      (.inr (by decide))
  · exact hw ["s.json".toList, "a.yaml".toList] (by decide)
      ⟨["s.json".toList], _, rfl, ".yaml", by decide, by decide⟩ (.inl (by decide))
  · have hn := hd.1 h ["s.json".toList]
      ⟨by decide, [], _, rfl, ".json", by decide, by decide⟩
    exact absurd hn (by decide)

/-- A directory whose name is a pattern is not searched; others that fit the pattern are. -/
theorem findFiles_of_brackets :
    ¬∀ t dir place, IsTree t → t.locateDirectory dir.toList = some place → '\x00' ∉ dir.toList →
      ∃ paths, findFiles t dir = .ok paths ∧ ∀ path, path ∈ paths ↔
        ∃ way, IsFixtureWay way ∧ t.isFile (place ++ way) = true ∧
          path = String.ofList (Path.append dir.toList (Path.join way)) := by
  intro h
  let files : List (String × Bytes) := [("f[1]/a.json", []), ("f1/b.json", [])]
  have hf : (findFiles (.ofFiles files) "f[1]").toOption = some ["f1/b.json"] := by
    decide +kernel
  have ht : (FileTree.ofFiles files).IsTree :=
    isTree_ofFiles (by simp) (by decide) (by decide) (by decide) (by decide)
  obtain ⟨paths, hp, hm⟩ := h _ "f[1]" ["f[1]".toList] ht (by decide) (by decide)
  have ha : "f[1]/a.json" ∈ paths :=
    (hm _).2 ⟨["a.json".toList], ⟨by decide, [], _, rfl, ".json", by decide, by decide⟩,
      by decide, rfl⟩
  rw [hp] at hf
  obtain rfl := Option.some.inj hf
  exact absurd ha (by decide)

end SystemProgram.Fixture
