import SystemProgram.Proofs.FileTree.Path
import SystemProgram.FileTree.Search

namespace SystemProgram.FileTree

variable {t : FileTree} {place way : List Name} {n : Name}

def Holds (t : FileTree) (place : List Name) : Prop :=
  t.isFile place = true ∨ t.isDirectory place = true

/-- All names can be names, a folder lies in directories only, and no file is a directory. -/
structure IsTree (t : FileTree) : Prop where
  legal : ∀ place, t.Holds place → ∀ n ∈ place, n.IsLegal
  closed : ∀ place ∈ t.folders, ∀ p, p <+: place → t.isDirectory p = true
  apart : ∀ place, t.isFile place = true → t.isDirectory place = false

theorem wayBelow_eq_some_iff {p : List Name} : wayBelow place p = some way ↔ p = place ++ way := by
  induction place generalizing p with
  | nil => simp [wayBelow]
  | cons n place ih =>
    cases p with
    | nil => simp [wayBelow]
    | cons m p =>
      rw [wayBelow]
      split
      · next h => simp [h, ih]
      · next h => simp [Ne.symm h]

theorem isFile_iff : t.isFile place = true ↔ ∃ f ∈ t.files, f.1 = place := by
  simp [isFile]

theorem mem_below_iff : way ∈ t.below place ↔ way ≠ [] ∧ t.isFile (place ++ way) = true := by
  simp [below, isFile_iff, wayBelow_eq_some_iff, and_comm]

theorem mem_foldersBelow_iff :
    way ∈ t.foldersBelow place ↔ way ≠ [] ∧ place ++ way ∈ t.folders := by
  simp [foldersBelow, wayBelow_eq_some_iff, and_comm]

theorem isDirectory_iff :
    t.isDirectory place = true ↔
      place = [] ∨ place ∈ t.folders ∨ ∃ way, way ≠ [] ∧ t.isFile (place ++ way) = true := by
  have hb : t.below place ≠ [] ↔ ∃ way, way ≠ [] ∧ t.isFile (place ++ way) = true := by
    simp only [← mem_below_iff]
    exact ⟨List.exists_mem_of_ne_nil _, fun ⟨_, h⟩ => List.ne_nil_of_mem h⟩
  rw [← hb]
  simp [isDirectory, or_assoc]

theorem isDirectory_of_prefix (h : t.IsTree) (hd : t.isDirectory (place ++ way) = true) :
    t.isDirectory place = true := by
  rcases isDirectory_iff.1 hd with h0 | hf | ⟨w, _, hf⟩
  · exact isDirectory_iff.2 (.inl (List.append_eq_nil_iff.1 h0).1)
  · exact h.closed _ hf _ (List.prefix_append ..)
  · by_cases hw : way ++ w = []
    · rwa [(List.append_eq_nil_iff.1 hw).1, List.append_nil] at hd
    · exact isDirectory_iff.2 (.inr (.inr ⟨way ++ w, hw, List.append_assoc .. ▸ hf⟩))

/-- What is there lies in directories. -/
theorem Holds.isDirectory (h : t.IsTree) (hn : way ≠ []) (hh : t.Holds (place ++ way)) :
    t.isDirectory place = true := by
  rcases hh with hf | hd
  · exact isDirectory_iff.2 (.inr (.inr ⟨way, hn, hf⟩))
  · exact isDirectory_of_prefix h hd

section OfFiles

variable {path cwd : List Name} {text : List Char} {content : Bytes}
  {files : List (String × Bytes)}

theorem foldl_enter (h : ['.', '.'] ∉ path) : path.foldl enter place = place ++ path := by
  induction path generalizing place with
  | nil => simp
  | cons n path ih =>
    obtain ⟨hn, h⟩ := not_or.1 (mt List.mem_cons.2 h)
    rw [List.foldl_cons, ih h, enter, if_neg (Ne.symm hn), List.append_assoc]
    rfl

theorem mem_trail_iff (h : ['.', '.'] ∉ path) {p : List Name} :
    p ∈ trail place path ↔ ∃ way, way <+: path ∧ p = place ++ way := by
  induction path generalizing place with
  | nil => simp [trail]
  | cons n path ih =>
    obtain ⟨hn, h⟩ := not_or.1 (mt List.mem_cons.2 h)
    rw [trail, List.mem_cons, enter, if_neg (Ne.symm hn), ih h]
    constructor
    · rintro (rfl | ⟨way, hw, rfl⟩)
      · exact ⟨[], List.nil_prefix, (List.append_nil _).symm⟩
      · exact ⟨n :: way, List.cons_prefix_cons.2 ⟨rfl, hw⟩, by simp⟩
    · rintro ⟨_ | ⟨m, way⟩, hw, rfl⟩
      · exact .inl (List.append_nil _)
      · obtain ⟨rfl, hp⟩ := List.cons_prefix_cons.1 hw
        exact .inr ⟨way, hp, by simp⟩

/-- The place of a path that does not lead back. -/
def fullPath (cwd : List Name) (text : List Char) : List Name :=
  (if text.head? = some '/' then [] else cwd) ++ Path.names text

theorem foldl_enter_origin (h : ['.', '.'] ∉ Path.names text) :
    (Path.names text).foldl enter (t.origin text) = fullPath t.cwd text :=
  foldl_enter h

/-- A path without detours leads through nothing but what the file lies in. -/
theorem folders_insert (h : ['.', '.'] ∉ Path.names text) :
    (t.insert text content).folders = t.folders := by
  have hf : ((trail (t.origin text) (Path.names text)).filter
      fun p => (wayBelow p (fullPath t.cwd text)).isNone) = [] := by
    refine List.filter_eq_nil_iff.2 fun p hp => ?_
    obtain ⟨way, ⟨rest, hw⟩, rfl⟩ := (mem_trail_iff h).1 hp
    have hb : wayBelow (t.origin text ++ way) (fullPath t.cwd text) = some rest := by
      rw [wayBelow_eq_some_iff, List.append_assoc, hw]
      rfl
    simp [hb]
  rw [insert, foldl_enter_origin h]
  dsimp only
  rw [hf, List.append_nil]

theorem isFile_insert (h : ['.', '.'] ∉ Path.names text)
    (hf : (t.insert text content).isFile place = true) :
    place = fullPath t.cwd text ∨ t.isFile place = true := by
  obtain ⟨f, hm, rfl⟩ := isFile_iff.1 hf
  rw [insert, foldl_enter_origin h] at hm
  rcases List.mem_append.1 hm with hm | hm
  · exact .inr (isFile_iff.2 ⟨f, (List.mem_filter.1 hm).1, rfl⟩)
  · exact .inl (congrArg Prod.fst (List.mem_singleton.1 hm))

theorem ofFiles_of_no_detour (cwd : List Name)
    (h : ∀ f ∈ files, ['.', '.'] ∉ Path.names f.1.toList) :
    (ofFiles files cwd).cwd = cwd ∧ (ofFiles files cwd).folders = trail [] cwd ∧
      ∀ place, (ofFiles files cwd).isFile place = true →
        ∃ f ∈ files, place = fullPath cwd f.1.toList := by
  induction files using List.reverseRecOn with
  | nil => exact ⟨rfl, rfl, fun _ hf => by cases hf⟩
  | append_singleton files f ih =>
    obtain ⟨h, hf⟩ := List.forall_mem_append.1 h
    have hd := List.forall_mem_singleton.1 hf
    obtain ⟨hc, hfolders, hfiles⟩ := ih h
    have hi : ofFiles (files ++ [f]) cwd = (ofFiles files cwd).insert f.1.toList f.2 := by
      rw [ofFiles, List.foldl_append]
      rfl
    rw [hi]
    refine ⟨hc, by rw [folders_insert hd, hfolders], fun place hp => ?_⟩
    rcases isFile_insert hd hp with rfl | hp
    · exact ⟨f, by simp, by rw [hc]⟩
    · obtain ⟨g, hg, he⟩ := hfiles place hp
      exact ⟨g, List.mem_append_left _ hg, he⟩

theorem isLegal_of_mem_fullPath (hc : ∀ n ∈ cwd, n.IsLegal) (hn : n ∈ fullPath cwd text) :
    n.IsLegal := by
  rcases List.mem_append.1 hn with hn | hn
  · split at hn
    · cases hn
    · exact hc n hn
  · obtain ⟨hm, h0⟩ := List.mem_filter.1 hn
    exact ⟨(of_decide_eq_true h0).1, Path.not_mem_of_mem_split hm⟩

/-- Files make a tree if no path leads back, through another file or to where the working directory
lies. -/
theorem isTree_ofFiles (hc : ∀ n ∈ cwd, n.IsLegal) (hb : ['.', '.'] ∉ cwd)
    (hd : ∀ f ∈ files, ['.', '.'] ∉ Path.names f.1.toList)
    (hn : ∀ f ∈ files, ¬fullPath cwd f.1.toList <+: cwd)
    (hp : ∀ f ∈ files, ∀ g ∈ files, fullPath cwd f.1.toList <+: fullPath cwd g.1.toList →
      fullPath cwd f.1.toList = fullPath cwd g.1.toList) :
    (ofFiles files cwd).IsTree := by
  obtain ⟨_, hfolders, hfiles⟩ := ofFiles_of_no_detour cwd hd
  have hfolder : ∀ {place}, place ∈ (ofFiles files cwd).folders ↔ place <+: cwd := by
    intro place
    rw [hfolders, mem_trail_iff hb]
    simp
  have hl : ∀ place, (ofFiles files cwd).isFile place = true → ∀ n ∈ place, n.IsLegal := by
    intro place hf n hm
    obtain ⟨f, _, rfl⟩ := hfiles place hf
    exact isLegal_of_mem_fullPath hc hm
  refine ⟨fun place hh n hm => ?_, fun place hf p hq => ?_, fun place hf => ?_⟩
  · rcases hh with hf | hd
    · exact hl place hf n hm
    · rcases isDirectory_iff.1 hd with rfl | hf | ⟨way, _, hf⟩
      · cases hm
      · exact hc n ((hfolder.1 hf).subset hm)
      · exact hl _ hf n (List.mem_append_left _ hm)
  · exact isDirectory_iff.2 (.inr (.inl (hfolder.2 (hq.trans (hfolder.1 hf)))))
  · rw [Bool.eq_false_iff]
    intro hdir
    obtain ⟨f, hm, rfl⟩ := hfiles place hf
    rcases isDirectory_iff.1 hdir with h0 | hfo | ⟨way, hw, hg⟩
    · exact hn f hm (h0 ▸ List.nil_prefix)
    · exact hn f hm (hfolder.1 hfo)
    · obtain ⟨g, hg, he⟩ := hfiles _ hg
      have hq := hp f hm g hg ⟨way, he⟩
      rw [← he] at hq
      exact hw (List.self_eq_append_right.1 hq)

end OfFiles

theorem mem_directoriesOn_iff {w : List Name} :
    w ∈ directoriesOn way ↔ w ≠ [] ∧ ∃ rest, rest ≠ [] ∧ way = w ++ rest := by
  induction way generalizing w with
  | nil => simp [directoriesOn]
  | cons n way ih =>
    cases way with
    | nil => cases w <;> simp [directoriesOn]
    | cons m way =>
      have hd : directoriesOn (n :: m :: way) =
          [n] :: (directoriesOn (m :: way)).map (n :: ·) := rfl
      rw [hd, List.mem_cons, List.mem_map]
      cases w with
      | nil => simp
      | cons k w =>
        simp only [ih, List.cons.injEq, List.cons_append]
        constructor
        · rintro (⟨rfl, rfl⟩ | ⟨_, ⟨_, rest, hr, hw⟩, rfl, rfl⟩)
          · exact ⟨List.cons_ne_nil _ _, m :: way, List.cons_ne_nil _ _, rfl, rfl⟩
          · exact ⟨List.cons_ne_nil _ _, rest, hr, rfl, hw⟩
        · rintro ⟨_, rest, hr, rfl, hw⟩
          by_cases h0 : w = []
          · exact .inl ⟨rfl, h0⟩
          · exact .inr ⟨w, ⟨h0, rest, hr, hw⟩, rfl, rfl⟩

theorem mem_directoriesBelow_iff :
    way ∈ t.directoriesBelow place ↔ way ≠ [] ∧ t.isDirectory (place ++ way) = true := by
  simp only [directoriesBelow, List.mem_eraseDups, List.mem_append, List.mem_flatMap,
    mem_foldersBelow_iff, mem_below_iff, mem_directoriesOn_iff, isDirectory_iff]
  constructor
  · rintro (⟨_, ⟨_, hf⟩, hw, rest, hr, rfl⟩ | ⟨hw, hf⟩)
    · exact ⟨hw, .inr (.inr ⟨rest, hr, List.append_assoc .. ▸ hf⟩)⟩
    · exact ⟨hw, .inr (.inl hf)⟩
  · rintro ⟨hw, h0 | hf | ⟨rest, hr, hf⟩⟩
    · exact absurd (List.append_eq_nil_iff.1 h0).2 hw
    · exact .inr ⟨hw, hf⟩
    · exact .inl ⟨way ++ rest, ⟨by simp [hw], List.append_assoc .. ▸ hf⟩, hw, rest, hr, rfl⟩

theorem mem_list_iff (h : t.IsTree) : n ∈ t.list place false ↔ t.Holds (place ++ [n]) := by
  have hl : n ∈ t.list place false ↔
      ∃ rest, t.isFile (place ++ n :: rest) = true ∨ place ++ n :: rest ∈ t.folders := by
    simp only [list, List.mem_eraseDups, List.mem_filterMap, List.mem_append, List.mem_filter,
      mem_below_iff, mem_foldersBelow_iff, List.head?_eq_some_iff]
    constructor
    · rintro ⟨_, ⟨⟨_, hf⟩, _⟩ | ⟨_, hf⟩, rest, rfl⟩
      · exact ⟨rest, .inl hf⟩
      · exact ⟨rest, .inr hf⟩
    · rintro ⟨rest, hf | hf⟩
      · exact ⟨n :: rest, .inl ⟨⟨List.cons_ne_nil _ _, hf⟩, rfl⟩, rest, rfl⟩
      · exact ⟨n :: rest, .inr ⟨List.cons_ne_nil _ _, hf⟩, rest, rfl⟩
  rw [hl]
  constructor
  · rintro ⟨rest, hf | hf⟩
    · by_cases hr : rest = []
      · exact .inl (hr ▸ hf)
      · exact .inr (isDirectory_iff.2 (.inr (.inr ⟨rest, hr, by simpa using hf⟩)))
    · exact .inr (h.closed _ hf _ ⟨rest, by simp⟩)
  · rintro (hf | hd)
    · exact ⟨[], .inl hf⟩
    · rcases isDirectory_iff.1 hd with h0 | hf | ⟨rest, _, hf⟩
      · simp at h0
      · exact ⟨[], .inr hf⟩
      · exact ⟨rest, .inl (by simpa using hf)⟩

theorem follow_nil (hd : t.isDirectory place = true) : t.follow place [] = some place := by
  simp [follow, hd]

theorem follow_of_isLegal (hd : t.isDirectory place = true) (hn : n.IsLegal)
    (hv : isHidden n = false) : t.follow place n = some (place ++ [n]) := by
  have h₁ : n ≠ ['.'] := by
    rintro rfl
    cases hv
  have h₂ : n ≠ ['.', '.'] := by
    rintro rfl
    cases hv
  simp [follow, enter, hd, hn.1, h₁, h₂]

theorem foldlM_follow (h : t.IsTree) (hd : t.isDirectory (place ++ way) = true)
    (hv : ∀ n ∈ way, isHidden n = false) : way.foldlM t.follow place = some (place ++ way) := by
  induction way generalizing place with
  | nil => simp
  | cons n way ih =>
    obtain ⟨hn, hv⟩ := List.forall_mem_cons.1 hv
    have hp : t.isDirectory place = true := isDirectory_of_prefix h hd
    have hl : n.IsLegal := h.legal _ (.inr hd) n (by simp)
    have ha : place ++ n :: way = place ++ [n] ++ way := by simp
    rw [List.foldlM_cons, follow_of_isLegal hp hl hn, ha]
    exact ih (ha ▸ hd) hv

/-- The text of the way leads where the way leads. -/
theorem foldlM_split_join (h : t.IsTree) (hd : t.isDirectory (place ++ way) = true)
    (hv : ∀ n ∈ way, isHidden n = false) :
    (Path.split (Path.join way)).foldlM t.follow place = some (place ++ way) := by
  by_cases hw : way = []
  · subst hw
    rw [List.append_nil] at hd ⊢
    change (t.follow place [] >>= some) = _
    rw [follow_nil hd]
    rfl
  · have hl : ∀ n ∈ way, '/' ∉ n := fun n hn =>
      (h.legal _ (.inr hd) n (List.mem_append_right _ hn)).2
    rw [Path.split_join hw hl, foldlM_follow h hd hv]

variable {d : List Char}

theorem locateDirectory_eq_some_iff :
    t.locateDirectory d = some place ↔
      (Path.split d).foldlM t.follow (t.origin d) = some place ∧ t.isDirectory place = true := by
  rw [locateDirectory, locate]
  simp only [Option.filter_eq_some_iff]
  constructor
  · intro h
    exact ⟨h.1.1, h.2⟩
  · intro h
    exact ⟨⟨h.1, by simp [h.2]⟩, h.2⟩

/-- An empty part of a path leads nowhere else. -/
theorem eq_of_follow_nil {place' : List Name} (h : t.follow place [] = some place') :
    place' = place := by
  unfold follow at h
  split at h
  · cases h
  · simpa using h.symm

theorem foldlM_follow_replicate {k : Nat} {place' : List Name}
    (h : (List.replicate k []).foldlM t.follow place = some place') : place' = place := by
  induction k with
  | zero => exact (Option.some.inj h).symm
  | succ k ih =>
    rw [List.replicate_succ, List.foldlM_cons] at h
    obtain ⟨p, hp, h⟩ := Option.bind_eq_some_iff.1 h
    exact ih (eq_of_follow_nil hp ▸ h)

/-- Slashes at the end of a path make no difference. -/
theorem locateDirectory_dropSlashes (h : t.locateDirectory d = some place) :
    t.locateDirectory (Path.dropSlashes d) = some place := by
  obtain ⟨hf, hd⟩ := locateDirectory_eq_some_iff.1 h
  obtain ⟨k, hk⟩ := Path.exists_dropSlashes d
  have ho : t.origin (Path.dropSlashes d) = t.origin d := by
    rw [origin, origin, Path.head?_dropSlashes]
  rw [hk, Path.split_append_slashes, List.foldlM_append, ← hk] at hf
  obtain ⟨p, hp, hf⟩ := Option.bind_eq_some_iff.1 hf
  obtain rfl := foldlM_follow_replicate hf
  exact locateDirectory_eq_some_iff.2 ⟨ho ▸ hp, hd⟩

theorem origin_opened_append {path : List Char} (h : path.head? ≠ some '/') (d : List Char) :
    t.origin (Path.opened d ++ path) = t.origin d := by
  have hh : (Path.opened d ++ path).head? = some '/' ↔ d.head? = some '/' := by
    by_cases hn : d = []
    · subst hn
      simp [Path.opened, h]
    · rw [Path.opened]
      split
      · rw [List.head?_append_of_ne_nil _ hn]
      · rw [List.append_assoc, List.head?_append_of_ne_nil _ hn]
  simp only [origin, hh]

/-- From the path of a directory, what follows leads on. The empty path is that of the working
directory, and adds no slash. -/
theorem foldlM_split_opened (h : t.locateDirectory d = some place) (path : List Char) :
    (Path.split (Path.opened d ++ path)).foldlM t.follow (t.origin d) =
      (Path.split path).foldlM t.follow place := by
  obtain ⟨hf, hd⟩ := locateDirectory_eq_some_iff.1 h
  by_cases hn : d = []
  · subst hn
    change (t.follow (t.origin []) [] >>= some) = _ at hf
    obtain ⟨p, hp, hf⟩ := Option.bind_eq_some_iff.1 hf
    obtain rfl := eq_of_follow_nil hp
    obtain rfl := Option.some.inj hf
    rfl
  by_cases hl : d.getLast? = some '/'
  · obtain ⟨b, rfl⟩ := List.getLast?_eq_some_iff.1 hl
    have ho : Path.opened (b ++ ['/']) = b ++ ['/'] := if_pos (.inr hl)
    rw [Path.split_append_slash, List.foldlM_append] at hf
    obtain ⟨p, hp, hq⟩ := Option.bind_eq_some_iff.1 hf
    obtain ⟨q, hq, hpq⟩ := Option.bind_eq_some_iff.1 hq
    obtain rfl := eq_of_follow_nil hq
    obtain rfl := Option.some.inj hpq
    rw [ho, List.append_assoc, List.singleton_append, Path.split_append_slash, List.foldlM_append,
      hp]
    rfl
  · rw [Path.opened_of_ne_nil hn hl, List.append_assoc, List.singleton_append,
      Path.split_append_slash, List.foldlM_append, hf]
    rfl

/-- The path of a directory leads on to every directory below it. -/
theorem locateDirectory_append (h : t.IsTree) (hl : t.locateDirectory d = some place)
    (hd : t.isDirectory (place ++ way) = true) (hv : ∀ n ∈ way, isHidden n = false) :
    t.locateDirectory (Path.append d (Path.join way)) = some (place ++ way) := by
  have hw : ∀ n ∈ way, n.IsLegal := fun n hn => h.legal _ (.inr hd) n (List.mem_append_right _ hn)
  have hj := Path.head?_join hw
  rw [Path.append_eq hj, locateDirectory_eq_some_iff, origin_opened_append hj,
    foldlM_split_opened hl]
  exact ⟨foldlM_split_join h hd hv, hd⟩

end SystemProgram.FileTree
