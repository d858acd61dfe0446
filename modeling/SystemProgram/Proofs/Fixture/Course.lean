import Mathlib.Data.List.Forall2
import SystemProgram.Fixture.Check

namespace SystemProgram.Fixture

def failLines (log : List Event) : List Text :=
  log.filterMap fun
    | .failed failure => some failure
    | _ => none

theorem failLines_append (l m : List Event) : failLines (l ++ m) = failLines l ++ failLines m :=
  List.filterMap_append

theorem failLines_map_failed (fs : List Text) : failLines (fs.map .failed) = fs := by
  induction fs with
  | nil => rfl
  | cons f fs ih => exact congrArg (f :: ·) ih

namespace Course

variable {α : Type} {stop : Bool} {c d : Course} {f : α → Course} {xs : List α} {fs : List Text}

def each (stop : Bool) (f : α → Course) : List α → Course
  | [] => ⟨[], .ok []⟩
  | x :: xs => (f x).andThen stop (each stop f xs)

theorem failures_andThen_of_nil (h : c.failures = .ok []) :
    (c.andThen stop d).failures = d.failures := by
  have ho : c.isOver stop = false := by simp [isOver, h]
  rw [andThen, ho, if_neg Bool.false_ne_true]
  dsimp only
  rw [h]
  cases d.failures <;> rfl

theorem failures_andThen_of_ne_nil (h : c.failures = .ok fs) (hn : fs ≠ []) :
    (c.andThen true d).failures = .ok fs := by
  have ho : c.isOver true = true := by simpa [isOver, h] using hn
  rw [andThen, if_pos ho, h]

theorem failures_andThen_of_error {e : Failure} (h : c.failures = .error e) :
    (c.andThen stop d).failures = .error e := by
  have ho : c.isOver stop = true := by simp [isOver, h]
  rw [andThen, if_pos ho, h]

theorem failures_andThen_false :
    (c.andThen false d).failures = (do return (← c.failures) ++ (← d.failures)) := by
  cases h : c.failures with
  | error e => exact failures_andThen_of_error h
  | ok fs => simp [andThen, isOver, h]

theorem andThen_eq_ok_nil_iff :
    (c.andThen stop d).failures = .ok [] ↔ c.failures = .ok [] ∧ d.failures = .ok [] := by
  cases h : c.failures with
  | error e => simp [failures_andThen_of_error h]
  | ok fs =>
    cases fs with
    | nil => simp [failures_andThen_of_nil h]
    | cons g gs =>
      cases stop with
      | true => simp [failures_andThen_of_ne_nil h (List.cons_ne_nil g gs)]
      | false =>
        rw [failures_andThen_false, h]
        cases d.failures <;> simp [bind, Except.bind, pure, Except.pure]

/-- Stopping makes no difference to whether everything passes. -/
theorem each_eq_ok_nil_iff :
    (each stop f xs).failures = .ok [] ↔ ∀ x ∈ xs, (f x).failures = .ok [] := by
  induction xs with
  | nil => simp [each]
  | cons x xs ih => rw [each, andThen_eq_ok_nil_iff, ih, List.forall_mem_cons]

theorem each_false_eq_ok_iff :
    (each false f xs).failures = .ok fs ↔
      ∃ gs, List.Forall₂ (fun x g => (f x).failures = .ok g) xs gs ∧ fs = gs.flatten := by
  induction xs generalizing fs with
  | nil => simp [each, eq_comm]
  | cons x xs ih =>
    rw [each, failures_andThen_false]
    simp only [Outcome.bind_eq_ok_iff, ih]
    constructor
    · intro h
      obtain ⟨g, hg, _, ⟨gs, hgs, rfl⟩, h⟩ := h
      exact ⟨g :: gs, .cons hg hgs, (Except.ok.inj h).symm⟩
    · intro h
      obtain ⟨gs, hgs, rfl⟩ := h
      cases hgs with
      | cons hg hgs => exact ⟨_, hg, _, ⟨_, hgs, rfl⟩, rfl⟩

/-- With stopping, nothing behind the first failure counts. -/
theorem each_true_eq_ok (h : (each true f xs).failures = .ok fs) :
    (fs = [] ∧ ∀ x ∈ xs, (f x).failures = .ok []) ∨
      ∃ before x after, xs = before ++ x :: after ∧ (∀ y ∈ before, (f y).failures = .ok []) ∧
        (f x).failures = .ok fs ∧ fs ≠ [] := by
  induction xs with
  | nil => exact .inl ⟨(Except.ok.inj h).symm, List.forall_mem_nil _⟩
  | cons x xs ih =>
    rw [each] at h
    rcases hx : (f x).failures with e | g
    · rw [failures_andThen_of_error hx] at h
      cases h
    · by_cases hn : g = []
      · subst hn
        rw [failures_andThen_of_nil hx] at h
        rcases ih h with ⟨hf, hp⟩ | ⟨before, y, after, rfl, hp, hy⟩
        · exact .inl ⟨hf, List.forall_mem_cons.2 ⟨hx, hp⟩⟩
        · exact .inr ⟨x :: before, y, after, rfl, List.forall_mem_cons.2 ⟨hx, hp⟩, hy⟩
      · rw [failures_andThen_of_ne_nil hx hn] at h
        obtain rfl := Except.ok.inj h
        exact .inr ⟨[], x, xs, rfl, List.forall_mem_nil _, hx, hn⟩

/-- Checks of which none breaks off do not break off together. -/
theorem exists_each_eq_ok (h : ∀ x ∈ xs, ∃ fs, (f x).failures = .ok fs) :
    ∃ fs, (each stop f xs).failures = .ok fs := by
  induction xs with
  | nil => exact ⟨[], rfl⟩
  | cons x xs ih =>
    obtain ⟨⟨fs, hx⟩, hxs⟩ := List.forall_mem_cons.1 h
    obtain ⟨gs, hg⟩ := ih hxs
    rw [each, andThen]
    split
    · exact ⟨fs, hx⟩
    · refine ⟨fs ++ gs, ?_⟩
      rw [hx, hg]
      rfl

theorem failLines_each (h : ∀ x, failLines (f x).log = []) :
    failLines (each stop f xs).log = [] := by
  induction xs with
  | nil => rfl
  | cons x xs ih =>
    rw [each, andThen]
    split
    · exact h x
    · rw [failLines_append, h x, ih, List.append_nil]

end Course

open Course

variable {t : FileTree} {stop : Bool} {vec : Value} {vecs : List Value} {path : String}
  {paths : List String} {fs : List Text}

theorem checkVectors_eq_each : checkVectors stop vecs = each stop courseOfVector vecs := by
  induction vecs with
  | nil => rfl
  | cons vec vecs ih => rw [checkVectors, each, ih]

theorem checkFiles_eq_each : checkFiles t stop paths = each stop (checkFile t stop) paths := by
  induction paths with
  | nil => rfl
  | cons path paths ih => rw [checkFiles, each, ih]

/-- Nothing fails in the vector, and its name can be written. -/
structure VectorPasses (vec : Value) : Prop where
  agrees : checkVector vec = .ok []
  showable : (loggedName vec).isShowable = true

def FilePasses (t : FileTree) (path : String) : Prop :=
  ∃ vecs, loadVectors t path = .ok vecs ∧ ∀ vec ∈ vecs, VectorPasses vec

theorem courseOfVector_eq_ok_iff :
    (courseOfVector vec).failures = .ok fs ↔
      checkVector vec = .ok fs ∧ (loggedName vec).isShowable = true := by
  unfold courseOfVector
  cases hc : checkVector vec with
  | error e => simp
  | ok gs => cases hs : (loggedName vec).isShowable <;> simp

theorem courseOfVector_eq_ok_nil_iff :
    (courseOfVector vec).failures = .ok [] ↔ VectorPasses vec := by
  rw [courseOfVector_eq_ok_iff]
  exact ⟨fun h => ⟨h.1, h.2⟩, fun h => ⟨h.agrees, h.showable⟩⟩

theorem checkFile_eq_ok_iff :
    (checkFile t stop path).failures = .ok fs ↔
      ∃ vecs, loadVectors t path = .ok vecs ∧
        (each stop courseOfVector vecs).failures = .ok fs := by
  unfold checkFile
  cases h : loadVectors t path with
  | error e => simp
  | ok vecs => simp [checkVectors_eq_each]

theorem checkFile_eq_ok_nil_iff :
    (checkFile t stop path).failures = .ok [] ↔ FilePasses t path := by
  simp only [checkFile_eq_ok_iff, each_eq_ok_nil_iff, courseOfVector_eq_ok_nil_iff, FilePasses]

theorem checkFiles_eq_ok_nil_iff :
    (checkFiles t stop paths).failures = .ok [] ↔ ∀ path ∈ paths, FilePasses t path := by
  simp only [checkFiles_eq_each, each_eq_ok_nil_iff, checkFile_eq_ok_nil_iff]

/-- The lines are what fails in all vectors of the files, in the order of the files and, in a file,
of the vectors. -/
def ReportsAll (t : FileTree) (paths : List String) (lines : List Text) : Prop :=
  ∃ vecs fss, List.Forall₂ (fun path vs => loadVectors t path = .ok vs) paths vecs ∧
    List.Forall₂ (fun vec fs => checkVector vec = .ok fs) vecs.flatten fss ∧ lines = fss.flatten

/-- The lines are what fails in the first vector in which something fails. -/
def ReportsFirst (t : FileTree) (paths : List String) (lines : List Text) : Prop :=
  (lines = [] ∧ ∀ path ∈ paths, FilePasses t path) ∨
    ∃ before path after earlier vec later, paths = before ++ path :: after ∧
      (∀ path ∈ before, FilePasses t path) ∧
      loadVectors t path = .ok (earlier ++ vec :: later) ∧ (∀ vec ∈ earlier, VectorPasses vec) ∧
      checkVector vec = .ok lines ∧ lines ≠ []

theorem reportsAll_of_ok (h : (checkFiles t false paths).failures = .ok fs) :
    ReportsAll t paths fs := by
  rw [checkFiles_eq_each, each_false_eq_ok_iff] at h
  obtain ⟨gs, hgs, rfl⟩ := h
  induction hgs with
  | nil => exact ⟨[], [], .nil, .nil, rfl⟩
  | cons hg _ ih =>
    obtain ⟨vs, hv, hf⟩ := checkFile_eq_ok_iff.1 hg
    obtain ⟨hs, hhs, rfl⟩ := each_false_eq_ok_iff.1 hf
    obtain ⟨vecs, fss, hl, hc, he⟩ := ih
    have hvs : List.Forall₂ (fun vec fs => checkVector vec = .ok fs) vs hs :=
      hhs.imp fun _ _ h => (courseOfVector_eq_ok_iff.1 h).1
    refine ⟨vs :: vecs, hs ++ fss, .cons hv hl, List.rel_append hvs hc, ?_⟩
    rw [List.flatten_cons, he, List.flatten_append]

theorem reportsFirst_of_ok (h : (checkFiles t true paths).failures = .ok fs) :
    ReportsFirst t paths fs := by
  rw [checkFiles_eq_each] at h
  rcases each_true_eq_ok h with ⟨hf, hp⟩ | ⟨before, path, after, he, hp, hpath, hn⟩
  · exact .inl ⟨hf, fun path hm => checkFile_eq_ok_nil_iff.1 (hp path hm)⟩
  · obtain ⟨vecs, hv, hf⟩ := checkFile_eq_ok_iff.1 hpath
    -- Something fails in the file, so it has a first vector that does.
    rcases each_true_eq_ok hf with ⟨hf, _⟩ | ⟨earlier, vec, later, rfl, hq, hvec, _⟩
    · exact absurd hf hn
    · exact .inr ⟨before, path, after, earlier, vec, later, he,
        fun path hm => checkFile_eq_ok_nil_iff.1 (hp path hm), hv,
        fun vec hm => courseOfVector_eq_ok_nil_iff.1 (hq vec hm),
        (courseOfVector_eq_ok_iff.1 hvec).1, hn⟩

theorem failLines_courseOfVector (vec : Value) : failLines (courseOfVector vec).log = [] := by
  have hb : failLines (buildLog vec) = [] := by
    unfold buildLog
    split <;> rfl
  unfold courseOfVector
  split
  · split
    · rw [failLines_append, hb]
      rfl
    · exact hb
  · exact hb

theorem failLines_checkFile (path : String) : failLines (checkFile t stop path).log = [] := by
  unfold checkFile
  split
  · rfl
  · rw [checkVectors_eq_each]
    exact failLines_each failLines_courseOfVector

/-- While checks go on, no failure is reported. -/
theorem failLines_checkFiles : failLines (checkFiles t stop paths).log = [] := by
  rw [checkFiles_eq_each]
  exact failLines_each failLines_checkFile

end SystemProgram.Fixture
