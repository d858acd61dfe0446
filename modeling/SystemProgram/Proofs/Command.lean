import SystemProgram.Command
import SystemProgram.Proofs.Fixture.Course
import SystemProgram.Proofs.Fixture.File

namespace SystemProgram.Command

open Fixture

variable {t : FileTree} {s : Settings} {c : Course} {r : Report} {env : List (String × String)}
  {args : List String} {options : Options} {paths : List String}

theorem exitCode_reportOf_eq_zero_iff : (reportOf c).exitCode = 0 ↔ c.failures = .ok [] := by
  unfold reportOf
  split <;> simp_all

theorem exitCode_reportOf_le : (reportOf c).exitCode ≤ 1 := by
  unfold reportOf
  split <;> simp

/-- A report without a failure of its own reports what failed. -/
theorem failLines_reportOf (hl : failLines c.log = []) (h : (reportOf c).failure = none) :
    c.failures = .ok (failLines (reportOf c).log) := by
  unfold reportOf at h ⊢
  split at h
  · cases h
  · next hf =>
    rw [hf, failLines_append, hl]
    rfl
  · next fs _ hf =>
    rw [hf]
    dsimp only
    rw [failLines_append, hl, failLines_map_failed, List.nil_append]

theorem failLines_shown (verbose : Bool) : failLines (r.shown verbose).log = failLines r.log := by
  unfold Report.shown failLines
  rw [List.filterMap_filter]
  congr 1
  funext e
  cases e <;> simp [Event.isDetail]

def AllPass (t : FileTree) (dir : String) : Prop :=
  ∃ paths, targets t dir = .ok paths ∧ paths ≠ [] ∧ ∀ path ∈ paths, FilePasses t path

theorem run_of_targets (h : targets t s.fixtureDir = .ok paths) (hn : paths ≠ []) :
    run t s = (reportOf (checkFiles t s.stopOnFirstFailure paths)).shown s.verbose := by
  unfold run
  rw [h]
  cases paths with
  | nil => exact absurd rfl hn
  | cons path paths => rfl

theorem exitCode_run_eq_zero_iff : (run t s).exitCode = 0 ↔ AllPass t s.fixtureDir := by
  unfold AllPass
  cases h : targets t s.fixtureDir with
  | error e => simp [run, h]
  | ok paths =>
    by_cases hn : paths = []
    · subst hn
      simp [run, h]
    · rw [run_of_targets h hn]
      change (reportOf _).exitCode = 0 ↔ _
      rw [exitCode_reportOf_eq_zero_iff, checkFiles_eq_ok_nil_iff]
      simp [hn]

theorem exitCode_run_le : (run t s).exitCode ≤ 1 := by
  cases h : targets t s.fixtureDir with
  | error e => simp [run, h]
  | ok paths =>
    by_cases hn : paths = []
    · subst hn
      simp [run, h]
    · rw [run_of_targets h hn]
      exact exitCode_reportOf_le

/-- Flags leave the exit code as it is. -/
theorem exitCode_run_congr {s' : Settings} (h : s'.fixtureDir = s.fixtureDir) :
    (run t s').exitCode = (run t s).exitCode := by
  have hz : (run t s').exitCode = 0 ↔ (run t s).exitCode = 0 := by
    rw [exitCode_run_eq_zero_iff, exitCode_run_eq_zero_iff, h]
  have hs : (run t s).exitCode ≤ 1 := exitCode_run_le
  have hs' : (run t s').exitCode ≤ 1 := exitCode_run_le
  omega

/-- The failures that a run reports are those that its checks find. -/
theorem checkFiles_of_run (h : (run t s).failure = none) :
    ∃ paths, targets t s.fixtureDir = .ok paths ∧
      (checkFiles t s.stopOnFirstFailure paths).failures = .ok (failLines (run t s).log) := by
  cases ht : targets t s.fixtureDir with
  | error e => simp [run, ht] at h
  | ok paths =>
    refine ⟨paths, rfl, ?_⟩
    by_cases hn : paths = []
    · subst hn
      simp only [run, ht]
      rfl
    · rw [run_of_targets ht hn] at h ⊢
      rw [failLines_shown]
      exact failLines_reportOf failLines_checkFiles h

theorem execute_eq_run (h : Options.request args = .run options) :
    execute t env args = run t ((Settings.ofEnvironment env).override options) := by
  rw [execute, h]

/-- The text of a vector with the given name. Its instruction allocates no space for the account
that has the key of the program. -/
def vectorChars (name : List Char) : List Char :=
  let key := List.replicate 32 '1'
  let lines :=
    ["vectors:".toList,
     "- params:".toList,
     "    instruction: allocate".toList,
     "    account_pubkey: !!str ".toList ++ key,
     "    space: 0".toList,
     "  expected:".toList,
     "    program_id: !!str ".toList ++ key,
     "    accounts:".toList,
     "    - pubkey: !!str ".toList ++ key,
     "      is_signer: true".toList,
     "      is_writable: true".toList,
     "    data: 080000000000000000000000".toList,
     "  name: ".toList ++ name]
  lines.flatMap fun line => line ++ ['\n']

def oneFile (bs : Bytes) : FileTree :=
  ⟨[(["v.yaml".toList], bs)], [], []⟩

theorem locate_oneFile (bs : Bytes) :
    (oneFile bs).locate "v.yaml".toList = some ["v.yaml".toList] := by
  rfl

theorem targets_oneFile (bs : Bytes) : targets (oneFile bs) "v.yaml" = .ok ["v.yaml"] := by
  rw [targets, locate_oneFile]
  simp [oneFile, FileTree.isFile]

theorem allPass_oneFile_iff {bs : Bytes} {vecs : List Value}
    (h : loadVectors (oneFile bs) "v.yaml" = .ok vecs) :
    AllPass (oneFile bs) "v.yaml" ↔ ∀ vec ∈ vecs, VectorPasses vec := by
  constructor
  · intro ha
    obtain ⟨paths, ht, _, hp⟩ := ha
    obtain rfl := Except.ok.inj ((targets_oneFile bs).symm.trans ht)
    obtain ⟨vecs', hl, hv⟩ := hp "v.yaml" (List.mem_singleton_self _)
    obtain rfl := Except.ok.inj (h.symm.trans hl)
    exact hv
  · intro hv
    refine ⟨["v.yaml"], targets_oneFile bs, List.cons_ne_nil _ _, fun path hm => ?_⟩
    rw [List.mem_singleton.1 hm]
    exact ⟨vecs, h, hv⟩

def vectorFile (name : List Char) : FileTree :=
  oneFile (Utf8.encode (String.ofList (vectorChars name)))

/-- Whether the text can be read, nothing fails in its vectors, and `p` holds of all of them. -/
def allAgree (p : Value → Bool) (cs : List Char) : Bool :=
  cs.all (fun c => c ≠ '\r' && Yaml.isAllowed c) &&
    match vectorsOfChars cs with
    | .ok vecs => !vecs.isEmpty && vecs.all fun vec => (checkVector vec matches .ok []) && p vec
    | .error _ => false

theorem loadVectors_vectorFile {p : Value → Bool} {name : List Char}
    (h : allAgree p (vectorChars name) = true) :
    ∃ vecs, loadVectors (vectorFile name) "v.yaml" = .ok vecs ∧ vecs ≠ [] ∧
      ∀ vec ∈ vecs, checkVector vec = .ok [] ∧ p vec = true := by
  obtain ⟨hc, hv⟩ := Bool.and_eq_true_iff.1 h
  have hall : ∀ c ∈ vectorChars name, c ≠ '\r' ∧ Yaml.isAllowed c = true := by
    simpa using hc
  have hl : loadVectors (vectorFile name) "v.yaml" = vectorsOfChars (vectorChars name) := by
    apply loadVectors_eq (locate_oneFile _)
    · simp [oneFile, FileTree.bytes?]
    · cbv
    · exact fun hm => (hall _ hm).1 rfl
    · exact List.all_eq_true.2 fun c hm => (hall c hm).2
  rw [hl]
  split at hv
  · next vecs hvecs =>
    obtain ⟨hn, hp⟩ := Bool.and_eq_true_iff.1 hv
    refine ⟨vecs, hvecs, by simpa using hn, fun vec hm => ?_⟩
    obtain ⟨hf, hp⟩ := Bool.and_eq_true_iff.1 (List.all_eq_true.1 hp vec hm)
    refine ⟨?_, hp⟩
    split at hf
    · assumption
    · cases hf
  · cases hv

/-- The exit code of a run tells whether there are files to check and all of them pass, whatever
else the environment and the options say than where to look. A run that nothing ends before reports
everything that fails or, if it is to stop, what fails in the first vector that does. -/
theorem execute_verdict (h : Options.request args = .run options) :
    let s := (Settings.ofEnvironment env).override options
    let r := execute t env args
    (r.exitCode = 0 ↔ AllPass t s.fixtureDir) ∧
      (¬AllPass t s.fixtureDir → r.exitCode = 1) ∧
      (∀ env' args' options', Options.request args' = .run options' →
        ((Settings.ofEnvironment env').override options').fixtureDir = s.fixtureDir →
          (execute t env' args').exitCode = r.exitCode) ∧
      (r.failure = none → ∃ paths, targets t s.fixtureDir = .ok paths ∧
        if s.stopOnFirstFailure then ReportsFirst t paths (failLines r.log)
        else ReportsAll t paths (failLines r.log)) := by
  intro s r
  have hr : r = run t s := execute_eq_run h
  have hz : r.exitCode = 0 ↔ AllPass t s.fixtureDir := hr ▸ exitCode_run_eq_zero_iff
  have hle : r.exitCode ≤ 1 := hr ▸ exitCode_run_le
  refine ⟨hz, fun hn => ?_, ?_, ?_⟩
  · have hne : r.exitCode ≠ 0 := mt hz.1 hn
    omega
  · intro env' args' options' h' hd
    rw [execute_eq_run h', hr]
    exact exitCode_run_congr hd
  · intro hf
    rw [hr] at hf ⊢
    obtain ⟨paths, ht, hp⟩ := checkFiles_of_run hf
    refine ⟨paths, ht, ?_⟩
    cases hs : s.stopOnFirstFailure with
    | true => exact reportsFirst_of_ok (hs ▸ hp)
    | false => exact reportsAll_of_ok (hs ▸ hp)

set_option maxRecDepth 10000 in
/-- A file with a vector that passes, in a run that would stop at a failure and shows details. -/
theorem execute_verdict_passing :
    Options.request ["--verbose", "--fixtures", "v.yaml"] = .run ⟨"v.yaml", true, false⟩ ∧
      (execute (vectorFile ['n']) [("STOP_ON_FIRST_FAILURE", "yes")]
        ["--verbose", "--fixtures", "v.yaml"]).exitCode = 0 := by
  have hr : Options.request ["--verbose", "--fixtures", "v.yaml"] =
      .run ⟨"v.yaml", true, false⟩ := by
    decide
  have ha : allAgree (fun vec => (loggedName vec).isShowable) (vectorChars ['n']) = true := by
    decide +kernel
  obtain ⟨vecs, hl, _, hv⟩ := loadVectors_vectorFile ha
  refine ⟨hr, (execute_verdict hr).1.2 ((allPass_oneFile_iff hl).2 fun vec hm => ?_)⟩
  exact ⟨(hv vec hm).1, (hv vec hm).2⟩

/-- A name that is a number of more digits than are ever written. -/
def longName : List Char :=
  '0' :: 'x' :: List.replicate 3600 '1'

set_option maxRecDepth 10000 in
/-- Nothing fails in the vector, but the log cannot name it. -/
theorem exitCode_longName :
    ¬((execute (vectorFile longName) [] ["--fixtures", "v.yaml"]).exitCode = 0 ↔
      ∃ paths, targets (vectorFile longName) "v.yaml" = .ok paths ∧ paths ≠ [] ∧
        ∀ path ∈ paths, ∃ vecs, loadVectors (vectorFile longName) path = .ok vecs ∧
          ∀ vec ∈ vecs, checkVector vec = .ok []) := by
  have hr : Options.request ["--fixtures", "v.yaml"] = .run ⟨"v.yaml", false, false⟩ := by decide
  have ha : allAgree (fun vec => !(loggedName vec).isShowable) (vectorChars longName) = true := by
    decide +kernel
  obtain ⟨vecs, hl, hn, hv⟩ := loadVectors_vectorFile ha
  obtain ⟨vec, hm⟩ := List.exists_mem_of_ne_nil vecs hn
  intro h
  have hz := h.2 ⟨["v.yaml"], targets_oneFile _, List.cons_ne_nil _ _, fun path hp =>
    List.mem_singleton.1 hp ▸ ⟨vecs, hl, fun vec hm => (hv vec hm).1⟩⟩
  rw [execute_eq_run hr] at hz
  have hp := (allPass_oneFile_iff hl).1 (exitCode_run_eq_zero_iff.1 hz) vec hm
  have hq := (hv vec hm).2
  simp [hp.showable] at hq

end SystemProgram.Command
