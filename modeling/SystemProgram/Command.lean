import SystemProgram.Fixture.Check
import SystemProgram.Settings

namespace SystemProgram.Command

open Fixture (Event Course)

/-- How a run ends. A failure that ended it is none that the log reports. -/
structure Report where
  exitCode : Nat
  log : List Event
  failure : Option Failure

/-- The files to check: the one file that is named, or those below the directory. -/
def targets (t : FileTree) (path : String) : Outcome (List String) :=
  if (t.locate path.toList).any t.isFile then .ok [path] else Fixture.findFiles t path

def reportOf (c : Course) : Report :=
  match c.failures with
  | .error e => ⟨1, c.log, some e⟩
  | .ok [] => ⟨0, c.log ++ [.allPassed], none⟩
  | .ok fs => ⟨1, c.log ++ fs.map .failed, none⟩

def Report.shown (verbose : Bool) (r : Report) : Report :=
  { r with log := r.log.filter fun e => verbose || !e.isDetail }

def run (t : FileTree) (s : Settings) : Report :=
  match targets t s.fixtureDir with
  | .error e => ⟨1, [], some e⟩
  | .ok [] => ⟨1, [.nothingFound s.fixtureDir], none⟩
  | .ok paths => (reportOf (Fixture.checkFiles t s.stopOnFirstFailure paths)).shown s.verbose

def execute (t : FileTree) (env : List (String × String)) (args : List String) : Report :=
  match Options.request args with
  | .misuse => ⟨2, [], none⟩
  | .help => ⟨0, [], none⟩
  | .run options => run t ((Settings.ofEnvironment env).override options)

end SystemProgram.Command
