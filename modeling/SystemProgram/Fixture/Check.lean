import SystemProgram.Fixture.File
import SystemProgram.Fixture.Vector

namespace SystemProgram.Fixture

inductive Event where
  | nothingFound (dir : String)
  | checking (count : Nat) (path : String)
  | built (p : Params) (ix : Instruction)
  | checked (passed : Bool) (name : Value)
  | failed (failure : Text)
  | allPassed
deriving Repr

namespace Event

def isDetail : Event → Bool
  | built .. | checked .. => true
  | _ => false

def level : Event → String
  | nothingFound _ | failed _ => "ERROR"
  | checking .. | allPassed => "INFO"
  | built .. | checked .. => "DEBUG"

def text : Event → Text
  | nothingFound dir => "No fixture files found in " ++ dir
  | checking count path => "Checking " ++ Integer.natText count ++ " vectors in " ++ path
  | built p ix => p.note ix
  | checked passed name =>
    ("  [" ++ (if passed then "PASS" else "FAIL") ++ "] " : String) ++ name.text
  | failed failure => ("FAIL " : Text) ++ failure
  | allPassed => "All fixtures passed"

end Event

/-- The course of a check: its log, and what failed, unless it broke off. -/
structure Course where
  log : List Event
  failures : Outcome (List Text)

namespace Course

/-- Whether nothing may follow: the check broke off, or is to stop at a failure and has one. -/
def isOver (stop : Bool) (c : Course) : Bool :=
  match c.failures with
  | .ok fs => stop && !fs.isEmpty
  | .error _ => true

def andThen (stop : Bool) (c d : Course) : Course :=
  if c.isOver stop then c
  else ⟨c.log ++ d.log, do return (← c.failures) ++ (← d.failures)⟩

end Course

def loggedName : Value → Value
  | .map es => (Value.find? "name" es).getD .null
  | _ => .null

def buildLog (vec : Value) : List Event :=
  match rebuild vec with
  | .ok (p, ix) => [.built p ix]
  | .error _ => []

/-- The check of one vector. It breaks off, too, if the name of the vector cannot be written. -/
def courseOfVector (vec : Value) : Course :=
  match checkVector vec with
  | .ok fs =>
    if (loggedName vec).isShowable then
      ⟨buildLog vec ++ [.checked fs.isEmpty (loggedName vec)], .ok fs⟩
    else ⟨buildLog vec, .error .badValue⟩
  | .error e => ⟨buildLog vec, .error e⟩

def checkVectors (stop : Bool) : List Value → Course
  | [] => ⟨[], .ok []⟩
  | vec :: vecs => (courseOfVector vec).andThen stop (checkVectors stop vecs)

def checkFile (t : FileTree) (stop : Bool) (path : String) : Course :=
  match loadVectors t path with
  | .error e => ⟨[], .error e⟩
  | .ok vecs =>
    let c := checkVectors stop vecs
    ⟨.checking vecs.length (String.ofList (Path.tidy path.toList)) :: c.log, c.failures⟩

def checkFiles (t : FileTree) (stop : Bool) : List String → Course
  | [] => ⟨[], .ok []⟩
  | path :: paths => (checkFile t stop path).andThen stop (checkFiles t stop paths)

end SystemProgram.Fixture
