import SystemProgram.Fixture.Form

namespace SystemProgram.Fixture

def vectorName (vec : Value) : Outcome Value :=
  match vec with
  | .map es => .ok ((Value.find? "name" es).getD (.str "<unnamed>"))
  | _ => .error .wrongType

def rebuild (vec : Value) : Outcome (Params × Instruction) := do
  let p ← params (← field "params" vec)
  return (p, ← p.build)

/-- A report on a vector. There is none if its name is a number too long to be written, or holds
one. -/
def report (name : Value) (what : Text) : Outcome Text :=
  if name.isShowable then .ok (name.text ++ ": " ++ what) else .error .badValue

def compareField (name built expected : Value) (part : String) : Outcome (List Text) := do
  if (← field part built).same (← field part expected) then return []
  else return [← report name (part ++ "_mismatch")]

/-- The report on the recorded instruction, if it does not lead back to the parameters. -/
def compareParsed (name expected : Value) (p : Params) : Outcome (List Text) :=
  match (do (← instruction expected).parse) with
  | .ok q => do
    if (ofParams q).same (ofParams p) then return [] else return [← report name "parse_mismatch"]
  | .error (.fault f) => do
    return [← report name ("parse_failed (" ++ f.toSpecError.text ++ ")")]
  | .error e => .error e

def checkVector (vec : Value) : Outcome (List Text) := do
  let name ← vectorName vec
  match rebuild vec with
  | .error (.fault f) => return [← report name ("build_failed (" ++ f.toSpecError.text ++ ")")]
  | .error e => throw e
  | .ok (p, ix) =>
    let built ← ofInstruction ix
    let expected ← field "expected" vec
    let programId ← compareField name built expected "program_id"
    let accounts ← compareField name built expected "accounts"
    let data ← compareField name built expected "data"
    let parsed ← compareParsed name expected p
    return programId ++ accounts ++ data ++ parsed

end SystemProgram.Fixture
