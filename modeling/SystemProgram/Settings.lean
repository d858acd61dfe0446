namespace SystemProgram

structure Settings where
  fixtureDir : String := "fixtures"
  verbose : Bool := false
  stopOnFirstFailure : Bool := false
deriving DecidableEq, Repr

namespace Settings

/-- Whether a variable with this text is a flag that is set. No letter outside ASCII has one of
these words' letters as its small letter. -/
def isSet (text : String) : Bool :=
  String.ofList (text.toList.map Char.toLower) ∈ ["true", "1", "yes"]

def ofEnvironment (env : List (String × String)) : Settings :=
  let flag (name : String) := isSet ((env.lookup name).getD "")
  { fixtureDir := (env.lookup "FIXTURE_DIR").getD "fixtures"
    verbose := flag "VERBOSE"
    stopOnFirstFailure := flag "STOP_ON_FIRST_FAILURE" }

end Settings

structure Options where
  fixtures : String := ""
  verbose : Bool := false
  stopOnFailure : Bool := false
deriving DecidableEq, Repr

inductive Request where
  | run (options : Options)
  | help
  | misuse
deriving DecidableEq, Repr

namespace Options

/-- Whether an argument begins like an option. A hyphen alone does not. -/
def isOption (arg : List Char) : Bool :=
  arg.head? = some '-' && 1 < arg.length

def after : List Char → List Char → Option (List Char)
  | [], cs => some cs
  | _ :: _, [] => none
  | d :: ds, c :: cs => if d = c then after ds cs else none

structure Reading where
  options : Options := {}
  help : Bool := false
  surplus : Bool := false
deriving DecidableEq, Repr

/-- Reads arguments in order; a later value replaces an earlier one. There is none if an option is
unknown, lacks its value or has one that it does not take. -/
def readArguments (r : Reading) : List String → Option Reading
  | [] => some r
  | "--" :: rest => some { r with surplus := r.surplus || !rest.isEmpty }
  | "--help" :: rest => readArguments { r with help := true } rest
  | "--verbose" :: rest => readArguments { r with options.verbose := true } rest
  | "--stop-on-failure" :: rest => readArguments { r with options.stopOnFailure := true } rest
  | ["--fixtures"] => none
  | "--fixtures" :: dir :: rest => readArguments { r with options.fixtures := dir } rest
  | arg :: rest =>
    match after "--fixtures=".toList arg.toList with
    | some dir => readArguments { r with options.fixtures := String.ofList dir } rest
    | none =>
      if isOption arg.toList then none else readArguments { r with surplus := true } rest

/-- What the arguments ask for. Help goes before surplus arguments, but not before wrong options. -/
def request (args : List String) : Request :=
  match readArguments {} args with
  | none => .misuse
  | some r => if r.help then .help else if r.surplus then .misuse else .run r.options

end Options

/-- The settings with the options applied. An empty directory is no choice. -/
def Settings.override (s : Settings) (o : Options) : Settings :=
  { fixtureDir := if o.fixtures = "" then s.fixtureDir else o.fixtures
    verbose := s.verbose || o.verbose
    stopOnFirstFailure := s.stopOnFirstFailure || o.stopOnFailure }

end SystemProgram
