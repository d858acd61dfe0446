import SystemProgram.Number.Shortest
import SystemProgram.Text.Quoted
import SystemProgram.Value

namespace SystemProgram

/-- The moment by its parts; seconds and microseconds are left out from the end when zero. -/
def Moment.shown (m : Moment) : String :=
  let head := [m.date.year, m.date.month, m.date.day, m.hour, m.minute]
  let tail := if m.micro ≠ 0 then [m.second, m.micro] else if m.second ≠ 0 then [m.second] else []
  let numbers := ", ".intercalate ((head ++ tail).map Integer.natText)
  let zone := match m.zone with
    | none => ""
    | some z =>
      if z = 0 then ", tzinfo=datetime.timezone.utc"
      else
        let days := if z < 0 then "days=-1, " else ""
        ", tzinfo=datetime.timezone(datetime.timedelta(" ++ days ++ "seconds=" ++
          Integer.text (z % 86400) ++ "))"
  "datetime.datetime(" ++ numbers ++ zone ++ ")"

def Date.shown (d : Date) : String :=
  "datetime.date(" ++ ", ".intercalate ([d.year, d.month, d.day].map Integer.natText) ++ ")"

namespace Value

def boolText (b : Bool) : String :=
  if b then "True" else "False"

mutual
def shown : Value → String
  | null => "None"
  | bool b => boolText b
  | int i => Integer.text i
  | float x => x.text
  | str s => Quoted.text s
  | broken t => Quoted.broken t
  | bytes bs => Quoted.bytes bs
  | buffer bs => Quoted.buffer bs
  | key k => "PublicKey(" ++ k.toBase58 ++ ")"
  | date d => d.shown
  | moment m => m.shown
  | list vs => "[" ++ ", ".intercalate (shownAll vs) ++ "]"
  | tuple vs =>
    "(" ++ ", ".intercalate (shownAll vs) ++ (if vs.length = 1 then ",)" else ")")
  | set vs => if vs.isEmpty then "set()" else "\x7b" ++ ", ".intercalate (shownAll vs) ++ "\x7d"
  | map es => "\x7b" ++ ", ".intercalate (shownEntries es) ++ "\x7d"
  | outer isMap => if isMap then "\x7b...\x7d" else "[...]"

def shownAll : List Value → List String
  | [] => []
  | v :: vs => shown v :: shownAll vs

def shownEntries : List (Value × Value) → List String
  | [] => []
  | (k, v) :: es => (shown k ++ ": " ++ shown v) :: shownEntries es
end

def text : Value → Text
  | str s => s
  | broken t => .broken t
  | key k => k.toBase58
  | date d => d.text
  | moment m => m.text
  | v => shown v

mutual
/-- Whether all numbers in the value can be written. -/
def isShowable : Value → Bool
  | int i => Integer.isShowable i
  | list vs | tuple vs | set vs => allShowable vs
  | map es => entriesShowable es
  | _ => true

def allShowable : List Value → Bool
  | [] => true
  | v :: vs => isShowable v && allShowable vs

def entriesShowable : List (Value × Value) → Bool
  | [] => true
  | (k, v) :: es => isShowable k && isShowable v && entriesShowable es
end

end Value
end SystemProgram
