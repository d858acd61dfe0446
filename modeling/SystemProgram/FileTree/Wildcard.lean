namespace SystemProgram

inductive Wildcard where
  | char (c : Char)
  | anyChar
  | anyRun
  /-- One of the characters in the ranges, or in the complement one that is in none of them. -/
  | oneOf (complement : Bool) (ranges : List (Char × Char))
deriving DecidableEq, Repr

namespace Wildcard

/-- What a set lists: characters, and ranges by their ends. A range that runs backwards is
empty. -/
def members : List Char → List (Char × Option Char)
  | lo :: '-' :: hi :: cs => if lo ≤ hi then (lo, some hi) :: members cs else members cs
  | c :: cs => (c, none) :: members cs
  | [] => []

def range (m : Char × Option Char) : Char × Char :=
  (m.1, m.2.getD m.1)

/-- The set that stands between brackets. The exclamation mark has its meaning wherever only empty
ranges come before it; as the start of a range it leaves the hyphen and the range's end behind. -/
def ofSet : List Char → Wildcard
  | '!' :: cs => oneOf true ((members cs).map range)
  | cs =>
    match members cs with
    | ('!', none) :: ms => oneOf true (ms.map range)
    | ('!', some hi) :: ms => oneOf true (('-', '-') :: (hi, hi) :: ms.map range)
    | ms => oneOf false (ms.map range)

def untilClosed : List Char → Option (List Char × List Char)
  | [] => none
  | c :: cs =>
    if c = ']' then some ([], cs) else (untilClosed cs).map fun p => (c :: p.1, p.2)

/-- Splits off the text of a set whose bracket has been opened. A closing bracket in the first
place, behind the exclamation mark if there is one, is a member. -/
def splitSet : List Char → Option (List Char × List Char)
  | '!' :: ']' :: cs => (untilClosed cs).map fun p => ('!' :: ']' :: p.1, p.2)
  | ']' :: cs => (untilClosed cs).map fun p => (']' :: p.1, p.2)
  | cs => untilClosed cs

theorem length_of_untilClosed {cs : List Char} {p : List Char × List Char}
    (h : untilClosed cs = some p) : p.2.length < cs.length := by
  induction cs generalizing p with
  | nil => cases h
  | cons c cs ih =>
    simp only [untilClosed] at h
    split at h
    · cases h
      simp
    · obtain ⟨q, hq, rfl⟩ := Option.map_eq_some_iff.1 h
      have := ih hq
      exact Nat.lt_succ_of_lt this

theorem length_of_splitSet {cs : List Char} {p : List Char × List Char}
    (h : splitSet cs = some p) : p.2.length < cs.length := by
  unfold splitSet at h
  split at h
  · obtain ⟨q, hq, rfl⟩ := Option.map_eq_some_iff.1 h
    have := length_of_untilClosed hq
    simp only [List.length_cons]
    omega
  · obtain ⟨q, hq, rfl⟩ := Option.map_eq_some_iff.1 h
    have := length_of_untilClosed hq
    simp only [List.length_cons]
    omega
  · exact length_of_untilClosed h

def parse : List Char → List Wildcard
  | [] => []
  | '*' :: cs => anyRun :: parse cs
  | '?' :: cs => anyChar :: parse cs
  | '[' :: cs =>
    match h : splitSet cs with
    | none => char '[' :: parse cs
    | some (set, rest) =>
      have : rest.length < cs.length := length_of_splitSet h
      ofSet set :: parse rest
  | c :: cs => char c :: parse cs
termination_by cs => cs.length

def isPattern (name : List Char) : Bool :=
  name.any fun c => c = '*' || c = '?' || c = '['

def accepts (c : Char) : Wildcard → Bool
  | char d => c = d
  | anyChar | anyRun => true
  | oneOf complement rs => (rs.any fun r => r.1 ≤ c && c ≤ r.2) != complement

def someEnd (test : List Char → Bool) : List Char → Bool
  | [] => test []
  | c :: cs => test (c :: cs) || someEnd test cs

def matchAll : List Wildcard → List Char → Bool
  | [], cs => cs.isEmpty
  | anyRun :: ws, cs => someEnd (matchAll ws) cs
  | w :: ws, c :: cs => accepts c w && matchAll ws cs
  | _ :: _, [] => false

end Wildcard
end SystemProgram
