namespace SystemProgram.Text

/-- Every `step`-th character from `lo` to `hi`; adding `shift` leads to the other case. -/
structure CaseRun where
  lo : Nat
  hi : Nat
  step : Nat
  shift : Int

def CaseRun.counterpart? (r : CaseRun) (n : Nat) : Option Nat :=
  if r.lo ≤ n ∧ n ≤ r.hi ∧ (n - r.lo) % r.step = 0 then some (n + r.shift).toNat else none

def counterpart (runs : List CaseRun) (c : Char) : Char :=
  Char.ofNat ((runs.findSome? (·.counterpart? c.toNat)).getD c.toNat)

end SystemProgram.Text
