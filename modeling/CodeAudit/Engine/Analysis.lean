import CodeAudit.Engine.Call

/-!
Lazy analysis: findings are handed out one at a time, and rules are called only when the next
finding is asked for. Units are visited in order, and on each unit the rules in order.
-/

namespace CodeAudit

structure Analysis (Member : Type) [Callable Member] where
  rules : List Member
  /-- The units not yet visited. -/
  units : List SourceUnit
  current : Option SourceUnit
  /-- The rules not yet called on the current unit. -/
  remaining : List Member
  /-- Findings of the last call that were not handed out. -/
  pending : List Finding
  faults : List Fault
  unitsAnalyzed : Nat
  /-- What the thread keeps of the calls so far. -/
  kept : Callable.Kept Member

namespace Analysis

variable {Member : Type} [Callable Member]

def startWith (kept : Callable.Kept Member) (rules : List Member) (units : List SourceUnit) :
    Analysis Member :=
  ⟨rules, units, none, [], [], [], 0, kept⟩

def start (rules : List Member) (units : List SourceUnit) : Analysis Member :=
  startWith Callable.nothing rules units

def afterCall (analysis : Analysis Member) (rest : List Member)
    (called : Except Fault (List Finding) × Callable.Kept Member) : Analysis Member :=
  match called.1 with
  | .ok findings => { analysis with remaining := rest, pending := findings, kept := called.2 }
  | .error fault =>
      { analysis with
        remaining := rest
        faults := analysis.faults ++ [fault]
        kept := called.2 }

def visit (analysis : Analysis Member) (unit : SourceUnit) (rest : List SourceUnit) :
    Analysis Member :=
  { analysis with
    units := rest
    current := some unit
    remaining := analysis.rules
    unitsAnalyzed := analysis.unitsAnalyzed + 1 }

section AfterCall

variable (analysis : Analysis Member) (rest : List Member)
  (called : Except Fault (List Finding) × Callable.Kept Member)

@[simp] theorem units_after_call : (analysis.afterCall rest called).units = analysis.units := by
  unfold afterCall
  split <;> rfl

@[simp] theorem remaining_after_call : (analysis.afterCall rest called).remaining = rest := by
  unfold afterCall
  split <;> rfl

end AfterCall

/-- The next finding, or none when all units are done. -/
def next (analysis : Analysis Member) : Option Finding × Analysis Member :=
  match analysis.pending with
  | finding :: rest => (some finding, { analysis with pending := rest })
  | [] =>
      match _ : analysis.current, _ : analysis.remaining with
      | some unit, rule :: rest =>
          next (analysis.afterCall rest (Callable.call rule unit analysis.kept))
      | _, _ =>
          match _ : analysis.units with
          | unit :: rest => next (analysis.visit unit rest)
          | [] => (none, { analysis with current := none, remaining := [] })
termination_by (analysis.units.length, analysis.remaining.length)
decreasing_by
  · simp only [units_after_call, remaining_after_call]
    exact Prod.Lex.right _ (by simp [*])
  · exact Prod.Lex.left _ _ (by simp [visit, *])

def work (analysis : Analysis Member) : Nat × Nat × Nat :=
  (analysis.units.length, analysis.remaining.length, analysis.pending.length)

theorem work_next_lt {analysis : Analysis Member} {finding : Finding}
    (found : analysis.next.1 = some finding) :
    Prod.Lex (· < ·) (Prod.Lex (· < ·) (· < ·)) analysis.next.2.work analysis.work := by
  fun_induction next analysis with
  | case1 analysis first rest pending =>
      simp [work, pending, Prod.lex_def]
  | case2 analysis pending unit rule rest current remaining ih =>
      have step := ih found
      simp only [work, Prod.lex_def, units_after_call, remaining_after_call, remaining,
        List.length_cons] at step ⊢
      omega
  | case3 analysis pending unit rest units different ih =>
      have step := ih found
      simp only [work, visit, Prod.lex_def, units, List.length_cons] at step ⊢
      omega
  | case4 => simp at found

/-- All remaining findings, and the state in which they leave the analysis. -/
def drain (analysis : Analysis Member) : List Finding × Analysis Member :=
  match _ : analysis.next with
  | (none, final) => ([], final)
  | (some finding, rest) =>
      let (findings, final) := drain rest
      (finding :: findings, final)
termination_by analysis.work
decreasing_by
  have less := @work_next_lt _ _ analysis finding (by simp [*])
  simpa [*] using less

end Analysis
end CodeAudit
