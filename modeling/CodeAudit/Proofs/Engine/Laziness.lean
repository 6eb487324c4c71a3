import CodeAudit.Proofs.Engine.Draining
import Mathlib.Data.Finset.Card
import Mathlib.Data.Finset.Range

/-!
Laziness of an analysis. A run that notes the calls it makes shows that asking for findings calls
rules only up to the call that gave the last finding handed out, and that the faults and the
number of units at that time are those of the calls made.
-/

namespace CodeAudit

theorem calls_from_ordered (rules : List Rule) (position : Nat) (units : List SourceUnit) :
    (callsFrom rules position units).Pairwise fun earlier later =>
      earlier.position ≤ later.position := by
  induction units generalizing position with
  | nil => exact List.Pairwise.nil
  | cons unit rest ih =>
      rw [callsFrom, List.pairwise_append]
      refine ⟨?_, ih (position + 1), ?_⟩
      · rw [List.pairwise_map]
        exact List.pairwise_of_forall fun _ _ => Nat.le_refl position
      · intro earlier inRow later inRest
        obtain ⟨rule, _, rfl⟩ := List.mem_map.mp inRow
        obtain ⟨_, index, _, place⟩ := mem_calls_from.mp inRest
        simp only [place]
        omega

namespace Call

def positions (calls : List (Call Rule)) : Finset Nat :=
  (calls.map Call.position).toFinset

theorem positions_of_split {rules : List Rule} {units : List SourceUnit}
    {earlier left : List (Call Rule)} {last : Call Rule}
    (split : callsFrom rules 0 units = earlier ++ [last] ++ left) :
    positions (earlier ++ [last]) = Finset.range (last.position + 1) := by
  have ordered := calls_from_ordered rules 0 units
  rw [split, List.append_assoc, List.pairwise_append] at ordered
  obtain ⟨_, afterLast, beforeLast⟩ := ordered
  have isCall : last ∈ callsFrom rules 0 units := by simp [split]
  obtain ⟨isRule, lastIndex, found, lastPlace⟩ := mem_calls_from.mp isCall
  ext place
  rw [positions, List.mem_toFinset, List.mem_map, Finset.mem_range]
  constructor
  · rintro ⟨call, member, rfl⟩
    rcases List.mem_append.mp member with inEarlier | isLast
    · have order := beforeLast call inEarlier last (by simp)
      omega
    · rw [List.mem_singleton.mp isLast]
      omega
  · intro upTo
    -- The same rule is called on the unit at this place, and not after the last call.
    have inside : place < units.length := by
      have := (List.getElem?_eq_some_iff.mp found).1
      omega
    have onPlace : Call.mk place units[place] last.rule ∈ callsFrom rules 0 units :=
      mem_calls_from.mpr ⟨isRule, place, List.getElem?_eq_getElem inside, (Nat.zero_add _).symm⟩
    rw [split, List.mem_append] at onPlace
    rcases onPlace with inMade | inLeft
    · exact ⟨_, inMade, rfl⟩
    · have order : last.position ≤ place := (List.pairwise_cons.mp afterLast).1 _ inLeft
      exact ⟨last, by simp, by omega⟩

end Call

namespace Analysis

/-- Asks for a finding where calling a rule may have an effect of its own. No rule runs here but
through `call`, so a `call` that notes what it is given notes every call. -/
def nextVia {m : Type → Type} [Monad m]
    (call : SourceUnit → Rule → m (Except Fault (List Finding))) (analysis : Analysis Rule) :
    m (Option Finding × Analysis Rule) :=
  match analysis.pending with
  | finding :: rest => pure (some finding, { analysis with pending := rest })
  | [] =>
      match _ : analysis.current, _ : analysis.remaining with
      | some unit, rule :: rest => do
          let result ← call unit rule
          nextVia call (analysis.afterCall rest (result, ()))
      | _, _ =>
          match _ : analysis.units with
          | unit :: rest => nextVia call (analysis.visit unit rest)
          | [] => pure (none, { analysis with current := none, remaining := [] })
termination_by (analysis.units.length, analysis.remaining.length)
decreasing_by
  · simp only [units_after_call, remaining_after_call]
    exact Prod.Lex.right _ (by simp [*])
  · exact Prod.Lex.left _ _ (by simp [visit, *])

def pullVia {m : Type → Type} [Monad m]
    (call : SourceUnit → Rule → m (Except Fault (List Finding))) (analysis : Analysis Rule) :
    Nat → m (List (Option Finding) × Analysis Rule)
  | 0 => pure ([], analysis)
  | count + 1 => do
      let (results, reached) ← analysis.pullVia call count
      let (result, after) ← reached.nextVia call
      pure (results ++ [result], after)

def pull (analysis : Analysis Rule) : Nat → List (Option Finding) × Analysis Rule
  | 0 => ([], analysis)
  | count + 1 =>
      let reached := analysis.pull count
      (reached.1 ++ [reached.2.next.1], reached.2.next.2)

def noting (unit : SourceUnit) (rule : Rule) :
    StateM (List (SourceUnit × Rule)) (Except Fault (List Finding)) := do
  modify fun noted => noted ++ [(unit, rule)]
  pure (rule.call unit)

section Equations

variable {m : Type → Type} [Monad m] {analysis : Analysis Rule}

theorem next_via_hand {finding : Finding} {rest : List Finding}
    (call : SourceUnit → Rule → m (Except Fault (List Finding)))
    (pending : analysis.pending = finding :: rest) :
    analysis.nextVia call = pure (some finding, { analysis with pending := rest }) := by
  rw [nextVia, pending]

theorem next_via_call {unit : SourceUnit} {rule : Rule} {rest : List Rule}
    (call : SourceUnit → Rule → m (Except Fault (List Finding)))
    (pending : analysis.pending = []) (current : analysis.current = some unit)
    (remaining : analysis.remaining = rule :: rest) :
    analysis.nextVia call =
      call unit rule >>= fun result => (analysis.afterCall rest (result, ())).nextVia call := by
  rw [nextVia]
  simp only [pending]
  split
  · next nowCurrent nowRemaining =>
      rw [current, Option.some.injEq] at nowCurrent
      rw [remaining, List.cons.injEq] at nowRemaining
      obtain ⟨rfl, rfl⟩ := nowRemaining
      rw [nowCurrent]
  · next idle => exact (idle unit rule rest current remaining).elim

theorem next_via_visit {unit : SourceUnit} {rest : List SourceUnit}
    (call : SourceUnit → Rule → m (Except Fault (List Finding)))
    (pending : analysis.pending = []) (idle : analysis.Idle)
    (units : analysis.units = unit :: rest) :
    analysis.nextVia call = (analysis.visit unit rest).nextVia call := by
  rw [nextVia]
  simp only [pending]
  split
  · next current remaining => exact (idle _ _ _ current remaining).elim
  · split
    · next nowUnits =>
        rw [units, List.cons.injEq] at nowUnits
        obtain ⟨rfl, rfl⟩ := nowUnits
        rfl
    · next nowUnits => simp [units] at nowUnits

theorem next_via_stop (call : SourceUnit → Rule → m (Except Fault (List Finding)))
    (pending : analysis.pending = []) (idle : analysis.Idle) (units : analysis.units = []) :
    analysis.nextVia call = pure (none, { analysis with current := none, remaining := [] }) := by
  rw [nextVia]
  simp only [pending]
  split
  · next current remaining => exact (idle _ _ _ current remaining).elim
  · split
    · next nowUnits => simp [units] at nowUnits
    · rfl

end Equations

/-- A unit can only be current after it was counted. -/
def Counted (analysis : Analysis Rule) : Prop :=
  analysis.current.isSome = true → 0 < analysis.unitsAnalyzed

theorem counted_after_call {analysis : Analysis Rule} (counted : analysis.Counted)
    (rest : List Rule) (called : Except Fault (List Finding) × Callable.Kept Rule) :
    (analysis.afterCall rest called).Counted := by
  obtain ⟨result, kept⟩ := called
  cases result <;> exact counted

theorem counted_visit (analysis : Analysis Rule) (unit : SourceUnit) (rest : List SourceUnit) :
    (analysis.visit unit rest).Counted :=
  fun _ => Nat.succ_pos _

theorem counted_next {analysis : Analysis Rule} (counted : analysis.Counted) :
    analysis.next.2.Counted := by
  fun_induction next analysis with
  | case1 => exact counted
  | case2 analysis pending unit rule rest current remaining ih =>
      exact ih (counted_after_call counted rest _)
  | case3 analysis pending unit rest units idle ih => exact ih (counted_visit analysis unit rest)
  | case4 => exact fun isSome => by cases isSome

/-- The calls made are needed for the finding: none where one was left over, and else no more than
it takes to find one. -/
def Needed (analysis : Analysis Rule) (made : List (Call Rule)) (after : Analysis Rule) : Prop :=
  (analysis.pending ≠ [] ∧ made = [] ∧ after.unitsAnalyzed = analysis.unitsAnalyzed) ∨
  (analysis.pending = [] ∧ ∃ earlier last, made = earlier ++ [last] ∧
    earlier.flatMap Call.findings = [] ∧ after.unitsAnalyzed = last.position + 1)

/-- Asking once makes these calls, and notes them where it is to, before it gives the reply. -/
structure Makes (analysis : Analysis Rule) (made : List (Call Rule))
    (reply : Option Finding × Analysis Rule) : Prop where
  noted : ∀ before, (analysis.nextVia noting).run before =
    (reply, before ++ made.map fun call => (call.unit, call.rule))
  ahead : analysis.ahead = made ++ reply.2.ahead
  faults : reply.2.faults = analysis.faults ++ made.flatMap Call.faults
  needed : reply.1 ≠ none → analysis.Needed made reply.2

section Step

variable {analysis : Analysis Rule} {made : List (Call Rule)}
  {reply : Option Finding × Analysis Rule}

theorem makes_call {unit : SourceUnit} {rule : Rule} {rest : List Rule}
    (counted : analysis.Counted) (pending : analysis.pending = [])
    (current : analysis.current = some unit) (remaining : analysis.remaining = rule :: rest)
    (makes : (analysis.afterCall rest (rule.call unit, ())).Makes made reply) :
    analysis.Makes (⟨analysis.unitsAnalyzed - 1, unit, rule⟩ :: made) reply where
  noted before := by
    rw [next_via_call noting pending current remaining]
    have later := makes.noted (before ++ [(unit, rule)])
    rw [List.append_assoc] at later
    exact later
  ahead := by
    rw [ahead_call current remaining (rule.call unit, ()), makes.ahead]
    rfl
  faults := by
    rw [makes.faults, faults_after_call, List.append_assoc]
    rfl
  needed found := by
    -- What the call found is pending after it, so the next question decides whether it was the
    -- last call that was needed or one without findings.
    have own : (analysis.afterCall rest (rule.call unit, ())).pending =
        Call.findings ⟨analysis.unitsAnalyzed - 1, unit, rule⟩ :=
      pending_after_call pending rest (rule.call unit, ())
    have counts : (analysis.afterCall rest (rule.call unit, ())).unitsAnalyzed =
        analysis.unitsAnalyzed := units_analyzed_after_call analysis rest (rule.call unit, ())
    have positive : 0 < analysis.unitsAnalyzed := counted (by rw [current]; rfl)
    refine Or.inr ⟨pending, ?_⟩
    rcases makes.needed found with ⟨_, rfl, units⟩ | ⟨empty, earlier, last, rfl, silent, units⟩
    · refine ⟨[], _, rfl, rfl, ?_⟩
      rw [units, counts]
      exact (Nat.sub_add_cancel positive).symm
    · refine ⟨_ :: earlier, last, rfl, ?_, units⟩
      rw [List.flatMap_cons, ← own, empty, silent]
      rfl

theorem makes_visit {unit : SourceUnit} {rest : List SourceUnit}
    (pending : analysis.pending = []) (idle : analysis.Idle)
    (units : analysis.units = unit :: rest)
    (makes : (analysis.visit unit rest).Makes made reply) : analysis.Makes made reply where
  noted before := by
    rw [next_via_visit noting pending idle units]
    exact makes.noted before
  ahead := by
    rw [ahead_visit idle units]
    exact makes.ahead
  faults := makes.faults
  needed found := by
    rcases makes.needed found with ⟨leftOver, _⟩ | ⟨_, calls⟩
    · exact (leftOver pending).elim
    · exact Or.inr ⟨pending, calls⟩

end Step

/-- Asking once makes calls of which none is needless. -/
theorem exists_makes {analysis : Analysis Rule} (counted : analysis.Counted) :
    ∃ made, analysis.Makes made analysis.next := by
  fun_induction next analysis with
  | case1 analysis finding rest pending =>
      refine ⟨[], fun before => ?_, rfl, (List.append_nil _).symm, fun _ => ?_⟩
      · rw [next_via_hand noting pending]
        exact congrArg (Prod.mk _) (List.append_nil before).symm
      · exact Or.inl ⟨by simp [pending], rfl, rfl⟩
  | case2 analysis pending unit rule rest current remaining ih =>
      obtain ⟨made, makes⟩ := ih (counted_after_call counted rest _)
      exact ⟨_, makes_call counted pending current remaining makes⟩
  | case3 analysis pending unit rest units idle ih =>
      obtain ⟨made, makes⟩ := ih (counted_visit analysis unit rest)
      exact ⟨made, makes_visit pending idle units makes⟩
  | case4 analysis pending units idle =>
      refine ⟨[], fun before => ?_, ?_, (List.append_nil _).symm, fun found => (found rfl).elim⟩
      · rw [next_via_stop noting pending idle units]
        exact congrArg (Prod.mk _) (List.append_nil before).symm
      · rw [ahead, current_calls_of_idle idle]
        rfl

section Run

variable {analysis : Analysis Rule}

/-- Asking a number of times hands out so many of the findings to come, and then none. -/
theorem pull_findings (analysis : Analysis Rule) (count : Nat) :
    (analysis.pull count).1 =
        (List.range count).map (fun index => analysis.forecast.findings[index]?) ∧
      (analysis.pull count).2.forecast.findings = analysis.forecast.findings.drop count := by
  induction count with
  | zero => exact ⟨rfl, rfl⟩
  | succ count ih =>
      obtain ⟨results, left⟩ := ih
      constructor
      · rw [pull, results, next_eq_head?, left, List.head?_drop, List.range_succ, List.map_append]
        rfl
      · rw [pull, next_eq_tail, left, List.tail_drop]

theorem pull_all_units (analysis : Analysis Rule) (count : Nat) :
    (analysis.pull count).2.allUnits = analysis.allUnits := by
  induction count with
  | zero => rfl
  | succ count ih => exact (next_all_units _).trans ih

theorem none_mem_pull_iff (analysis : Analysis Rule) (count : Nat) :
    none ∈ (analysis.pull count).1 ↔ analysis.forecast.findings.length < count := by
  rw [(analysis.pull_findings count).1, List.mem_map]
  constructor
  · rintro ⟨index, inRange, beyond⟩
    rw [List.mem_range] at inRange
    rw [List.getElem?_eq_none_iff] at beyond
    omega
  · intro beyond
    exact ⟨_, List.mem_range.mpr beyond, List.getElem?_eq_none (Nat.le_refl _)⟩

/-- How far a run has come: nothing was asked for, the last call made gave the last finding handed
out, or nothing is left. -/
def Stage (analysis : Analysis Rule) (count : Nat) (made : List (Call Rule)) : Prop :=
  (count = 0 ∧ made = [] ∧ (analysis.pull count).2.unitsAnalyzed = 0) ∨
  (count ≤ analysis.forecast.findings.length ∧ ∃ earlier last, made = earlier ++ [last] ∧
    (earlier.flatMap Call.findings).length < count ∧
    (analysis.pull count).2.unitsAnalyzed = last.position + 1) ∨
  (analysis.forecast.findings.length < count ∧ (analysis.pull count).2.ahead = [] ∧
    (analysis.pull count).2.units = [])

structure Reaches (analysis : Analysis Rule) (count : Nat) (made : List (Call Rule)) : Prop where
  noted : (analysis.pullVia noting count).run [] =
    (analysis.pull count, made.map fun call => (call.unit, call.rule))
  ahead : analysis.ahead = made ++ (analysis.pull count).2.ahead
  faults : (analysis.pull count).2.faults = analysis.faults ++ made.flatMap Call.faults
  counted : (analysis.pull count).2.Counted
  stage : analysis.Stage count made

theorem length_findings_made (fresh : analysis.pending = []) {count : Nat} {made : List (Call Rule)}
    (ahead : analysis.ahead = made ++ (analysis.pull count).2.ahead)
    (within : count ≤ analysis.forecast.findings.length) :
    (made.flatMap Call.findings).length = count + (analysis.pull count).2.pending.length := by
  have left := congrArg List.length (analysis.pull_findings count).2
  have all : analysis.forecast.findings.length =
      (made.flatMap Call.findings).length +
        ((analysis.pull count).2.ahead.flatMap Call.findings).length := by
    rw [forecast_rules, fresh, ahead, List.flatMap_append, List.nil_append, List.length_append]
  rw [List.length_drop, forecast_rules, List.length_append] at left
  omega

/-- Asking once more: a finding left over needs no call, and any other comes from the last of the
calls that are added. -/
theorem stage_succ (fresh : analysis.pending = []) {count : Nat} {made more : List (Call Rule)}
    (reaches : analysis.Reaches count made)
    (makes : (analysis.pull count).2.Makes more (analysis.pull count).2.next) :
    analysis.Stage (count + 1) (made ++ more) := by
  have handed := next_eq_head? (analysis.pull count).2
  rw [(analysis.pull_findings count).2, List.head?_drop] at handed
  cases found : (analysis.pull count).2.next.1 with
  | none =>
      obtain ⟨ahead, _, units⟩ := next_none found
      rw [found, eq_comm, List.getElem?_eq_none_iff] at handed
      exact Or.inr (Or.inr ⟨by omega, ahead, units⟩)
  | some finding =>
      rw [found, eq_comm] at handed
      have within : count < analysis.forecast.findings.length :=
        (List.getElem?_eq_some_iff.mp handed).1
      have length := length_findings_made fresh reaches.ahead (Nat.le_of_lt within)
      refine Or.inr (Or.inl ⟨within, ?_⟩)
      rcases makes.needed (by simp [found]) with
        ⟨leftOver, rfl, units⟩ | ⟨empty, earlier, last, rfl, silent, units⟩
      · have nonempty := List.length_pos_of_ne_nil leftOver
        rcases reaches.stage with ⟨rfl, rfl, _⟩ | ⟨_, earlier, last, rfl, before, place⟩ |
          ⟨beyond, _⟩
        · rw [List.flatMap_nil, List.length_nil] at length
          omega
        · exact ⟨earlier, last, List.append_nil _, by omega, units.trans place⟩
        · omega
      · refine ⟨made ++ earlier, last, (List.append_assoc _ _ _).symm, ?_, units⟩
        rw [List.flatMap_append, silent, List.append_nil, length, empty, List.length_nil]
        omega

theorem exists_reaches (fresh : analysis.pending = []) (uncounted : analysis.unitsAnalyzed = 0)
    (counted : analysis.Counted) (count : Nat) : ∃ made, analysis.Reaches count made := by
  induction count with
  | zero =>
      exact ⟨[], rfl, rfl, (List.append_nil _).symm, counted, Or.inl ⟨rfl, rfl, uncounted⟩⟩
  | succ count ih =>
      obtain ⟨made, reaches⟩ := ih
      obtain ⟨more, makes⟩ := exists_makes reaches.counted
      refine ⟨made ++ more, ?_, ?_, ?_, counted_next reaches.counted, ?_⟩
      · rw [pullVia, StateT.run_bind, reaches.noted, List.map_append]
        exact congrArg
          (fun noted : (Option Finding × Analysis Rule) × List (SourceUnit × Rule) =>
            (((analysis.pull count).1 ++ [noted.1.1], noted.1.2), noted.2))
          (makes.noted (made.map fun call => (call.unit, call.rule)))
      · rw [pull, List.append_assoc, ← makes.ahead]
        exact reaches.ahead
      · rw [pull, makes.faults, reaches.faults, List.flatMap_append, List.append_assoc]
      · exact stage_succ fresh reaches makes

/-- Where the calls before the last one gave too few findings, the last one gave the finding handed
out last. -/
theorem exists_last_found (fresh : analysis.pending = []) {count : Nat} {earlier : List (Call Rule)}
    {last : Call Rule} (ahead : analysis.ahead = earlier ++ [last] ++ (analysis.pull count).2.ahead)
    (within : count ≤ analysis.forecast.findings.length)
    (before : (earlier.flatMap Call.findings).length < count) :
    ∃ offset finding, last.findings[offset]? = some finding ∧
      count = (earlier.flatMap Call.findings).length + offset + 1 ∧
      (analysis.pull count).1.getLast? = some (some finding) := by
  have all : analysis.forecast.findings = earlier.flatMap Call.findings ++
      (last.findings ++ (analysis.pull count).2.ahead.flatMap Call.findings) := by
    rw [forecast_rules, fresh, ahead, List.flatMap_append, List.flatMap_append,
      List.flatMap_singleton, List.append_assoc, List.nil_append]
  have length := length_findings_made fresh ahead within
  rw [List.flatMap_append, List.length_append, List.flatMap_singleton] at length
  obtain ⟨offset, rfl⟩ := Nat.exists_eq_add_of_lt before
  have inside : offset < last.findings.length := by omega
  refine ⟨offset, last.findings[offset], List.getElem?_eq_getElem inside, rfl, ?_⟩
  rw [(analysis.pull_findings _).1, List.range_succ, List.map_append, List.map_singleton,
    List.getLast?_concat, all, List.getElem?_append_right (Nat.le_add_right _ _),
    Nat.add_sub_cancel_left, List.getElem?_append_left inside, List.getElem?_eq_getElem inside]

end Run
end Analysis

namespace Engine

/-- After asking any number of times, the replies are the first findings of the whole run and then
none. The calls made are an initial part of all calls. It ends with the call that gave the last
finding handed out, and is empty before the first question and everything once a reply was none.
The faults are those of the calls made, and the units counted are those the calls were on, or all
units in the end. -/
theorem analyze_lazy (engine : Engine) (units : List SourceUnit) (count : Nat) :
    let analysis := engine.analyze units
    let findings := analysis.drain.1
    let run := analysis.pull count
    findings = (engine.calls units).flatMap Call.findings ∧
    run.1 = (List.range count).map (fun index => findings[index]?) ∧
    ∃ made left, engine.calls units = made ++ left ∧
      (analysis.pullVia Analysis.noting count).run [] =
        (run, made.map fun call => (call.unit, call.rule)) ∧
      run.2.faults = made.flatMap Call.faults ∧
      ((none ∉ run.1 ∧ run.2.unitsAnalyzed = (Call.positions made).card ∧
          (count = 0 ∧ made = [] ∨
            ∃ earlier last offset finding, made = earlier ++ [last] ∧
              last.findings[offset]? = some finding ∧
              count = (earlier.flatMap Call.findings).length + offset + 1 ∧
              run.1.getLast? = some (some finding))) ∨
        (none ∈ run.1 ∧ left = [] ∧ run.2.unitsAnalyzed = units.length)) := by
  intro analysis findings run
  have found : analysis.forecast.findings = findings := by
    rw [engine.forecast_analyze, engine.drain_analyze]
  obtain ⟨made, reaches⟩ := Analysis.exists_reaches
    (show analysis.pending = [] from rfl) rfl (fun isSome => by cases isSome) count
  have ahead : engine.calls units = made ++ run.2.ahead := reaches.ahead
  have noneIff := analysis.none_mem_pull_iff count
  refine ⟨engine.drain_findings units, ?_, made, run.2.ahead, ahead, reaches.noted,
    reaches.faults, ?_⟩
  · rw [← found]
    exact (analysis.pull_findings count).1
  · rcases reaches.stage with ⟨rfl, rfl, uncounted⟩ | ⟨within, earlier, last, rfl, before, place⟩ |
      ⟨beyond, noCall, noUnit⟩
    · exact Or.inl ⟨List.not_mem_nil, uncounted, Or.inl ⟨rfl, rfl⟩⟩
    · obtain ⟨offset, finding, gave, asked, handed⟩ :=
        Analysis.exists_last_found rfl reaches.ahead within before
      refine Or.inl ⟨?_, ?_, Or.inr ⟨earlier, last, offset, finding, rfl, gave, asked, handed⟩⟩
      · rw [noneIff]
        omega
      · rw [Call.positions_of_split ahead, Finset.card_range]
        exact place
    · have counts := analysis.pull_all_units count
      rw [Analysis.allUnits, noUnit] at counts
      exact Or.inr ⟨noneIff.mpr beyond, noCall, counts.trans (Nat.zero_add _)⟩

end Engine
end CodeAudit
