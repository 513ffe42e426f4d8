import ThingWorld.Proofs.Course.Script
namespace ThingWorld.Script

variable {α β : Type} {context : Context}

-- What comes up after a step that gives a value.
def onward (steps : Eval α) (rest : α → Progress → List Progress) (progress : Progress) : List Progress :=
  match steps.run progress with
  | (.ok a, mid) => rest a mid
  | (.error _, _) => []

mutual

-- The calls that come up, from the first to the last, each as the state that it meets.
def calls (context : Context) : Expr → Progress → List Progress
  | .text _, _ => []
  | .number _, _ => []
  | .flag _, _ => []
  | .var _, _ => []
  | .call name args, progress =>
    progress :: onward (checkCall context name args.length) (fun _ mid => callsAll context args mid) progress
  | .not operand, progress => calls context operand progress
  | .binary .and left right, progress =>
    calls context left progress ++
      onward (evaluate context left) (fun value mid => if value.isTruthy then calls context right mid else []) progress
  | .binary .or left right, progress =>
    calls context left progress ++
      onward (evaluate context left) (fun value mid => if value.isTruthy then [] else calls context right mid) progress
  | .binary _ left right, progress =>
    calls context left progress ++ onward (evaluate context left) (fun _ mid => calls context right mid) progress
  | .choice condition yes no, progress =>
    calls context condition progress ++
      onward (evaluate context condition)
        (fun value mid => if value.isTruthy then calls context yes mid else calls context no mid) progress
  | .sequence parts, progress => callsAll context parts progress

def callsAll (context : Context) : List Expr → Progress → List Progress
  | [], _ => []
  | expr :: rest, progress =>
    calls context expr progress ++ onward (evaluate context expr) (fun _ mid => callsAll context rest mid) progress

end

def failure? : Except RunError α → Option RunError
  | .ok _ => none
  | .error error => some error

-- The account of a run that met these calls.
structure Account (limit : Nat) (start : Progress) (met : List Progress) (error? : Option RunError) (last : Progress) :
    Prop where
  paced : ∀ (i : Nat) (call : Progress), met[i]? = some call → call.used = start.used + i
  ends :
    (last.used = start.used + met.length ∧ last.used ≤ limit ∧ ∀ n, error? ≠ some (.actionLimit n)) ∨
      (last.used = limit ∧ limit + 1 = start.used + met.length ∧ error? = some (.actionLimit limit) ∧
        met.getLast? = some last)

def Counted (context : Context) (steps : Eval α) (met : Progress → List Progress) : Prop :=
  ∀ progress, progress.used ≤ context.maxActions →
    Account context.maxActions progress (met progress) (failure? (steps.run progress).1) (steps.run progress).2

theorem counted_still {steps : Eval α} (keeps : ∀ progress, (steps.run progress).2.used = progress.used)
    (other : ∀ progress n, failure? (steps.run progress).1 ≠ some (.actionLimit n)) :
    Counted context steps fun _ => [] := by
  intro progress enough
  refine ⟨nofun, .inl ⟨keeps progress, ?_, other progress⟩⟩
  rw [keeps]
  exact enough

-- A step that gives a value and spends nothing.
theorem counted_given {steps : Eval α}
    (gives : ∀ progress, ∃ a last, steps.run progress = (.ok a, last) ∧ last.used = progress.used) :
    Counted context steps fun _ => [] := by
  refine counted_still ?_ ?_
  · intro progress
    obtain ⟨a, last, ran, kept⟩ := gives progress
    rw [ran]
    exact kept
  · intro progress n same
    obtain ⟨a, last, ran, _⟩ := gives progress
    rw [ran] at same
    cases same

theorem counted_pure (a : α) : Counted context (pure a) fun _ => [] :=
  counted_given fun _ => ⟨a, _, rfl, rfl⟩

theorem counted_throw {error : RunError} (other : ∀ n, error ≠ .actionLimit n) :
    Counted context (throw error : Eval α) fun _ => [] :=
  counted_still (fun _ => rfl) fun _ n same => other n (Option.some.inj same)

theorem counted_bind {x : Eval α} {f : α → Eval β} {met : Progress → List Progress}
    (later : α → Progress → List Progress) (first : Counted context x met)
    (rest : ∀ a, Counted context (f a) (later a)) :
    Counted context (x >>= f) fun progress => met progress ++ onward x later progress := by
  intro progress enough
  obtain ⟨paced, ends⟩ := first progress enough
  rw [run_bind]
  dsimp only [onward]
  cases ran : x.run progress with
  | mk result mid =>
    rw [ran] at ends
    cases result with
    | error error =>
      dsimp only
      rw [List.append_nil]
      exact ⟨paced, ends⟩
    | ok a =>
      obtain ⟨spent, within, _⟩ | ⟨_, _, refused, _⟩ := ends
      · obtain ⟨paced', ends'⟩ := rest a mid within
        dsimp only at spent within ⊢
        refine ⟨?_, ?_⟩
        · intro i call found
          rw [List.getElem?_append] at found
          split at found
          · exact paced i call found
          · have := paced' _ call found
            omega
        · rw [List.length_append]
          obtain ⟨spent', within', other⟩ | ⟨full, counted, refused, ended⟩ := ends'
          · exact .inl ⟨by omega, within', other⟩
          · exact .inr ⟨full, by omega, refused, by rw [List.getLast?_append, ended]; rfl⟩
      · cases refused

-- Nothing comes up after the first part.
theorem counted_after {x : Eval α} {f : α → Eval β} {met : Progress → List Progress} (first : Counted context x met)
    (rest : ∀ a, Counted context (f a) fun _ => []) : Counted context (x >>= f) met := by
  have none : (fun progress => met progress ++ onward x (fun _ _ => []) progress) = met := by
    funext progress
    rw [onward]
    split <;> exact List.append_nil _
  exact none ▸ counted_bind _ first rest

theorem counted_read {f : Progress → Eval β} (rest : ∀ progress, Counted context (f progress) fun _ => []) :
    Counted context (get >>= f) fun _ => [] :=
  counted_after (counted_given fun _ => ⟨_, _, rfl, rfl⟩) rest

theorem run_spend (context : Context) (progress : Progress) :
    (spend context).run progress =
      if progress.used < context.maxActions then (.ok (), { progress with used := progress.used + 1 })
      else (.error (.actionLimit context.maxActions), progress) := by
  show ExceptT.run (if progress.used < context.maxActions then
    modify fun progress => { progress with used := progress.used + 1 }
    else throw (.actionLimit context.maxActions) : Eval Unit) progress = _
  split <;> rfl

-- The one step that spends, and the one that stops when nothing is left.
theorem counted_spend : Counted context (spend context) fun progress => [progress] := by
  intro progress enough
  rw [run_spend]
  refine ⟨?_, ?_⟩
  · intro i call found
    cases i with
    | zero =>
      obtain rfl := Option.some.inj found
      rfl
    | succ i => cases found
  · split
    · rename_i left
      exact .inl ⟨rfl, left, nofun⟩
    · rename_i spent
      have full : progress.used = context.maxActions := by omega
      exact .inr ⟨full, by rw [full]; rfl, rfl, rfl⟩

theorem counted_checkCall (name : String) (given : Nat) :
    Counted context (checkCall context name given) fun progress => [progress] := by
  refine counted_after counted_spend ?_
  intro _
  split
  · exact counted_throw nofun
  · split
    · exact counted_pure _
    · exact counted_throw nofun

theorem run_act (step : Act Unit) (progress : Progress) : ∃ result world,
    (act step).run progress = (result, { progress with world := world }) ∧ ∀ n, failure? result ≠ some (.actionLimit n) := by
  have ran : (act step).run progress = act step progress := rfl
  rw [ran, act]
  obtain ⟨result, world⟩ := step.run progress.world
  cases result with
  | ok _ => exact ⟨.ok (), world, rfl, fun _ same => by cases same⟩
  | error failure => exact ⟨.error (.refused failure), world, rfl, fun _ same => by cases same⟩

theorem counted_act (step : Act Unit) : Counted context (act step) fun _ => [] := by
  refine counted_still ?_ ?_
  · intro progress
    obtain ⟨_, _, ran, _⟩ := run_act step progress
    rw [ran]
  · intro progress
    obtain ⟨_, _, ran, other⟩ := run_act step progress
    rw [ran]
    exact other

theorem counted_setValue (target property value : Value) :
    Counted context (setValue context target property value) fun _ => [] := by
  refine counted_read ?_
  intro progress
  split
  · exact counted_throw nofun
  · dsimp only
    split
    · exact counted_after (counted_throw nofun) fun _ => counted_after (counted_act _) fun _ => counted_pure _
    · exact counted_after (counted_act _) fun _ => counted_pure _

theorem counted_chance (percent : Value) : Counted context (chance percent) fun _ => [] := by
  rw [chance]
  split
  · split
    · exact counted_after (counted_given fun _ => ⟨_, _, rfl, rfl⟩) fun _ => counted_pure _
    · exact counted_throw fun _ same => by cases same
  · exact counted_throw fun _ same => by cases same

theorem counted_apply (function : Function) (args : List Value) :
    Counted context (apply context function args) fun _ => [] := by
  refine counted_read ?_
  intro progress
  dsimp only
  split
  · exact counted_after (counted_given fun _ => ⟨_, _, rfl, rfl⟩) fun _ => counted_pure _
  · exact counted_after (counted_given fun _ => ⟨_, _, rfl, rfl⟩) fun _ => counted_pure _
  · exact counted_pure _
  · exact counted_setValue _ _ _
  · exact counted_pure _
  · exact counted_pure _
  · exact counted_pure _
  · exact counted_pure _
  · exact counted_pure _
  · exact counted_chance _
  · exact counted_throw nofun

theorem combine_other (operator : Operator) (left right : Value) (n : Nat) :
    combine operator left right ≠ .error (.actionLimit n) := by
  cases operator <;> simp only [combine, numbers] <;> (try split) <;> exact nofun

-- The recursion is that of the evaluator, and the account is that of the parts one after the other.
mutual

theorem counted_evaluate : (expr : Expr) → Counted context (evaluate context expr) (calls context expr)
  | .text s => by
    rw [evaluate]
    exact counted_pure _
  | .number n => by
    rw [evaluate]
    exact counted_pure _
  | .flag b => by
    rw [evaluate]
    exact counted_pure _
  | .var name => by
    rw [evaluate]
    exact counted_read fun _ => counted_pure _
  | .call name args => by
    rw [evaluate]
    refine counted_bind (fun _ mid => callsAll context args mid) (counted_checkCall name args.length) ?_
    intro function
    exact counted_after (counted_evaluateAll args) fun values => counted_apply function values
  | .not operand => by
    rw [evaluate]
    exact counted_after (counted_evaluate operand) fun _ => counted_pure _
  | .binary operator left right => by
    have one := counted_evaluate left
    have other := counted_evaluate right
    cases operator with
    | and =>
      rw [evaluate]
      refine counted_bind (fun value mid => if value.isTruthy then calls context right mid else []) one ?_
      intro value
      cases value.isTruthy with
      | true => exact counted_after other fun _ => counted_pure _
      | false => exact counted_pure _
    | or =>
      rw [evaluate]
      refine counted_bind (fun value mid => if value.isTruthy then [] else calls context right mid) one ?_
      intro value
      cases value.isTruthy with
      | true => exact counted_pure _
      | false => exact counted_after other fun _ => counted_pure _
    | _ =>
      simp only [evaluate]
      refine counted_bind _ one fun _ => counted_after other fun _ => ?_
      split
      · exact counted_pure _
      · rename_i failed
        exact counted_throw fun n same => combine_other _ _ _ n (same ▸ failed)
  | .choice condition yes no => by
    have one := counted_evaluate yes
    have other := counted_evaluate no
    rw [evaluate]
    refine counted_bind (fun value mid => if value.isTruthy then calls context yes mid else calls context no mid)
      (counted_evaluate condition) ?_
    intro value
    cases value.isTruthy with
    | true => exact one
    | false => exact other
  | .sequence parts => by
    rw [evaluate]
    exact counted_evaluateLast .null parts

theorem counted_evaluateAll : (exprs : List Expr) → Counted context (evaluateAll context exprs) (callsAll context exprs)
  | [] => by
    rw [evaluateAll]
    exact counted_pure _
  | expr :: rest => by
    rw [evaluateAll]
    refine counted_bind _ (counted_evaluate expr) ?_
    intro value
    exact counted_after (counted_evaluateAll rest) fun _ => counted_pure _

theorem counted_evaluateLast (last : Value) :
    (exprs : List Expr) → Counted context (evaluateLast context last exprs) (callsAll context exprs)
  | [] => by
    rw [evaluateLast]
    exact counted_pure _
  | expr :: rest => by
    rw [evaluateLast]
    refine counted_bind _ (counted_evaluate expr) ?_
    exact fun value => counted_evaluateLast value rest

end

end ThingWorld.Script
