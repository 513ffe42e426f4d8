import ThingWorld.Proofs.Course.Batches
import ThingWorld.Script.Eval
namespace ThingWorld.Script

-- What a script keeps beside the world.
structure Spent where
  used : Nat
  commands : List String
  outputs : List String

def aside {α : Type} (steps : Eval α) (spent : Spent) : Run (Except RunError α × Spent) := fun world =>
  let (result, progress) := steps.run ⟨world, spent.used, spent.commands, spent.outputs⟩
  some (.ok (result, ⟨progress.used, progress.commands, progress.outputs⟩), progress.world)

variable {α β : Type} {law : Law}

theorem run_bind (x : Eval α) (f : α → Eval β) (progress : Progress) :
    (x >>= f).run progress =
      match x.run progress with
      | (.ok a, progress) => (f a).run progress
      | (.error error, progress) => (.error error, progress) := by
  show (match x.run progress with | (result, mid) => ExceptT.bindCont f result mid) = _
  obtain ⟨result, mid⟩ := x.run progress
  cases result <;> rfl

theorem aside_bind (x : Eval α) (f : α → Eval β) (spent : Spent) :
    aside (x >>= f) spent = aside x spent >>= fun (result, spent) =>
      match result with
      | .ok a => aside (f a) spent
      | .error error => pure (.error error, spent) := by
  funext world
  show aside (x >>= f) spent world = Run.run _ world
  rw [Run.run_bind]
  simp only [aside, run_bind, Run.run]
  obtain ⟨result, mid⟩ := x.run ⟨world, spent.used, spent.commands, spent.outputs⟩
  cases result <;> rfl

def Followed (law : Law) (steps : Eval α) : Prop :=
  ∀ spent world, Charted law (aside steps spent) world

theorem followed_still {steps : Eval α} (keeps : ∀ progress, (steps.run progress).2.world = progress.world) :
    Followed law steps := by
  intro spent world
  have same := keeps ⟨world, spent.used, spent.commands, spent.outputs⟩
  exact charted_still (congrArg (fun last => some (_, last)) same)

theorem followed_pure (a : α) : Followed law (pure a) :=
  followed_still fun _ => rfl

theorem followed_throw (error : RunError) : Followed law (throw error : Eval α) :=
  followed_still fun _ => rfl

theorem followed_throw_bind (error : RunError) (f : α → Eval β) : Followed law (throw error >>= f) :=
  followed_still fun _ => rfl

theorem followed_bind {x : Eval α} {f : α → Eval β} (first : Followed law x) (rest : ∀ a, Followed law (f a)) :
    Followed law (x >>= f) := by
  intro spent world
  rw [aside_bind]
  refine charted_bind (first spent world) ?_
  rintro ⟨result, spent⟩ mid _
  cases result with
  | ok a => exact rest a spent mid
  | error error => exact charted_pure _

theorem followed_read {f : Progress → Eval β} (rest : ∀ progress, Followed law (f progress)) :
    Followed law (get >>= f) :=
  followed_bind (followed_still fun _ => rfl) rest

theorem followed_act {step : Act Unit} (charted : ∀ world, Charted law (Run.ofAct step) world) :
    Followed law (act step) := by
  intro spent world
  have seen : aside (act step) spent = (Run.ofAct step).observe >>= fun result =>
      pure (result.mapError .refused, spent) := by
    funext world
    show aside (act step) spent world = Run.run _ world
    rw [Run.run_bind]
    simp only [aside, act, ExceptT.run, Run.observe, Run.run, Run.ofAct, Option.map_some]
    obtain ⟨result, mid⟩ := step.run world
    cases result <;> rfl
  rw [seen]
  exact charted_bind (charted_observe (charted world)) fun _ _ _ => charted_pure _

-- What a script in that context may do keeps the law.
structure Suits (law : Law) (context : Context) : Prop where
  rolls : ∀ world, law.holds world [.did .rolled]
  writes : ∀ id property value world, context.admin = true ∨ id = context.this →
    law.holds world [.did (.revised id (.write property value))]

theorem suits_plain (plain : law.Suffers fun deed => deed.plain = true) (context : Context) : Suits law context where
  rolls world := plain world _ ⟨rfl, rfl⟩
  writes _ _ _ world _ := plain world _ ⟨rfl, rfl⟩

section

variable {context : Context} (suits : Suits law context)

include suits

theorem followed_roll : Followed law roll := by
  intro spent world
  exact charted_does .rolled trivial (suits.rolls world) rfl

omit suits in
theorem followed_spend (context : Context) : Followed law (spend context) := by
  refine followed_read ?_
  intro progress
  split
  · exact followed_still fun _ => rfl
  · exact followed_throw _

theorem followed_setValue (target property value : Value) : Followed law (setValue context target property value) := by
  refine followed_read ?_
  intro progress
  split
  · exact followed_throw _
  · rename_i id _
    dsimp only
    split
    · exact followed_throw_bind _ _
    · rename_i permitted
      have own : context.admin = true ∨ id = context.this := by
        cases rights : context.admin <;> simp_all
      refine followed_bind (followed_act fun world => ?_) fun _ => followed_pure value
      exact World.charted_amend id (.write property.asText value.toDatum) (fun world => suits.writes id _ _ world own)
        fun _ same => nomatch same

theorem followed_chance (percent : Value) : Followed law (chance percent) := by
  rw [chance]
  split
  · split
    · exact followed_bind (followed_roll suits) fun _ => followed_pure _
    · exact followed_throw _
  · exact followed_throw _

theorem followed_apply (function : Function) (args : List Value) :
    Followed law (apply context function args) := by
  refine followed_read ?_
  intro progress
  dsimp only
  split
  · exact followed_bind (followed_still fun _ => rfl) fun _ => followed_pure _
  · exact followed_bind (followed_still fun _ => rfl) fun _ => followed_pure _
  · exact followed_pure _
  · exact followed_setValue suits _ _ _
  · exact followed_pure _
  · exact followed_pure _
  · exact followed_pure _
  · exact followed_pure _
  · exact followed_pure _
  · exact followed_chance suits _
  · exact followed_throw _

omit suits in
theorem followed_checkCall (context : Context) (name : String) (given : Nat) :
    Followed law (checkCall context name given) := by
  refine followed_bind (followed_spend context) ?_
  intro _
  split
  · exact followed_throw _
  · split
    · exact followed_pure _
    · exact followed_throw _

end

-- The recursion is that of the evaluator: over an expression, its parts, and its sequence.
mutual

theorem followed_evaluate {context : Context} (suits : Suits law context) :
    (expr : Expr) → Followed law (evaluate context expr)
  | .text s => by
    rw [evaluate]
    exact followed_pure _
  | .number n => by
    rw [evaluate]
    exact followed_pure _
  | .flag b => by
    rw [evaluate]
    exact followed_pure _
  | .var name => by
    rw [evaluate]
    exact followed_read fun _ => followed_pure _
  | .call name args => by
    rw [evaluate]
    refine followed_bind (followed_checkCall context name args.length) ?_
    intro function
    refine followed_bind (followed_evaluateAll suits args) ?_
    exact fun values => followed_apply suits function values
  | .not operand => by
    rw [evaluate]
    exact followed_bind (followed_evaluate suits operand) fun _ => followed_pure _
  | .binary operator left right => by
    have one := followed_evaluate suits left
    have other := followed_evaluate suits right
    cases operator with
    | and =>
      rw [evaluate]
      refine followed_bind one fun value => ?_
      split
      · exact followed_pure _
      · exact followed_bind other fun _ => followed_pure _
    | or =>
      rw [evaluate]
      refine followed_bind one fun value => ?_
      split
      · exact followed_pure _
      · exact followed_bind other fun _ => followed_pure _
    | _ =>
      simp only [evaluate]
      refine followed_bind one fun _ => followed_bind other fun _ => ?_
      split
      · exact followed_pure _
      · exact followed_throw _
  | .choice condition yes no => by
    have yes := followed_evaluate suits yes
    have no := followed_evaluate suits no
    rw [evaluate]
    refine followed_bind (followed_evaluate suits condition) ?_
    intro value
    split
    · exact yes
    · exact no
  | .sequence parts => by
    rw [evaluate]
    exact followed_evaluateLast suits .null parts

theorem followed_evaluateAll {context : Context} (suits : Suits law context) :
    (exprs : List Expr) → Followed law (evaluateAll context exprs)
  | [] => by
    rw [evaluateAll]
    exact followed_pure _
  | expr :: rest => by
    rw [evaluateAll]
    refine followed_bind (followed_evaluate suits expr) ?_
    intro value
    exact followed_bind (followed_evaluateAll suits rest) fun _ => followed_pure _

theorem followed_evaluateLast {context : Context} (suits : Suits law context) (last : Value) :
    (exprs : List Expr) → Followed law (evaluateLast context last exprs)
  | [] => by
    rw [evaluateLast]
    exact followed_pure _
  | expr :: rest => by
    rw [evaluateLast]
    refine followed_bind (followed_evaluate suits expr) ?_
    exact fun value => followed_evaluateLast suits value rest

end

theorem ofAct_runCounted (context : Context) (used : Nat) (source : String) :
    Run.ofAct (runCounted context used source) = get >>= fun world =>
      match validate world.limits source with
      | .error failure => pure (.error failure, used)
      | .ok expr => aside (evaluate context expr) ⟨used, [], []⟩ >>= fun (result, spent) =>
        pure (finish result ⟨world, spent.used, spent.commands, spent.outputs⟩, spent.used) := by
  funext world
  show Run.ofAct (runCounted context used source) world = Run.run _ world
  rw [Run.run_bind, Run.run_get]
  simp only [Run.ofAct, Act.run, runCounted]
  cases validate world.limits source with
  | error failure => rfl
  | ok expr =>
    show _ = Run.run (aside (evaluate context expr) ⟨used, [], []⟩ >>= _) world
    rw [Run.run_bind]
    simp only [aside, Run.run]
    obtain ⟨result, progress⟩ := (evaluate context expr).run ⟨world, used, [], []⟩
    cases result <;> rfl

theorem charted_runCounted {context : Context} (suits : Suits law context) (used : Nat) (source : String) (world : World) :
    Charted law (Run.ofAct (runCounted context used source)) world := by
  rw [ofAct_runCounted]
  refine charted_read ?_
  split
  · exact charted_pure _
  · exact charted_bind (followed_evaluate suits _ _ world) fun _ _ _ => charted_pure _

theorem charted_run {context : Context} (suits : Suits law context) (source : String) (world : World) :
    Charted law (Run.ofAct (run context source)) world := by
  refine charted_act_bind (charted_runCounted suits 0 source world) ?_
  rintro ⟨outcome, used⟩ mid _
  cases outcome with
  | ok outcome => exact charted_act_pure _
  | error failure => exact charted_act_throw _

end ThingWorld.Script
