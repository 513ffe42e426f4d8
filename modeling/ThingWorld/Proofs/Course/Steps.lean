import ThingWorld.World.Scope
namespace ThingWorld

namespace Act

variable {α β : Type}

theorem run_bind (x : Act α) (f : α → Act β) (world : World) :
    (x >>= f).run world =
      match x.run world with
      | (.ok a, world) => (f a).run world
      | (.error failure, world) => (.error failure, world) := by
  show ExceptT.bindCont f (x.run world).1 (x.run world).2 = _
  obtain ⟨result, mid⟩ := x.run world
  cases result <;> rfl

theorem bind_ok {x : Act α} {f : α → Act β} {world world' : World} {b : β}
    (ran : (x >>= f).run world = (.ok b, world')) :
    ∃ a mid, x.run world = (.ok a, mid) ∧ (f a).run mid = (.ok b, world') := by
  rw [run_bind] at ran
  split at ran
  · rename_i a mid ran'
    exact ⟨a, mid, ran', ran⟩
  · cases ran

theorem run_get (world : World) : (get : Act World).run world = (.ok world, world) := rfl

theorem run_modify (f : World → World) (world : World) : (modify f : Act Unit).run world = (.ok (), f world) := rfl

theorem run_observe (act : Act α) (world : World) :
    act.observe.run world = (.ok (act.run world).1, (act.run world).2) := rfl

theorem run_joined {world : World} (inside : world.inScope = true) (body : Act α) :
    body.scope.run world = body.run world := by
  show (if world.inScope then body.run world else _) = _
  rw [if_pos inside]

theorem run_outermost {world : World} (outside : world.inScope = false) (body : Act α) :
    body.scope.run world =
      (body.run { world with inScope := true }).2.settle (body.run { world with inScope := true }).1 := by
  show (if world.inScope then body.run world else _) = _
  rw [outside]
  rfl

end Act

namespace Run

variable {α β : Type}

theorem run_bind (x : Run α) (f : α → Run β) (world : World) :
    (x >>= f).run world =
      match x.run world with
      | some (.ok a, world) => (f a).run world
      | some (.error failure, world) => some (.error failure, world)
      | none => none := by
  show (x.run world).bind (fun pair => ExceptT.bindCont f pair.1 pair.2) = _
  cases x.run world with
  | none => rfl
  | some pair =>
    obtain ⟨result, mid⟩ := pair
    cases result <;> rfl

theorem bind_ok {x : Run α} {f : α → Run β} {world world' : World} {b : β}
    (ran : (x >>= f).run world = some (.ok b, world')) :
    ∃ a mid, x.run world = some (.ok a, mid) ∧ (f a).run mid = some (.ok b, world') := by
  rw [run_bind] at ran
  split at ran
  · rename_i a mid ran'
    exact ⟨a, mid, ran', ran⟩
  · cases ran
  · cases ran

theorem run_pure (a : α) (world : World) : (pure a : Run α).run world = some (.ok a, world) := rfl

theorem run_get (world : World) : (get : Run World).run world = some (.ok world, world) := rfl

theorem run_modify (f : World → World) (world : World) :
    (modify f : Run Unit).run world = some (.ok (), f world) := rfl

theorem run_ofAct (act : Act α) (world : World) : (ofAct act).run world = some (act.run world) := rfl

theorem ofAct_bind (x : Act α) (f : α → Act β) : ofAct (x >>= f) = ofAct x >>= fun a => ofAct (f a) := by
  funext world
  show some ((x >>= f).run world) = (ofAct x >>= fun a => ofAct (f a)).run world
  rw [Act.run_bind, run_bind, run_ofAct]
  obtain ⟨result, mid⟩ := x.run world
  cases result <;> rfl

theorem ofAct_scope (body : Act α) : ofAct body.scope = (ofAct body).scope := by
  funext world
  show some (body.scope.run world) = (ofAct body).scope.run world
  simp only [Act.scope, Run.scope, Act.run, Run.run]
  split
  · rfl
  · rfl

-- Whether there is a result that passes a check together with the world it leaves.
def gives (ran : Option (Except Failure α × World)) (check : α → World → Bool) : Bool :=
  ran.any fun ended => ended.1.toOption.any fun a => check a ended.2

theorem gives_iff {ran : Option (Except Failure α × World)} {check : α → World → Bool} :
    gives ran check = true ↔ ∃ a last, ran = some (.ok a, last) ∧ check a last = true := by
  cases ran with
  | none => simp [gives]
  | some ended =>
    obtain ⟨result, last⟩ := ended
    cases result with
    | error failure => simp [gives, Except.toOption]
    | ok a => simp [gives, Except.toOption, and_assoc]

theorem run_observe (steps : Run α) (world : World) :
    steps.observe.run world = (steps.run world).map fun (result, world) => (.ok result, world) := rfl

theorem run_joined {world : World} (inside : world.inScope = true) (body : Run α) :
    body.scope.run world = body.run world := by
  show (if world.inScope then body.run world else _) = _
  rw [if_pos inside]

theorem run_outermost {world : World} (outside : world.inScope = false) (body : Run α) :
    body.scope.run world =
      (body.run { world with inScope := true }).map fun (result, world) => world.settle result := by
  show (if world.inScope then body.run world else _) = _
  rw [outside]
  rfl

end Run
end ThingWorld
