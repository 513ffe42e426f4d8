import ThingWorld.Engine
import ThingWorld.Proofs.Course.Unfold
namespace ThingWorld

structure Law where
  holds : World → List Moment → Prop
  none : ∀ world, holds world []
  append : ∀ {world before after}, holds world before → holds (world.replay before) after →
    holds world (before ++ after)
  opened : ∀ world, holds world [.opened]
  ended : ∀ world kept, holds world [.ended kept]

namespace Law

def free : Law where
  holds _ _ := True
  none _ := trivial
  append _ _ := trivial
  opened _ := trivial
  ended _ _ := trivial

-- Nothing is done but deeds of one kind.
def only (kind : Deed → Prop) : Law where
  holds _ moments := ∀ deed, .did deed ∈ moments → kind deed
  none _ _ member := absurd member List.not_mem_nil
  append first rest deed member := (List.mem_append.mp member).elim (first deed) (rest deed)
  opened _ _ member := by simp at member
  ended _ _ _ member := by simp at member

-- Whoever does a deed of that kind, wherever, keeps the law.
def Grants (law : Law) (kind : Deed → Prop) : Prop :=
  ∀ world deed, kind deed → law.holds world [.did deed]

theorem grants_free (kind : Deed → Prop) : free.Grants kind :=
  fun _ _ _ => trivial

theorem grants_only (kind : Deed → Prop) : (only kind).Grants kind := by
  intro world deed granted other member
  simp only [List.mem_singleton, Moment.did.injEq] at member
  exact member ▸ granted

theorem grants_mono {law : Law} {kind less : Deed → Prop} (grants : law.Grants kind)
    (fewer : ∀ deed, less deed → kind deed) : law.Grants less :=
  fun world deed granted => grants world deed (fewer deed granted)

end Law

def Charted {α : Type} (law : Law) (steps : Run α) (world : World) : Prop :=
  ∀ result world', steps.run world = some (result, world') →
    ∃ moments, Unfolds steps world moments result world' ∧ law.holds world moments

section

variable {α β : Type} {law : Law} {world : World}

theorem charted_still {steps : Run α} {result : Except Failure α} (ran : steps.run world = some (result, world)) :
    Charted law steps world := by
  intro result' world' ran'
  rw [ran] at ran'
  cases ran'
  exact ⟨[], .still ran, law.none world⟩

theorem charted_ofExcept (result : Except Failure α) : Charted law (Run.ofExcept result) world :=
  charted_still rfl

theorem charted_pure (a : α) : Charted law (pure a) world :=
  charted_ofExcept (.ok a)

theorem charted_throw (failure : Failure) : Charted law (throw failure : Run α) world :=
  charted_ofExcept (.error failure)

theorem charted_exhausted : Charted law (Run.exhausted : Run α) world := by
  intro result world' ran
  cases ran

theorem charted_does {steps : Run α} {result : Except Failure α} (deed : Deed) (allowed : deed.allowed world)
    (keeps : law.holds world [.did deed]) (ran : steps.run world = some (result, deed.perform world))
    (handed : (Moment.did deed).handed world := by trivial) : Charted law steps world := by
  intro result' world' ran'
  rw [ran] at ran'
  cases ran'
  exact ⟨[.did deed], .does deed allowed handed ran, keeps⟩

theorem charted_batch {steps : Run α} {result : Except Failure α} (deeds : List Deed)
    (permitted : world.Permits (deeds.map .did)) (handed : world.Hands (deeds.map .did))
    (keeps : ∀ deed ∈ deeds, ∀ world, law.holds world [.did deed])
    (ran : steps.run world = some (result, world.replay (deeds.map .did))) : Charted law steps world := by
  intro result' world' ran'
  rw [ran] at ran'
  cases ran'
  refine ⟨deeds.map .did, .batch deeds permitted handed ran, ?_⟩
  have whole : ∀ world, law.holds world (deeds.map .did) := by
    clear ran handed permitted
    induction deeds with
    | nil => exact law.none
    | cons deed rest ih =>
      intro world
      have first := keeps deed List.mem_cons_self world
      exact law.append first (ih (fun other member => keeps other (List.mem_cons_of_mem deed member)) _)
  exact whole world

theorem charted_bind {x : Run α} {f : α → Run β} (first : Charted law x world)
    (rest : ∀ a mid, x.run world = some (.ok a, mid) → Charted law (f a) mid) : Charted law (x >>= f) world := by
  intro result world' ran
  rw [Run.run_bind] at ran
  split at ran
  · rename_i a mid ran'
    obtain ⟨before, unfolds, holds⟩ := first _ _ ran'
    obtain ⟨after, unfolds', holds'⟩ := rest a mid ran' _ _ ran
    rw [(World.unfolds_replay unfolds).1] at holds'
    exact ⟨before ++ after, .next unfolds unfolds', law.append holds holds'⟩
  · rename_i failure mid ran'
    cases ran
    obtain ⟨moments, unfolds, holds⟩ := first _ _ ran'
    exact ⟨moments, .stop unfolds, holds⟩
  · cases ran

theorem charted_read {f : World → Run β} (rest : Charted law (f world) world) : Charted law (get >>= f) world := by
  refine charted_bind (charted_still rfl) ?_
  intro a mid ran
  cases ran
  exact rest

theorem charted_observe {steps : Run α} (seen : Charted law steps world) : Charted law steps.observe world := by
  intro result world' ran
  rw [Run.run_observe] at ran
  cases inner : steps.run world with
  | none =>
    rw [inner] at ran
    cases ran
  | some pair =>
    rw [inner] at ran
    cases ran
    obtain ⟨moments, unfolds, holds⟩ := seen _ _ inner
    exact ⟨moments, .observed unfolds, holds⟩

theorem charted_scope {body : Run α} (inside : Charted law body world)
    (outside : Charted law body (Moment.opened.perform world)) : Charted law body.scope world := by
  intro result world' ran
  cases scope : world.inScope with
  | true =>
    rw [Run.run_joined scope] at ran
    obtain ⟨moments, unfolds, holds⟩ := inside _ _ ran
    exact ⟨moments, .joined scope unfolds, holds⟩
  | false =>
    rw [Run.run_outermost scope] at ran
    cases inner : body.run { world with inScope := true } with
    | none =>
      rw [inner] at ran
      cases ran
    | some pair =>
      obtain ⟨result', mid⟩ := pair
      rw [inner] at ran
      have settled : mid.settle result' = (result, world') := Option.some.inj ran
      obtain ⟨moments, unfolds, holds⟩ := outside _ _ inner
      have unfolded := Unfolds.outermost scope unfolds
      rw [settled] at unfolded
      refine ⟨_, unfolded, ?_⟩
      exact law.append (law.opened world) (law.append holds (law.ended _ _))

theorem charted_act_bind {x : Act α} {f : α → Act β} (first : Charted law (Run.ofAct x) world)
    (rest : ∀ a mid, x.run world = (.ok a, mid) → Charted law (Run.ofAct (f a)) mid) :
    Charted law (Run.ofAct (x >>= f)) world := by
  rw [Run.ofAct_bind]
  refine charted_bind first ?_
  intro a mid ran
  exact rest a mid (Option.some.inj ran)

theorem charted_act_read {f : World → Act β} (rest : Charted law (Run.ofAct (f world)) world) :
    Charted law (Run.ofAct (get >>= f)) world := by
  rw [Run.ofAct_bind]
  exact charted_read rest

theorem charted_act_pure (a : α) : Charted law (Run.ofAct (pure a)) world :=
  charted_pure a

theorem charted_act_throw (failure : Failure) : Charted law (Run.ofAct (throw failure : Act α)) world :=
  charted_throw failure

theorem charted_act_scope {body : Act α} (inside : Charted law (Run.ofAct body) world)
    (outside : Charted law (Run.ofAct body) (Moment.opened.perform world)) :
    Charted law (Run.ofAct body.scope) world := by
  rw [Run.ofAct_scope]
  exact charted_scope inside outside

theorem charted_act_throw_bind (failure : Failure) (f : α → Act β) :
    Charted law (Run.ofAct (throw failure >>= f)) world := by
  refine charted_act_bind (charted_act_throw failure) ?_
  intro a mid ran
  cases ran

theorem charted_act_forM {f : α → Act Unit} {as : List α}
    (each : ∀ a ∈ as, ∀ world, Charted law (Run.ofAct (f a)) world) :
    ∀ world, Charted law (Run.ofAct (as.forM f)) world := by
  induction as with
  | nil => exact fun world => charted_act_pure ()
  | cons a rest ih =>
    intro world
    refine charted_act_bind (each a List.mem_cons_self world) ?_
    intro _ mid _
    exact ih (fun b member => each b (List.mem_cons_of_mem a member)) mid

theorem charted_mono {weaker : Law} {steps : Run α} (charted : Charted law steps world)
    (implies : ∀ moments, law.holds world moments → weaker.holds world moments) : Charted weaker steps world := by
  intro result world' ran
  obtain ⟨moments, unfolds, holds⟩ := charted result world' ran
  exact ⟨moments, unfolds, implies moments holds⟩

end
end ThingWorld
