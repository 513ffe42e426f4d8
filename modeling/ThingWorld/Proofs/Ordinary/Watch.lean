import ThingWorld.Proofs.Course.Discipline
namespace ThingWorld

structure Watch where
  state : World → Prop
  rule : World → Moment → Prop
  keeps : ∀ {world moment}, state world → rule world moment → state (moment.perform world)
  tells : ∀ {world}, state world → ∀ id line, rule world (.did (.told id line))

def Abides {α : Type} (watch : Watch) (steps : Run α) (world : World) : Prop :=
  watch.state world → ∃ result last moments, Unfolds steps world moments result last ∧
    World.Heeds watch.rule world moments

section

variable {α β : Type} {watch : Watch} {world last : World}

theorem Watch.state_after {steps : Run α} {moments : List Moment} {result : Except Failure α}
    (unfolds : Unfolds steps world moments result last) (heeds : World.Heeds watch.rule world moments)
    (state : watch.state world) : watch.state last := by
  rw [(World.unfolds_replay unfolds).1]
  exact World.replay_keeps (fun _ _ => watch.keeps) state heeds

theorem abides_ran {steps : Run α} (abides : Abides watch steps world) (state : watch.state world) :
    ∃ result last, steps.run world = some (result, last) ∧ watch.state last := by
  obtain ⟨result, last, moments, unfolds, heeds⟩ := abides state
  exact ⟨result, last, World.unfolds_ran unfolds, watch.state_after unfolds heeds state⟩

-- What the watch has of a world may be used.
theorem abides_known {steps : Run α} (abides : watch.state world → Abides watch steps world) :
    Abides watch steps world :=
  fun state => abides state state

theorem abides_still {steps : Run α} {result : Except Failure α} (ran : steps.run world = some (result, world)) :
    Abides watch steps world :=
  fun _ => ⟨result, world, [], .still ran, trivial⟩

theorem abides_does {steps : Run α} {result : Except Failure α} (deed : Deed) (allowed : deed.allowed world)
    (may : watch.state world → watch.rule world (.did deed))
    (ran : steps.run world = some (result, deed.perform world))
    (handed : (Moment.did deed).handed world := by trivial) : Abides watch steps world :=
  fun state => ⟨result, _, [.did deed], .does deed allowed handed ran, may state, trivial⟩

theorem abides_bind {x : Run α} {f : α → Run β} (first : Abides watch x world)
    (rest : ∀ a mid, x.run world = some (.ok a, mid) → Abides watch (f a) mid) : Abides watch (x >>= f) world := by
  intro state
  obtain ⟨result, mid, before, unfolds, heeds⟩ := first state
  cases result with
  | error failure => exact ⟨.error failure, mid, before, .stop unfolds, heeds⟩
  | ok a =>
    have between := watch.state_after unfolds heeds state
    obtain ⟨result, last, after, unfolds', heeds'⟩ := rest a mid (World.unfolds_ran unfolds) between
    rw [(World.unfolds_replay unfolds).1] at heeds'
    exact ⟨result, last, before ++ after, .next unfolds unfolds', World.heeds_append.mpr ⟨heeds, heeds'⟩⟩

theorem abides_observe {steps : Run α} (seen : Abides watch steps world) : Abides watch steps.observe world := by
  intro state
  obtain ⟨result, last, moments, unfolds, heeds⟩ := seen state
  exact ⟨.ok result, last, moments, .observed unfolds, heeds⟩

-- A watch makes a conduct.
def Watch.conduct (watch : Watch) : Conduct where
  keeps steps world := Abides watch steps world
  still := abides_still
  binds := abides_bind
  observes := abides_observe
  tells id line world := abides_does (.told id (line world)) trivial (fun state => watch.tells state id _) rfl

end

section Scopes

variable {α : Type} {watch : Watch} {world : World} (opens : ∀ world, watch.rule world .opened)
  (ends : ∀ world kept, watch.rule world (.ended kept))

include opens ends

theorem abides_scope {body : Run α} (anywhere : ∀ world, Abides watch body world) : Abides watch body.scope world := by
  intro state
  cases scope : world.inScope with
  | true =>
    obtain ⟨result, last, moments, unfolds, heeds⟩ := anywhere world state
    exact ⟨result, last, moments, .joined scope unfolds, heeds⟩
  | false =>
    obtain ⟨result, mid, moments, unfolds, heeds⟩ := anywhere _ (watch.keeps state (opens world))
    refine ⟨_, _, _, .outermost scope unfolds, opens world, World.heeds_append.mpr ⟨heeds, ends _ _, trivial⟩⟩

theorem abides_versioned {body : Run α} (versions : ∀ world, watch.rule world (.did .versioned))
    (anywhere : ∀ world, Abides watch body world) : Abides watch body.versioned world :=
  abides_bind (abides_does .versioned trivial (fun _ => versions world) rfl) fun _ _ _ => abides_scope opens ends anywhere

end Scopes

section Laws

variable {α : Type} {watch : Watch} {world : World}

-- The law that asks for the rule where the state holds.
def Watch.law (watch : Watch) (opens : ∀ world, watch.rule world .opened)
    (ends : ∀ world kept, watch.rule world (.ended kept)) : Law where
  holds world moments := watch.state world → World.Heeds watch.rule world moments
  none _ _ := trivial
  append first rest state :=
    World.heeds_append.mpr ⟨first state, rest (World.replay_keeps (fun _ _ => watch.keeps) state (first state))⟩
  opened world _ := ⟨opens world, trivial⟩
  ended world kept _ := ⟨ends world kept, trivial⟩

theorem abides_of_charted {act : Act α} {opens : ∀ world, watch.rule world .opened}
    {ends : ∀ world kept, watch.rule world (.ended kept)} (charted : Charted (watch.law opens ends) (Run.ofAct act) world) :
    Abides watch (Run.ofAct act) world := by
  intro state
  obtain ⟨moments, unfolds, heeds⟩ := charted _ _ rfl
  exact ⟨_, _, moments, unfolds, heeds state⟩

end Laws

-- Nothing happens but that somebody is told something, all in a world that has not changed otherwise since.
def Watch.whispers (start : World) : Watch where
  state world := ∃ heard, world = { start with heard := heard }
  rule _ moment := ∃ id line, moment = .did (.told id line)
  keeps := by
    rintro _ _ ⟨heard, rfl⟩ ⟨id, line, rfl⟩
    exact World.tell_same id line _
  tells _ id line := ⟨id, line, rfl⟩

section Whispers

variable {α β : Type} {watch : Watch} {start world : World}

theorem heeds_whispers {moments : List Moment} : ∀ {world : World},
    World.Heeds (Watch.whispers start).rule world moments → watch.state world → World.Heeds watch.rule world moments := by
  induction moments with
  | nil => exact fun _ _ => trivial
  | cons moment rest ih =>
    rintro world ⟨⟨id, line, rfl⟩, whispers⟩ state
    have told := watch.tells state id line
    exact ⟨told, ih whispers (watch.keeps state told)⟩

theorem abides_of_whispers {steps : Run α} (whispers : Abides (.whispers world) steps world) :
    Abides watch steps world := by
  intro state
  obtain ⟨result, last, moments, unfolds, heeds⟩ := whispers ⟨world.heard, rfl⟩
  exact ⟨result, last, moments, unfolds, heeds_whispers heeds state⟩

theorem abides_whispered {x : Run α} {f : α → Run β} (whispers : Abides (.whispers world) x world)
    (rest : ∀ a heard, Abides watch (f a) { world with heard := heard }) : Abides watch (x >>= f) world := by
  refine abides_bind (abides_of_whispers whispers) ?_
  intro a mid ran
  obtain ⟨_, last, ran', heard, same⟩ := abides_ran whispers ⟨world.heard, rfl⟩
  rw [ran] at ran'
  cases ran'
  rw [same]
  exact rest a heard

end Whispers

end ThingWorld
