import ThingWorld.Proofs.Course.Handlers
import ThingWorld.Proofs.Course.Quiet
import ThingWorld.Proofs.Course.Rights
namespace ThingWorld

-- Reactions take their turns elsewhere.
abbrev Law.calm : Law := Law.only fun deed => deed.calm = true

theorem Law.suffers_calm (kind : Deed → Prop) : Law.calm.Suffers kind :=
  Law.grants_mono (Law.grants_only _) fun _ both => both.2

theorem Deed.calm_of_steady (deed : Deed) (steady : deed.steady = true) : deed.calm = true := by
  cases deed <;> first | exact steady | rfl

theorem Deed.handed_of_steady {deed : Deed} (steady : deed.steady = true) (world : World) :
    (Moment.did deed).handed world := by
  cases deed <;> trivial

structure Discipline where
  keeps {α : Type} (admin : Bool) (steps : Run α) (world : World) : Prop
  quiet : ∀ {α : Type} {admin : Bool} {steps : Run α} {world last : World} {result : Except Failure α},
    steps.run world = some (result, last) → Charted (.rights admin) steps world → Charted .calm steps world →
      world.Thinned last → keeps admin steps world
  binds : ∀ {α β : Type} {admin : Bool} {x : Run α} {f : α → Run β} {world : World}, keeps admin x world →
    (∀ a mid, x.run world = some (.ok a, mid) → keeps admin (f a) mid) → keeps admin (x >>= f) world
  observes : ∀ {α : Type} {admin : Bool} {steps : Run α} {world : World}, keeps admin steps world →
    keeps admin steps.observe world
  scopes : ∀ {α : Type} {admin : Bool} {body : Run α} {world : World}, keeps admin body world →
    keeps admin body (Moment.opened.perform world) → keeps admin body.scope world
  -- Whether it matters that ids run out while so many are handed out.
  bears : Nat → World → Prop
  makes : ∀ {α : Type} {world : World} (operation : Operation α), operation.makes = true →
    bears (operation.takes world) world → keeps true operation.run world
  -- Where the registry lets a chain do what takes admin rights, the chain has them.
  entitled : ∀ {α : Type} {admin : Bool} {steps : Run α} {world : World},
    admin = true ∨ ¬world.registry.Guarded → keeps true steps world → keeps admin steps world

def Discipline.rights : Discipline where
  keeps admin steps world := Charted (.rights admin) steps world
  quiet _ charted _ _ := charted
  binds := charted_bind
  observes := charted_observe
  scopes := charted_scope
  bears _ _ := True
  makes operation makes _ := World.charted_making
    (Law.suffers_mono (Law.suffers_of_grants Law.grants_lives) Deed.lives_of_makes) operation makes _
  entitled := charted_entitled

-- No matter which of so many ids are handed out.
abbrev Discipline.Spares (discipline : Discipline) (count : Nat) (world : World) : Prop :=
  ∀ less ≤ count, discipline.bears less world

variable {α β : Type} {discipline : Discipline} {admin : Bool} {world : World}

theorem keeps_ofExcept (result : Except Failure α) (world : World) :
    discipline.keeps admin (Run.ofExcept result) world :=
  discipline.quiet rfl (charted_ofExcept result) (charted_ofExcept result) (World.thinned_refl world)

theorem keeps_pure (a : α) (world : World) : discipline.keeps admin (pure a : Run α) world :=
  keeps_ofExcept (.ok a) world

theorem keeps_throw (failure : Failure) (world : World) : discipline.keeps admin (throw failure : Run α) world :=
  keeps_ofExcept (.error failure) world

theorem keeps_read {f : World → Run β} (rest : discipline.keeps admin (f world) world) :
    discipline.keeps admin (get >>= f) world := by
  refine discipline.binds (discipline.quiet rfl (charted_still rfl) (charted_still rfl) (World.thinned_refl world)) ?_
  intro a mid ran
  cases ran
  exact rest

theorem keeps_throw_bind (failure : Failure) (f : α → Run β) : discipline.keeps admin (throw failure >>= f) world := by
  refine discipline.binds (keeps_throw failure world) ?_
  intro a mid ran
  cases ran

theorem keeps_plain {steps : Run α} {result : Except Failure α} {last : World}
    (ran : steps.run world = some (result, last))
    (charted : ∀ law : Law, law.Suffers (fun deed => deed.plain = true) → Charted law steps world) :
    discipline.keeps admin steps world :=
  discipline.quiet ran (charted _ (Law.suffers_of_grants (Law.grants_plain admin))) (charted _ (Law.suffers_calm _))
    (World.thinned_of_thinning (charted _ World.thinning_plain) ran)

theorem keeps_plainAct {act : Act α}
    (charted : ∀ law : Law, law.Suffers (fun deed => deed.plain = true) → Charted law (Run.ofAct act) world) :
    discipline.keeps admin (Run.ofAct act) world :=
  keeps_plain rfl charted

theorem keeps_does {steps : Run α} {result : Except Failure α} (deed : Deed) (plain : deed.plain = true)
    (calm : deed.calm = true) (allowed : deed.allowed world)
    (ran : steps.run world = some (result, deed.perform world)) : discipline.keeps admin steps world :=
  keeps_plain ran fun _ suffers => charted_does deed allowed (suffers world deed ⟨plain, calm⟩) ran
    (Deed.handed_of_steady (World.steady_of_plain deed ⟨plain, calm⟩) world)

theorem keeps_tell (id : ThingId) (line : World → String) (world : World) :
    discipline.keeps admin (modify fun world => world.tell id (line world) : Run Unit) world :=
  keeps_does (.told id (line world)) rfl rfl trivial rfl

-- With given rights a discipline is a conduct.
def Discipline.conduct (discipline : Discipline) (admin : Bool) : Conduct where
  keeps steps world := discipline.keeps admin steps world
  still ran := discipline.quiet ran (charted_still ran) (charted_still ran) (World.thinned_refl _)
  binds := discipline.binds
  observes := discipline.observes
  tells := keeps_tell

theorem keeps_versioned {body : Run α} (anywhere : ∀ world, discipline.keeps admin body world) (world : World) :
    discipline.keeps admin body.versioned world :=
  discipline.binds (keeps_does .versioned rfl rfl trivial rfl) fun _ mid _ =>
    discipline.scopes (anywhere mid) (anywhere _)

theorem keeps_privileged {act : Act α} (charted : ∀ law : Law, law.Suffers Deed.lives → Charted law (Run.ofAct act) world)
    (thinned : world.Thinned (act.run world).2) : discipline.keeps true (Run.ofAct act) world :=
  discipline.quiet rfl (charted _ (Law.suffers_of_grants Law.grants_lives)) (charted _ (Law.suffers_calm _)) thinned

namespace World

theorem keeps_setProperty (id : ThingId) (property : String) (value : Datum) (world : World) :
    discipline.keeps admin (Run.ofAct (setProperty id property value)) world :=
  keeps_plainAct fun _ suffers => charted_setProperty (grants_revises suffers) id property value world

theorem keeps_unsetProperty (id : ThingId) (property : String) (world : World) :
    discipline.keeps admin (Run.ofAct (unsetProperty id property)) world :=
  keeps_plainAct fun _ suffers => charted_unsetProperty (grants_revises suffers) id property world

theorem keeps_setLocation (id place : ThingId) (world : World) :
    discipline.keeps admin (Run.ofAct (setLocation id place)) world :=
  keeps_plainAct fun _ suffers => charted_setLocation (grants_revises suffers) id place world

theorem keeps_subscribeTicks (id : ThingId) (world : World) :
    discipline.keeps admin (Run.ofAct (subscribeTicks id)) world :=
  keeps_plainAct fun _ suffers => charted_subscribeTicks suffers id world

theorem keeps_unsubscribeTicks (id : ThingId) (world : World) :
    discipline.keeps admin (Run.ofAct (unsubscribeTicks id)) world :=
  keeps_plainAct fun _ suffers => charted_unsubscribeTicks suffers id world

theorem keeps_createFrom (prototype : Option ThingId) (name description : String) {world : World}
    (spares : discipline.Spares 1 world) :
    discipline.keeps true (Run.ofAct (createFrom prototype name description)) world :=
  discipline.makes (.createFrom prototype name description) rfl (spares 1 (Nat.le_refl 1))

theorem keeps_setPrototype (id : ThingId) (prototype : Option ThingId) (world : World) :
    discipline.keeps true (Run.ofAct (setPrototype id prototype)) world :=
  keeps_privileged (fun _ suffers => charted_setPrototype (Law.grants_alters suffers fun deed alters =>
    deed.lives_of_makes (deed.makes_of_alters alters)) _ _ world) (thinned_setPrototype id prototype world)

theorem keeps_linkRooms (room : ThingId) (thereName : String) (other : ThingId) (backName : String) {world : World}
    (spares : discipline.Spares 2 world) :
    discipline.keeps true (Run.ofAct (linkRooms room thereName other backName)) world :=
  discipline.makes (.linkRooms room thereName other backName) rfl (spares 2 (Nat.le_refl 2))

theorem keeps_toast (doomed : IdSet) (world : World) : discipline.keeps true (Run.ofAct (toast doomed)) world := by
  refine keeps_privileged (fun law suffers => charted_toast ?_ ?_ doomed world) (thinned_toast doomed world)
  · exact Law.grants_revises suffers fun deed revises => deed.lives_of_makes (deed.makes_of_revises revises)
  · refine Law.grants_mono suffers ?_
    rintro deed ⟨ids, rfl⟩
    exact ⟨trivial, rfl⟩

theorem keeps_copy (id : ThingId) {world : World} (spares : discipline.Spares world.things.size world) :
    discipline.keeps true (Run.ofAct (copy id)) world :=
  discipline.makes (.copy id) rfl (spares _ (size_present world (world.connected id)))

end World

theorem keeps_privilegedDeed {steps : Run α} {result : Except Failure α} (deed : Deed) (lives : deed.lives)
    (steady : deed.steady = true) (allowed : deed.allowed world)
    (ran : steps.run world = some (result, deed.perform world)) : discipline.keeps true steps world :=
  discipline.quiet ran (charted_does deed allowed (Law.grants_lives world deed lives) ran (Deed.handed_of_steady steady world))
    (charted_does deed allowed (Law.grants_only _ world deed (deed.calm_of_steady steady)) ran
      (Deed.handed_of_steady steady world))
    (World.thinned_of_steady (World.steady_deed steady world))

theorem Script.keeps_run (context : Context) (source : String) (world : World) :
    discipline.keeps admin (Run.ofAct (run context source)) world :=
  keeps_plainAct fun _ suffers => charted_run (suits_plain suffers context) source world

end ThingWorld
