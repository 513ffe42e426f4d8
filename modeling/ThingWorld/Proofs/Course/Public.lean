import ThingWorld.Proofs.Course.Calls
import ThingWorld.Proofs.Course.Seed
import ThingWorld.Proofs.Course.Sound
namespace ThingWorld

def World.send (start : ThingId) (emission : Emission) (exclude : List ThingId) : Run Bool := do
  (← get).engine.emit start emission exclude

def World.roam (route : Route) (start : ThingId) (visited : IdSet) (visit : ThingId → Run Bool) : Run Walk.Walked := do
  Walk.walk (← get).engine.steps route start visited visit

-- `hand` says whether things are changed by hand, too.
inductive Built (hand : Bool) : {α : Type} → Run α → Prop where
  | gives {α : Type} (result : Except Failure α) : Built hand (Run.ofExcept result)
  | calls {α : Type} (operation : Operation α) (kept : operation.byHand = true → hand = true) :
      Built hand operation.run
  | sends (start : ThingId) (emission : Emission) (exclude : List ThingId)
      (hooks : ∀ hook, emission.onSuccess = some hook ∨ emission.onFailure = some hook →
        Built hand (hook emission.event)) :
      Built hand (World.send start emission exclude)
  | roams (route : Route) (start : ThingId) (visited : IdSet) {visit : ThingId → Run Bool}
      (each : ∀ id, Built hand (visit id)) : Built hand (World.roam route start visited visit)
  | reads {α : Type} {f : World → Run α} (then' : ∀ world, Built hand (f world)) : Built hand (get >>= f)
  | follows {α β : Type} {x : Run α} {f : α → Run β} (first : Built hand x) (rest : ∀ a, Built hand (f a)) :
      Built hand (x >>= f)
  | observes {α : Type} {steps : Run α} (seen : Built hand steps) : Built hand steps.observe
  | scopes {α : Type} {body : Run α} (inner : Built hand body) : Built hand body.scope
  | versions {α : Type} {body : Run α} (inner : Built hand body) : Built hand body.versioned

def Deed.within (hand : Bool) (deed : Deed) : Prop :=
  deed.lives ∨ deed.byHand = true ∧ hand = true

theorem Deed.later_of_within {hand : Bool} (deed : Deed) (within : deed.within hand) : deed.later := by
  rcases within with lives | ⟨byHand, _⟩
  · exact deed.later_of_lives lives
  · cases deed <;> trivial

abbrev Law.living (hand : Bool) : Law := Law.only (Deed.within hand)

namespace World

variable {hand : Bool}

theorem charted_living {α : Type} {admin : Bool} {steps : Run α} {world : World}
    (charted : Charted (.rights admin) steps world) : Charted (.living hand) steps world :=
  charted_mono charted fun _ holds deed member => .inl (holds.1 deed member)

theorem grants_living : (Law.living hand).Grants Deed.lives :=
  Law.grants_mono (Law.grants_only (Deed.within hand)) fun _ lives => .inl lives

theorem plain_lives (deed : Deed) (plain : deed.plain = true) : deed.lives := by
  cases deed <;> trivial

end World

-- What anybody's rights allow, and perhaps what is done by hand.
def Discipline.living (hand : Bool) : Discipline where
  keeps _ steps world := Charted (.living hand) steps world
  quiet _ charted _ _ := World.charted_living charted
  binds := charted_bind
  observes := charted_observe
  scopes := charted_scope
  bears _ _ := True
  makes operation makes _ := World.charted_making
    (Law.suffers_mono (Law.suffers_of_grants World.grants_living) Deed.lives_of_makes) operation makes _
  entitled _ keeps := keeps

namespace World

variable {hand admin : Bool}

theorem upholds_living (world : World) : world.engine.Upholds (.living hand) false where
  walks each route start visited :=
    Engine.keeps_walk (fun _ => charted_exhausted) each world.engine.steps route start visited
  reacts id event mid := by
    have reacts : Charted (.rights false) (world.engine.react id event) mid :=
      Engine.charted_react (sound_engine world) id event mid
    exact charted_living reacts
  checks id event mid := by
    have checks : Charted (.rights false) (world.engine.reactToCheck id event) mid :=
      Engine.charted_reactToCheck (sound_engine world) id event mid
    exact charted_living checks

theorem charted_operation {α : Type} (operation : Operation α) (kept : operation.byHand = true → hand = true)
    (world : World) : Charted (.living hand) operation.run world := by
  have lives : (Law.living hand).Suffers Deed.lives := Law.suffers_of_grants grants_living
  have makes : (Law.living hand).Suffers Deed.makes := Law.suffers_mono lives Deed.lives_of_makes
  have revises : (Law.living hand).Grants Deed.revises := Law.grants_revises makes Deed.makes_of_revises
  have alters : (Law.living hand).Grants Deed.alters := Law.grants_alters makes Deed.makes_of_alters
  have vanishes : (Law.living hand).Grants fun deed => ∃ ids, deed = .vanished ids :=
    Law.grants_mono grants_living fun deed ⟨ids, same⟩ => same ▸ trivial
  have plain : (Law.living hand).Suffers fun deed => deed.plain = true := Law.suffers_mono lives plain_lives
  cases operation with
  | create name description => exact charted_create makes name description world
  | createFrom prototype name description => exact charted_createFrom makes prototype name description world
  | linkRooms room thereName other backName => exact charted_linkRooms makes room thereName other backName world
  | setProperty id property value => exact charted_setProperty revises id property value world
  | unsetProperty id property => exact charted_unsetProperty revises id property world
  | setPrototype id prototype => exact charted_setPrototype alters id prototype world
  | setAssociation id relation target multi => exact charted_setAssociation revises id relation target multi world
  | dissociate id relation target => exact charted_dissociate revises id relation target world
  | dissociateAll id relation => exact charted_dissociateAll revises id relation world
  | dissociateFrom id target => exact charted_dissociateFrom revises id target world
  | setLocation id place => exact charted_setLocation revises id place world
  | copy id => exact charted_copy makes id world
  | copySet id members => exact charted_copySet makes id members world
  | toast doomed => exact charted_toast revises vanishes doomed world
  | subscribeTicks id => exact charted_subscribeTicks plain id world
  | unsubscribeTicks id => exact charted_unsubscribeTicks plain id world
  | attach id listener => exact charted_does (.attached id listener) trivial (grants_living world _ trivial) rfl
  | detach id => exact charted_does (.detached id) trivial (grants_living world _ trivial) rfl
  | setClockRunning running => exact charted_does (.ran running) trivial (grants_living world _ trivial) rfl
  | setClockInterval interval => exact charted_does (.rated interval) trivial (grants_living world _ trivial) rfl
  | flush => exact charted_flush makes world
  | dispatch context line => exact charted_living (charted_dispatch context line world)
  | command actor line => exact charted_living (charted_command actor line world)
  | tick =>
    have charted : Charted (.rights false) World.tick world := charted_tick world
    exact charted_living charted
  | touch id => exact charted_does (.touched id) trivial (grants_living world _ trivial) rfl
  | tell id line => exact charted_does (.told id line) trivial (grants_living world _ trivial) rfl
  | react id event =>
    exact charted_read ((upholds_living world).reacts id event world)
  | reactToCheck id event =>
    exact charted_read ((upholds_living world).checks id event world)
  | emitFailure actor start name forActor forOthers args =>
    exact charted_read (Engine.keeps_emitFailure (upholds_living world) actor start name forActor forOthers args world)
  | edit id f keeps =>
    refine charted_edit (.edited id f) rfl (fun present => ⟨present, keeps⟩) ?_
    exact Law.grants_only (Deed.within hand) world _ (.inr ⟨rfl, kept rfl⟩)

theorem keeps_built {discipline : Discipline} {α : Type} {steps : Run α}
    (operations : ∀ {α : Type} (operation : Operation α), (operation.byHand = true → hand = true) →
      ∀ world, discipline.keeps admin operation.run world)
    (upholds : ∀ world : World, world.engine.Upholds discipline admin) (built : Built hand steps) :
    ∀ world, discipline.keeps admin steps world := by
  induction built with
  | gives result => exact keeps_ofExcept result
  | calls operation kept => exact operations operation kept
  | sends start emission exclude hooks ih =>
    exact fun world => keeps_read (Engine.keeps_emit (upholds world) start emission exclude ih world)
  | roams route start visited each ih =>
    exact fun world => keeps_read ((upholds world).walks ih route start visited world)
  | reads then' ih => exact fun world => keeps_read (ih world world)
  | follows first rest ihFirst ihRest => exact fun world => discipline.binds (ihFirst world) fun a mid _ => ihRest a mid
  | observes seen ih => exact fun world => discipline.observes (ih world)
  | scopes inner ih => exact fun world => discipline.scopes (ih world) (ih _)
  | versions inner ih => exact keeps_versioned ih

theorem charted_built {α : Type} {steps : Run α} (built : Built hand steps) :
    ∀ world, Charted (.living hand) steps world :=
  keeps_built charted_operation upholds_living built

end World
end ThingWorld
