import ThingWorld.Engine.Dispatch
import ThingWorld.Proofs.Course.Numbering
namespace ThingWorld

inductive Operation : Type → Type where
  | create (name description : String) : Operation ThingId
  | createFrom (prototype : Option ThingId) (name description : String) : Operation ThingId
  | linkRooms (room : ThingId) (thereName : String) (other : ThingId) (backName : String) :
      Operation (ThingId × ThingId)
  | setProperty (id : ThingId) (property : String) (value : Datum) : Operation Unit
  | unsetProperty (id : ThingId) (property : String) : Operation (Option Datum)
  | setPrototype (id : ThingId) (prototype : Option ThingId) : Operation Unit
  | setAssociation (id : ThingId) (relation : String) (target : ThingId) (multi : Bool) : Operation Unit
  | dissociate (id : ThingId) (relation : String) (target : ThingId) : Operation Unit
  | dissociateAll (id : ThingId) (relation : String) : Operation Unit
  | dissociateFrom (id target : ThingId) : Operation Unit
  | setLocation (id place : ThingId) : Operation Unit
  | copy (id : ThingId) : Operation ThingId
  | copySet (id : ThingId) (members : IdSet) : Operation ThingId
  | toast (doomed : IdSet) : Operation Unit
  | subscribeTicks (id : ThingId) : Operation Unit
  | unsubscribeTicks (id : ThingId) : Operation Unit
  | attach (id : ThingId) (listener : Listener) : Operation Unit
  | detach (id : ThingId) : Operation Unit
  | setClockRunning (running : Bool) : Operation Unit
  | setClockInterval (interval : UInt64) : Operation Unit
  | flush : Operation CommitStats
  | dispatch (context : Context) (line : String) : Operation (Option Script.Value)
  | command (actor : ThingId) (line : String) : Operation Unit
  | tick : Operation Engine.TickOutcome
  | touch (id : ThingId) : Operation Unit
  | tell (id : ThingId) (line : String) : Operation Unit
  | react (id : ThingId) (event : Event) : Operation Unit
  | reactToCheck (id : ThingId) (event : Event) : Operation Unit
  | emitFailure (actor : ThingId) (start : Option ThingId) (name forActor : String) (forOthers : Option String)
      (args : List String) : Operation Failure
  -- A thing is changed by hand: its properties, edges or prototype, whatever they become.
  | edit (id : ThingId) (f : Thing → Thing)
      (keeps : ∀ thing, (f thing).id = thing.id ∧ (f thing).schema = thing.schema) : Operation Unit

namespace Operation

def run {α : Type} : Operation α → Run α
  | create name description => Run.ofAct (World.create name description)
  | createFrom prototype name description => Run.ofAct (World.createFrom prototype name description)
  | linkRooms room thereName other backName => Run.ofAct (World.linkRooms room thereName other backName)
  | setProperty id property value => Run.ofAct (World.setProperty id property value)
  | unsetProperty id property => Run.ofAct (World.unsetProperty id property)
  | setPrototype id prototype => Run.ofAct (World.setPrototype id prototype)
  | setAssociation id relation target multi => Run.ofAct (World.setAssociation id relation target multi)
  | dissociate id relation target => Run.ofAct (World.dissociate id relation target)
  | dissociateAll id relation => Run.ofAct (World.dissociateAll id relation)
  | dissociateFrom id target => Run.ofAct (World.dissociateFrom id target)
  | setLocation id place => Run.ofAct (World.setLocation id place)
  | copy id => Run.ofAct (World.copy id)
  | copySet id members => Run.ofAct (World.copySet id members)
  | toast doomed => Run.ofAct (World.toast doomed)
  | subscribeTicks id => Run.ofAct (World.subscribeTicks id)
  | unsubscribeTicks id => Run.ofAct (World.unsubscribeTicks id)
  | attach id listener => modify fun world => world.attach id listener
  | detach id => modify fun world => world.detach id
  | setClockRunning running => modify fun world => world.setClockRunning running
  | setClockInterval interval => modify fun world => world.setClockInterval interval
  | flush => Run.ofAct World.flush
  | dispatch context line => World.dispatch context line
  | command actor line => World.command actor line
  | tick => World.tick
  | touch id => modify fun world => world.touch id
  | tell id line => modify fun world => world.tell id line
  | react id event => get >>= fun world => world.engine.react id event
  | reactToCheck id event => get >>= fun world => world.engine.reactToCheck id event
  | emitFailure actor start name forActor forOthers args =>
    get >>= fun world => world.engine.emitFailure actor start name forActor forOthers args
  | edit id f _ => Run.ofAct (World.edit id f)

def byHand {α : Type} : Operation α → Bool
  | edit _ _ _ => true
  | _ => false

-- Operations that make things.
def makes {α : Type} : Operation α → Bool
  | create _ _ => true
  | createFrom _ _ _ => true
  | linkRooms _ _ _ _ => true
  | copy _ => true
  | copySet _ _ => true
  | _ => false

-- The ids of new things that an operation gives back.
def made {α : Type} : Operation α → α → List ThingId
  | create _ _, id => [id]
  | createFrom _ _ _, id => [id]
  | linkRooms _ _ _ _, (there, back) => [there, back]
  | copy _, id => [id]
  | copySet _ _, id => [id]
  | _, _ => []

-- How many ids an operation hands out at most.
def takes {α : Type} (operation : Operation α) (world : World) : Nat :=
  match operation with
  | create _ _ => 1
  | createFrom _ _ _ => 1
  | linkRooms _ _ _ _ => 2
  | copy id => (world.present (world.connected id)).size
  | copySet _ members => (world.present members).size
  | _ => 0

end Operation

def Verb.takes (verb : Verb) (world : World) : Nat :=
  match verb with
  | create => 1
  | link => 2
  | copy => world.things.size
  | _ => 0

end ThingWorld
