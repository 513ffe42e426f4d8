import ThingWorld.Event
namespace ThingWorld

structure Tally where
  ticks : Nat
  reactions : Nat
  deferred : Nat
  -- Parked events that a later one replaced before they ran.
  superseded : Nat
deriving DecidableEq, Repr

structure Schedule where
  tick : Nat
  reacted : IdSet
  pending : Std.ExtTreeMap ThingId Event
  checking : IdSet
  subscribers : IdSet
  tally : Tally
deriving DecidableEq

namespace Schedule

def start : Schedule := ⟨0, ∅, ∅, ∅, ∅, ⟨0, 0, 0, 0⟩⟩

def subscribe (schedule : Schedule) (id : ThingId) : Schedule :=
  { schedule with subscribers := schedule.subscribers.insert id }

def unsubscribe (schedule : Schedule) (id : ThingId) : Schedule :=
  { schedule with subscribers := schedule.subscribers.erase id }

def forget (schedule : Schedule) (id : ThingId) : Schedule :=
  { schedule with
    subscribers := schedule.subscribers.erase id
    pending := schedule.pending.erase id
    reacted := schedule.reacted.erase id
    checking := schedule.checking.erase id }

def hasReacted (schedule : Schedule) (id : ThingId) : Bool :=
  schedule.reacted.contains id

def isChecking (schedule : Schedule) (id : ThingId) : Bool :=
  schedule.checking.contains id

def countReaction (tally : Tally) : Tally :=
  { tally with reactions := tally.reactions + 1 }

def countDeferral (replaced : Bool) (tally : Tally) : Tally :=
  { tally with
    deferred := tally.deferred + 1
    superseded := if replaced then tally.superseded + 1 else tally.superseded }

def countTick (tally : Tally) : Tally :=
  { tally with ticks := tally.ticks + 1 }

def claim (schedule : Schedule) (id : ThingId) : Schedule :=
  { schedule with reacted := schedule.reacted.insert id, tally := countReaction schedule.tally }

def park (schedule : Schedule) (id : ThingId) (event : Event) : Schedule :=
  { schedule with
    pending := schedule.pending.insert id event
    tally := countDeferral (schedule.pending.contains id) schedule.tally }

def begin (schedule : Schedule) (id : ThingId) (event : Event) : Bool × Schedule :=
  if schedule.hasReacted id then (false, schedule.park id event) else (true, schedule.claim id)

-- Answering a check takes the reaction of this tick too.
def startCheck (schedule : Schedule) (id : ThingId) : Schedule :=
  { schedule.claim id with checking := schedule.checking.insert id }

def endCheck (schedule : Schedule) (id : ThingId) : Schedule :=
  { schedule with checking := schedule.checking.erase id }

-- A new tick: nothing has reacted, and what was parked is handed out, ascending by thing.
def advance (schedule : Schedule) : List (ThingId × Event) × Schedule :=
  (schedule.pending.toList,
    { schedule with
      tick := schedule.tick + 1
      reacted := ∅
      pending := ∅
      tally := countTick schedule.tally })

end Schedule
end ThingWorld
