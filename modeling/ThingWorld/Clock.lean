import ThingWorld.Engine.Dispatch
namespace ThingWorld

structure ClockSettings where
  enabled : Bool
  -- Ticks that one wake-up may add to its first.
  maxDrain : Nat
deriving DecidableEq, Repr

def ClockSettings.standard : ClockSettings := ⟨true, 16⟩

structure ClockStats where
  running : Bool
  interval : UInt64
  tick : Nat
  version : Nat
  pending : Nat
  tally : Tally
deriving DecidableEq, Repr

def World.clockStats (world : World) : ClockStats where
  running := world.clockRunning
  interval := world.info.clockInterval
  tick := world.schedule.tick
  version := world.version
  pending := world.schedule.pending.size
  tally := world.schedule.tally

-- A clock never waits less than a millisecond.
def World.pause (world : World) : Nat := max world.info.clockInterval.toNat 1

structure Clock where
  world : World
  maxDrain : Nat
  now : Nat
  due : Nat
  -- The rate of the world when the clock last looked.
  interval : UInt64

namespace Clock

def start (world : World) (settings : ClockSettings) : Clock :=
  let world := world.setClockRunning settings.enabled
  ⟨world, settings.maxDrain, 0, world.pause, world.info.clockInterval⟩

def running (clock : Clock) : Bool := clock.world.clockRunning

def reset (clock : Clock) : Clock :=
  { clock with due := clock.now + clock.world.pause }

def lookAround (wasRunning : Bool) (clock : Clock) : Clock :=
  let rate := clock.world.info.clockInterval
  let clock := if rate = clock.interval then clock else { clock with interval := rate }.reset
  if !wasRunning && clock.running then clock.reset else clock

def handle {α : Type} (clock : Clock) (request : Run α) : Option (Except Failure α × Clock) :=
  (request.run clock.world).map fun (result, world) =>
    (result, { clock with world := world }.lookAround clock.running)

-- Ticks until no reaction is parked or a tick fails, at most `more` times after the first.
def drain : Nat → Run (List (Except Failure Engine.TickOutcome))
  | 0 => do return [← World.tick.observe]
  | more + 1 => do
    match ← World.tick.observe with
    | .error failure => return [.error failure]
    | .ok outcome =>
      if outcome.pending = 0 then return [.ok outcome]
      else return .ok outcome :: (← drain more)

def isDue (clock : Clock) : Bool := clock.running && clock.due ≤ clock.now

def wake (clock : Clock) : Option Clock :=
  ((drain clock.maxDrain).run clock.world).map fun (_, world) =>
    ({ clock with world := world }.reset).lookAround clock.running

def advance (clock : Clock) (time : Nat) : Clock :=
  { clock with now := max clock.now time }

-- Wake-ups until `time`; each is later than the one before.
def runUntil (time : Nat) : Nat → Clock → Option Clock
  | 0, clock => some (clock.advance time)
  | wakes + 1, clock =>
    if (clock.advance time).isDue then
      match (clock.advance clock.due).wake with
      | some clock => runUntil time wakes clock
      | none => none
    else some (clock.advance time)

def sleep (clock : Clock) (pause : Nat) : Option Clock :=
  clock.runUntil (clock.now + pause) (pause + 1)

def shutdown (clock : Clock) : World :=
  (World.flush.run clock.world).2

def setRunning (running : Bool) : Run Unit :=
  modify fun world => world.setClockRunning running

-- The new rate is written at once.
def setInterval (interval : UInt64) : Run Unit := do
  modify fun world => world.setClockInterval interval
  let _ ← World.flush

end Clock
end ThingWorld
