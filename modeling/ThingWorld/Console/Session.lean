import ThingWorld.Clock
namespace ThingWorld.Console

structure Session where
  clock : Clock
  me : ThingId
  -- When the clock was started, in milliseconds of a time that never goes back.
  started : Nat

def findPlayer? (world : World) (name : String) : Option ThingId :=
  let kind := world.prototype? Standard.person
  world.ids.find? fun id =>
    ((world.get? id).map fun thing => thing.prototype) == some kind && world.answersTo id name

def makePlayer (name : String) : Act ThingId := do
  let id ← World.createFrom ((← get).prototype? Standard.person) name ""
  World.setLocation id (← get).info.lobby
  return id

def seat (name : String) (admin : Bool) : Act ThingId := do
  let id ← match findPlayer? (← get) name with
    | some id => pure id
    | none => makePlayer name
  if admin then World.setProperty id Property.admin (.flag true)
  modify fun world => world.attach id ⟨admin, false⟩
  return id

namespace Session

-- What was heard since the last time, in order.
def takeHeard (session : Session) : List String × Session :=
  let world := session.clock.world
  (world.heard.reverse.map Prod.snd,
    { session with clock := { session.clock with world := { world with heard := [] } } })

-- The failure of a command was heard; it ends nothing.
def enter (session : Session) (line : String) : Option Session :=
  (session.clock.handle (World.command session.me line)).map fun (_, clock) =>
    { session with clock := clock }

-- Lets the clock go on until `time`.
def waitUntil (session : Session) (time : Nat) : Option Session :=
  (session.clock.sleep (time - session.started - session.clock.now)).map fun clock =>
    { session with clock := clock }

-- Hands the world to its clock and looks around. Nothing when the world would not come to an end.
def start (world : World) (settings : ClockSettings) (name : String) (admin : Bool) (time : Nat) :
    Option (Except Failure Session × World) := do
  let (result, clock) ← (Clock.start world settings).handle (seat name admin : Run ThingId)
  match result with
  | .error failure => some (.error failure, clock.world)
  | .ok me =>
    let session ← enter ⟨clock, me, time⟩ "look"
    some (.ok session, session.clock.world)

inductive Typed where
  | blank
  | quit
  | command (line : String)
deriving DecidableEq, Repr

def typed (line : String) : Typed :=
  let line := Text.trimmed line
  if Text.asciiLower line == "quit" then .quit
  else if line.isEmpty then .blank
  else .command line

def leave (session : Session) : World :=
  let clock := session.clock
  { clock with world := clock.world.detach session.me }.shutdown

end Session
end ThingWorld.Console
