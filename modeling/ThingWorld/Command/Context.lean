import ThingWorld.Event
import ThingWorld.Reference
import ThingWorld.Script.Value
namespace ThingWorld

structure Context where
  actor : ThingId
  -- The thing whose template runs; the actor when there is none.
  this : ThingId
  admin : Bool
  depth : Nat
  event : Option Event
  -- The last value that a script or a creation left.
  result : Option Script.Value
  -- The word whose template runs; its lines do not find that template again.
  running : Option String
deriving DecidableEq

namespace Context

def of (actor : ThingId) (admin : Bool) : Context := ⟨actor, actor, admin, 0, none, none, none⟩

-- The thing that answers an event acts.
def forReaction (this : ThingId) (event : Event) (admin : Bool) : Context :=
  { of this admin with event := some event }

def child (context : Context) (this : ThingId) (word : String) : Context :=
  { context with this := this, depth := context.depth + 1, running := some word }

def deeper (context : Context) : Context :=
  { context with depth := context.depth + 1 }

def withResult (context : Context) (result : Option Script.Value) : Context :=
  { context with result := result }

def eventSource (context : Context) : ThingId :=
  (context.event.map Event.source).getD context.actor

def view (context : Context) : Viewpoint :=
  ⟨context.actor, context.this, context.event.map Event.source⟩

-- Whether the chain may change a thing.
def controls (context : Context) (id : ThingId) : Bool :=
  context.admin || id == context.this

def eventArgs (context : Context) : List String :=
  (context.event.map Event.args).getD []

end Context
end ThingWorld
