import ThingWorld.Thing
namespace ThingWorld

structure Info where
  name : String
  nextId : ThingId
  limbo : ThingId
  lobby : ThingId
  hall : ThingId
  prototypes : Std.ExtTreeMap String ThingId
  clockInterval : UInt64
  schema : UInt8
deriving DecidableEq

namespace Info

def currentSchema : UInt8 := 1

def fresh (name : String) (clockInterval : UInt64) : Info :=
  ⟨name, 0, 0, 0, 0, ∅, clockInterval, currentSchema⟩

def isWellKnown (info : Info) (id : ThingId) : Bool :=
  id == info.limbo || id == info.lobby || id == info.hall || info.prototypes.values.contains id

end Info

namespace Standard

def thing := "thing"
def room := "room"
def link := "link"
def person := "person"

end Standard

structure Limits where
  substitutionDepth : Nat
  scriptLength : Nat
  scriptActions : Nat
deriving DecidableEq, Repr

def Limits.standard : Limits := ⟨8, 512, 32⟩

end ThingWorld
