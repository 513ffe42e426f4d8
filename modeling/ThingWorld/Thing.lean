import Std.Data.ExtTreeMap
import Std.Data.ExtTreeSet
import ThingWorld.Datum
import ThingWorld.Text.Case
namespace ThingWorld

abbrev ThingId := UInt64

abbrev IdSet := Std.ExtTreeSet ThingId

namespace Relation

def location := "location"
def linkOwner := "linkOwner"
def otherLink := "otherLink"

end Relation

structure Edge where
  property : String
  target : ThingId
deriving DecidableEq, Repr

def Edge.order : Edge → Edge → Ordering :=
  compareLex (compareOn Edge.property) (compareOn Edge.target)

instance : Ord Edge := ⟨Edge.order⟩

instance : Std.TransOrd Edge :=
  inferInstanceAs (Std.TransCmp (compareLex (compareOn Edge.property) (compareOn Edge.target)))

instance : Std.LawfulEqOrd Edge where
  eq_of_compare {a b} same := by
    have same : compareLex (compareOn Edge.property) (compareOn Edge.target) a b = .eq := same
    obtain ⟨named, aimed⟩ := compareLex_eq_eq.mp same
    cases a
    cases b
    simp_all [compareOn]

abbrev Properties := Std.ExtTreeMap String Datum

structure Thing where
  id : ThingId
  prototype : Option ThingId
  properties : Properties
  edges : List Edge
  schema : UInt8
deriving DecidableEq

def Thing.currentSchema : UInt8 := 1

namespace Thing

def fresh (id : ThingId) (prototype : Option ThingId) : Thing :=
  ⟨id, prototype, ∅, [], currentSchema⟩

-- An own value; what is inherited is not looked at.
def own? (thing : Thing) (property : String) : Option Datum :=
  thing.properties[property]?

def ownFlag (thing : Thing) (property : String) : Bool :=
  (thing.own? property).any Datum.holds

def name (thing : Thing) : String :=
  ((thing.own? Property.name).map Datum.asText).getD ""

-- Targets of the edges called `relation`, oldest first.
def targets (thing : Thing) (relation : String) : List ThingId :=
  (thing.edges.filter fun edge => edge.property == relation).map Edge.target

def firstTarget? (thing : Thing) (relation : String) : Option ThingId :=
  (thing.targets relation).head?

def edgeSet (thing : Thing) : Std.ExtTreeSet Edge :=
  Std.ExtTreeSet.ofList thing.edges

def write (thing : Thing) (property : String) (value : Datum) : Thing :=
  { thing with properties := thing.properties.insert property value }

def erase (thing : Thing) (property : String) : Thing :=
  { thing with properties := thing.properties.erase property }

-- The new edge goes last.
def addEdge (thing : Thing) (edge : Edge) : Thing :=
  { thing with edges := thing.edges ++ [edge] }

def keepEdges (thing : Thing) (keep : Edge → Bool) : Thing :=
  { thing with edges := thing.edges.filter keep }

end Thing

def commandProperty (word : String) : String :=
  Property.commandStem ++ Text.asciiLower word

def reactionProperty (event : String) : String :=
  Property.reactionStem ++ Text.asciiLower event

def showId (id : ThingId) : String :=
  "%" ++ Text.showNat id.toNat

end ThingWorld
