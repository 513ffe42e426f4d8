import ThingWorld.Failure
import ThingWorld.Store.Medium
namespace ThingWorld

structure Store where
  medium : Medium
  -- Calls that took effect, the latest first.
  log : List StoreCall
  -- Calls that were issued, the latest first, whether they took effect or not.
  asked : List StoreCall
  refuses : List StoreCall → StoreCall → Bool

namespace Store

def never : List StoreCall → StoreCall → Bool := fun _ _ => false

def ofMedium (medium : Medium) : Store := ⟨medium, [], [], never⟩

def inMemory : Store := ofMedium (.table .empty)

def onTree : Store := ofMedium (.tree .empty)

def refusal : Failure := .internal "store refused the write"

def perform (store : Store) (call : StoreCall) : Store :=
  { store with medium := store.medium.apply call, log := call :: store.log }

-- Issues a call: it takes effect, or it is refused.
def issue (store : Store) (call : StoreCall) : Except Failure Unit × Store :=
  let noted := { store with asked := call :: store.asked }
  if store.refuses store.asked call then (.error refusal, noted) else (.ok (), noted.perform call)

def get? (store : Store) (id : ThingId) : Option Bytes := store.medium.get? id

def ids (store : Store) : List ThingId := store.medium.ids

def info (store : Store) : Option Bytes := store.medium.info

def puts (store : Store) : Nat := store.log.countP StoreCall.isPut

def thingWrites (calls : List StoreCall) : Nat := calls.countP StoreCall.isThingWrite

-- From now on `more` writes and deletions of things are accepted and all later ones refused.
def failAfter (store : Store) (more : Nat) : Store :=
  let allowed := thingWrites store.asked + more
  { store with refuses := fun asked call => call.isThingWrite && decide (allowed ≤ thingWrites asked) }

def neverFail (store : Store) : Store := { store with refuses := never }

end Store
end ThingWorld
