import ThingWorld.Store
namespace ThingWorld

namespace Snapshot

def writeBlob (blob : Bytes) : Bytes := writeLength blob.length ++ blob

def readBlob : Reader Bytes := fun bytes => do
  let (n, bytes) ← readLength bytes
  if bytes.length < n then none else some (bytes.take n, bytes.drop n)

end Snapshot

namespace KeyTree

def ofTable (table : IdTable) : KeyTree where
  things := Std.ExtTreeMap.ofList (table.things.toList.map fun (id, blob) => (thingKey id, blob))
  world := Std.ExtTreeMap.ofList ((table.info.map fun blob => (infoKey, blob)).toList)

def writeEntries (entries : Std.ExtTreeMap Bytes Bytes) : Bytes :=
  Snapshot.writeMany (Snapshot.writePair Snapshot.writeBlob Snapshot.writeBlob) entries.toList

def readEntries : Snapshot.Reader (Std.ExtTreeMap Bytes Bytes) := fun bytes => do
  let (entries, bytes) ← Snapshot.readMany (Snapshot.readPair Snapshot.readBlob Snapshot.readBlob) bytes
  some (Std.ExtTreeMap.ofList entries, bytes)

def toBytes (tree : KeyTree) : Bytes := writeEntries tree.things ++ writeEntries tree.world

-- Nothing may follow the entries.
def ofBytes? (bytes : Bytes) : Option KeyTree := do
  let (things, bytes) ← readEntries bytes
  let (world, bytes) ← readEntries bytes
  if bytes.isEmpty then some ⟨things, world⟩ else none

end KeyTree

namespace Store

def tree (store : Store) : KeyTree :=
  match store.medium with
  | .tree tree => tree
  | .table table => .ofTable table

def archive (store : Store) : Bytes := store.tree.toBytes

def ofArchive? (bytes : Bytes) : Option Store :=
  (KeyTree.ofBytes? bytes).map fun tree => ofMedium (.tree tree)

end Store
end ThingWorld
