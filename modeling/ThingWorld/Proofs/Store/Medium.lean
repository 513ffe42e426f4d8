import ThingWorld.Proofs.Snapshot.RoundTrip
import ThingWorld.Store
namespace ThingWorld

namespace KeyTree

theorem keyId_thingKey (id : ThingId) : keyId? (thingKey id) = some id := by
  have long : (thingKey id).length = 8 := by
    rw [thingKey, List.length_reverse]
    exact Snapshot.writeWord_length 8 id.toNat
  have read := Snapshot.read_uint64 id []
  rw [List.append_nil] at read
  rw [keyId?, if_pos long, thingKey, List.reverse_reverse, read]
  rfl

theorem thingKey_keyId {key : Bytes} {id : ThingId} (named : keyId? key = some id) : thingKey id = key := by
  rw [keyId?] at named
  split at named
  · rename_i long
    obtain ⟨n, read, written, small⟩ := Snapshot.write_read_word 8 ((List.length_reverse).trans long)
    rw [Snapshot.readUInt64, read] at named
    simp only [Option.bind_eq_bind, Option.bind_some, Option.map_some, Option.some.injEq] at named
    have same : (UInt64.ofNat n).toNat = n := UInt64.toNat_ofNat_of_lt small
    rw [← named, thingKey, Snapshot.writeUInt64, same, written, List.reverse_reverse]
  · cases named

theorem thingKey_inj {id other : ThingId} : thingKey id = thingKey other ↔ id = other := by
  refine ⟨fun same => ?_, congrArg thingKey⟩
  have ids := congrArg keyId? same
  rw [keyId_thingKey, keyId_thingKey] at ids
  exact Option.some.inj ids

end KeyTree

namespace Medium

variable (medium : Medium) (id other : ThingId) (blob : Bytes)

@[simp]
theorem get_put : (medium.apply (.put id blob)).get? other = if id = other then some blob else medium.get? other := by
  cases medium with
  | table contents => simp [apply, get?, IdTable.apply, IdTable.get?, Std.ExtTreeMap.getElem?_insert]
  | tree contents =>
    simp [apply, get?, KeyTree.apply, KeyTree.get?, Std.ExtTreeMap.getElem?_insert, KeyTree.thingKey_inj]

@[simp]
theorem get_delete : (medium.apply (.delete id)).get? other = if id = other then none else medium.get? other := by
  cases medium with
  | table contents => simp [apply, get?, IdTable.apply, IdTable.get?, Std.ExtTreeMap.getElem?_erase]
  | tree contents =>
    simp [apply, get?, KeyTree.apply, KeyTree.get?, Std.ExtTreeMap.getElem?_erase, KeyTree.thingKey_inj]

@[simp]
theorem get_putInfo : (medium.apply (.putInfo blob)).get? id = medium.get? id := by
  cases medium <;> rfl

@[simp]
theorem info_put : (medium.apply (.put id blob)).info = medium.info := by
  cases medium <;> rfl

@[simp]
theorem info_delete : (medium.apply (.delete id)).info = medium.info := by
  cases medium <;> rfl

@[simp]
theorem info_putInfo : (medium.apply (.putInfo blob)).info = some blob := by
  cases medium with
  | table contents => rfl
  | tree contents => exact Std.ExtTreeMap.getElem?_insert_self

@[simp]
theorem get_deleteAll : (medium.apply .deleteAll).get? id = none := by
  cases medium <;> exact Std.ExtTreeMap.getElem?_empty

@[simp]
theorem info_deleteAll : (medium.apply .deleteAll).info = none := by
  cases medium with
  | table contents => rfl
  | tree contents => exact Std.ExtTreeMap.getElem?_empty

@[simp]
theorem apply_flush : medium.apply .flush = medium := by
  cases medium <;> rfl

@[simp]
theorem mem_ids : id ∈ medium.ids ↔ ∃ blob, medium.get? id = some blob := by
  rw [← Option.isSome_iff_exists]
  cases medium with
  | table contents =>
    show id ∈ contents.things.keys ↔ _
    rw [Std.ExtTreeMap.mem_keys, Std.ExtTreeMap.mem_iff_isSome_getElem?]
    rfl
  | tree contents =>
    show id ∈ contents.things.keys.filterMap KeyTree.keyId? ↔ (contents.things[KeyTree.thingKey id]?).isSome = true
    rw [List.mem_filterMap, ← Std.ExtTreeMap.mem_iff_isSome_getElem?]
    refine ⟨?_, fun held => ⟨_, Std.ExtTreeMap.mem_keys.mpr held, KeyTree.keyId_thingKey id⟩⟩
    rintro ⟨key, listed, named⟩
    rw [KeyTree.thingKey_keyId named]
    exact Std.ExtTreeMap.mem_keys.mp listed

end Medium

namespace Store

variable {store : Store} {call : StoreCall}

theorem mem_ids (store : Store) (id : ThingId) : id ∈ store.ids ↔ ∃ blob, store.get? id = some blob :=
  store.medium.mem_ids id

-- A call takes effect and has its result, or it is refused and all but its record is as before.
theorem issue_cases (store : Store) (call : StoreCall) :
    (store.refuses store.asked call = false ∧ (store.issue call).1 = .ok () ∧
        (store.issue call).2.medium = store.medium.apply call) ∨
      (store.refuses store.asked call = true ∧ (store.issue call).1 = .error refusal ∧
        (store.issue call).2.medium = store.medium) := by
  rw [issue]
  cases refused : store.refuses store.asked call with
  | false => exact .inl ⟨rfl, rfl, rfl⟩
  | true => exact .inr ⟨rfl, rfl, rfl⟩

theorem issue_refuses (store : Store) (call : StoreCall) : (store.issue call).2.refuses = store.refuses := by
  rw [issue]
  split <;> rfl

end Store
end ThingWorld
