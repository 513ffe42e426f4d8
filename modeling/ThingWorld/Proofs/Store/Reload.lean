import ThingWorld.Proofs.Store.Writing
import ThingWorld.World.Open
namespace ThingWorld

namespace Medium

theorem nodup_ids (medium : Medium) : medium.ids.Nodup := by
  cases medium with
  | table contents => exact contents.things.nodup_keys
  | tree contents =>
    refine List.Nodup.filterMap ?_ contents.things.nodup_keys
    intro key other id named named'
    rw [← KeyTree.thingKey_keyId named, ← KeyTree.thingKey_keyId named']

end Medium

def Store.Empty (store : Store) : Prop :=
  store.info = none ∧ ∀ id, store.get? id = none

theorem Store.empty_inMemory : Store.inMemory.Empty :=
  ⟨rfl, fun _ => Std.ExtTreeMap.getElem?_empty⟩

theorem Store.own_of_empty {store : Store} (empty : store.Empty) (next : ThingId) : store.Own next := by
  refine ⟨?_, ?_⟩ <;> intro id blob lies <;> cases (empty.2 id).symm.trans lies

namespace World

variable {store : Store} {options : Options} {world : World}

theorem loadThings_spec (ids : List ThingId) : ∀ {loaded : List (ThingId × Thing × Bytes)},
    loadThings store ids = .ok loaded →
      loaded.map Prod.fst = ids.filter (fun id => (store.get? id).isSome) ∧
        ∀ entry ∈ loaded, store.get? entry.1 = some entry.2.2 ∧ Thing.ofBytes entry.2.2 = .ok entry.2.1 := by
  induction ids with
  | nil =>
    intro loaded loads
    cases loads
    exact ⟨rfl, fun entry member => nomatch member⟩
  | cons id rest ih =>
    intro loaded loads
    rw [loadThings] at loads
    cases lies : store.get? id with
    | none =>
      rw [lies] at loads
      obtain ⟨listed, each⟩ := ih loads
      refine ⟨?_, each⟩
      rw [listed, List.filter_cons_of_neg]
      simp [lies]
    | some bytes =>
      rw [lies] at loads
      dsimp only at loads
      cases read : Thing.ofBytes bytes with
      | error failure =>
        rw [read] at loads
        cases loads
      | ok thing =>
        cases more : loadThings store rest with
        | error failure =>
          rw [read, more] at loads
          cases loads
        | ok others =>
          rw [read, more] at loads
          cases loads
          obtain ⟨listed, each⟩ := ih more
          refine ⟨?_, ?_⟩
          · rw [List.map_cons, listed, List.filter_cons_of_pos]
            simp [lies]
          · intro entry member
            rcases List.mem_cons.mp member with rfl | member
            · exact ⟨lies, read⟩
            · exact each entry member

theorem loadThings_loads (ids : List ThingId)
    (readable : ∀ id bytes, store.get? id = some bytes → ∃ thing, Thing.ofBytes bytes = .ok thing) :
    ∃ loaded, loadThings store ids = .ok loaded := by
  induction ids with
  | nil => exact ⟨[], rfl⟩
  | cons id rest ih =>
    obtain ⟨others, more⟩ := ih
    rw [loadThings]
    cases lies : store.get? id with
    | none => exact ⟨others, more⟩
    | some bytes =>
      obtain ⟨thing, read⟩ := readable id bytes lies
      exact ⟨(id, thing, bytes) :: others, by simp only [read, more]; rfl⟩

theorem loaded_get {loaded : List (ThingId × Thing × Bytes)} (loads : loadThings store store.ids = .ok loaded)
    {β : Type} (part : ThingId × Thing × Bytes → β) (id : ThingId) :
    (∀ bytes, store.get? id = some bytes → ∃ thing, Thing.ofBytes bytes = .ok thing ∧
      (Std.ExtTreeMap.ofList (loaded.map fun entry => (entry.1, part entry)))[id]? = some (part (id, thing, bytes))) ∧
    (store.get? id = none → (Std.ExtTreeMap.ofList (loaded.map fun entry => (entry.1, part entry)))[id]? = none) := by
  obtain ⟨listed, each⟩ := loadThings_spec store.ids loads
  have keys : (loaded.map fun entry => (entry.1, part entry)).map Prod.fst = loaded.map Prod.fst := by simp
  refine ⟨?_, ?_⟩
  · intro bytes lies
    have named : id ∈ loaded.map Prod.fst := by
      rw [listed, List.mem_filter]
      exact ⟨(Store.mem_ids store id).mpr ⟨bytes, lies⟩, by rw [lies]; rfl⟩
    obtain ⟨⟨_, thing, blob⟩, member, rfl⟩ := List.mem_map.mp named
    obtain ⟨lies', read⟩ := each _ member
    obtain rfl : blob = bytes := Option.some.inj (lies'.symm.trans lies)
    refine ⟨thing, read, ?_⟩
    refine Std.ExtTreeMap.getElem?_ofList_of_mem Std.compare_self ?_ (List.mem_map_of_mem member)
    have distinct : (loaded.map Prod.fst).Nodup := by
      rw [listed]
      exact (Medium.nodup_ids store.medium).filter _
    rw [List.pairwise_map]
    refine (List.pairwise_map.mp distinct).imp ?_
    exact fun differs same => differs (Std.LawfulEqOrd.eq_of_compare same)
  · intro absent
    refine Std.ExtTreeMap.getElem?_ofList_of_contains_eq_false ?_
    rw [keys, listed, List.contains_eq_mem, decide_eq_false_iff_not, List.mem_filter, absent]
    simp

-- What a world is when it was loaded.
structure Reloaded (store : Store) (world : World) : Prop where
  info : ∃ bytes, store.info = some bytes ∧ Info.ofBytes bytes = .ok world.info
  things : ∀ id : ThingId, world.things[id]? = (store.get? id).bind fun bytes => (Thing.ofBytes bytes).toOption
  persisted : ∀ id : ThingId, world.persisted[id]? = store.get? id
  readable : ∀ id bytes, store.get? id = some bytes → ∃ thing, Thing.ofBytes bytes = .ok thing
  index : world.index = Index.rebuild world.things.values
  store : world.store = store
  dirty : world.dirty = ∅
  infoDirty : world.infoDirty = false
  inScope : world.inScope = false
  registry : world.registry = .standard

theorem loads_of_opened {bytes : Bytes} (recorded : store.info = some bytes) (opened : openOn store options = .ok world) :
    ∃ info loaded, Info.ofBytes bytes = .ok info ∧ loadThings store store.ids = .ok loaded ∧
      world = (blank store options).resume info loaded := by
  rw [openOn, recorded] at opened
  dsimp only at opened
  rw [load] at opened
  cases read : Info.ofBytes bytes with
  | error failure =>
    rw [read] at opened
    cases opened
  | ok info =>
    cases loads : loadThings store store.ids with
    | error failure =>
      rw [read, loads] at opened
      cases opened
    | ok loaded =>
      rw [read, loads] at opened
      cases opened
      exact ⟨info, loaded, rfl, rfl, rfl⟩

theorem reloaded {bytes : Bytes} (recorded : store.info = some bytes) (opened : openOn store options = .ok world) :
    Reloaded store world := by
  obtain ⟨info, loaded, read, loads, rfl⟩ := loads_of_opened recorded opened
  have things := loaded_get loads fun entry => entry.2.1
  have blobs := loaded_get loads fun entry => entry.2.2
  refine ⟨⟨bytes, recorded, read⟩, ?_, ?_, ?_, rfl, rfl, rfl, rfl, rfl, rfl⟩
  · intro id
    cases lies : store.get? id with
    | none => exact (things id).2 lies
    | some bytes =>
      obtain ⟨thing, read, found⟩ := (things id).1 bytes lies
      rw [Option.bind_some, read]
      exact found
  · intro id
    cases lies : store.get? id with
    | none => exact (blobs id).2 lies
    | some bytes =>
      obtain ⟨thing, _, found⟩ := (blobs id).1 bytes lies
      exact found
  · intro id bytes lies
    obtain ⟨thing, read, _⟩ := (things id).1 bytes lies
    exact ⟨thing, read⟩

theorem mirrored_reloaded (loaded : Reloaded store world) (accepts : ∀ asked call, store.refuses asked call = false) :
    world.Mirrored := by
  refine ⟨?_, ?_⟩
  · rw [loaded.store]
    exact accepts
  · rw [loaded.store]
    exact loaded.persisted

theorem reloads {bytes : Bytes} {info : Info} (recorded : store.info = some bytes) (read : Info.ofBytes bytes = .ok info)
    (readable : ∀ id bytes, store.get? id = some bytes → ∃ thing, Thing.ofBytes bytes = .ok thing) (options : Options) :
    ∃ world, openOn store options = .ok world := by
  obtain ⟨loaded, loads⟩ := loadThings_loads store.ids readable
  rw [openOn, recorded]
  dsimp only
  rw [load, read, loads]
  exact ⟨_, rfl⟩

end World
end ThingWorld
