import ThingWorld.Proofs.Dump.RoundTrip
import ThingWorld.Proofs.Store.Residue
import ThingWorld.Proofs.Upkeep.Reached
import ThingWorld.Proofs.Upkeep.Reopening
namespace ThingWorld

namespace World

variable {origin : Origin} {world : World} {ledger : Ledger} {store : Store}

section Versed

theorem versed_reloaded (loaded : Reloaded store world) : world.Versed := by
  refine ⟨?_, ?_⟩
  · intro id thing found
    rw [loaded.things] at found
    obtain ⟨bytes, _, read⟩ := Option.bind_eq_some_iff.mp found
    cases ended : Thing.ofBytes bytes with
    | error failure =>
      rw [ended] at read
      cases read
    | ok other =>
      rw [ended] at read
      cases read
      exact Thing.schema_of_ofBytes ended
  · obtain ⟨bytes, _, read⟩ := loaded.info
    exact Info.schema_of_ofBytes read

theorem reached_versed (reached : Reached origin world ledger) : world.Versed := by
  induction reached with
  | seeded fresh opened own => exact versed_seeded fresh opened
  | imported read fits opened =>
    rw [importText, read] at opened
    dsimp only at opened
    rw [importDump] at opened
    split at opened
    · cases opened
    · rename_i filled written
      exact versed_reloaded (reloaded (Dump.write_sound written).1.recorded opened)
  | reopened before complete fits opened ih =>
    obtain ⟨info, sound, _⟩ := (reached_sustained before).saved complete
    exact versed_reloaded (reloaded sound.recorded opened)
  | called before built unfolds within ih =>
    obtain ⟨rfl, permitted, _⟩ := unfolds_replay unfolds
    exact replay_keeps (P := Versed) (fun _ moment versed allowed => versed_moment versed moment allowed) ih permitted

end Versed

section Export

theorem mem_dump {now : Timestamp} {thing : Thing} :
    thing ∈ (world.dump now).things ↔ ∃ id : ThingId, world.things[id]? = some thing := by
  rw [dump, List.mem_mergeSort, Index.mem_values]

theorem mem_dump_ids (keyed : Index.Keyed world.things) (now : Timestamp) (id : ThingId) :
    id ∈ (world.dump now).ids ↔ world.contains id = true := by
  rw [Dump.ids, List.mem_map]
  constructor
  · rintro ⟨thing, among, rfl⟩
    obtain ⟨id, found⟩ := mem_dump.mp among
    rw [keyed id thing found]
    exact contains_of_some found
  · intro held
    obtain ⟨thing, found⟩ := some_of_contains held
    exact ⟨thing, mem_dump.mpr ⟨id, found⟩, keyed id thing found⟩

theorem blob_dump (keyed : Index.Keyed world.things) (now : Timestamp) (id : ThingId) :
    Dump.blob? (world.dump now).things id = world.things[id]?.map Thing.toBytes := by
  rw [Dump.blob?]
  cases last : (world.dump now).things.reverse.find? fun thing => thing.id == id with
  | some thing =>
    obtain ⟨other, found⟩ := mem_dump.mp (List.mem_reverse.mp (List.mem_of_find?_eq_some last))
    have named := List.find?_some last
    rw [beq_iff_eq] at named
    rw [← named, keyed other thing found, found]
  | none =>
    cases found : world.things[id]? with
    | none => rfl
    | some thing =>
      have among : thing ∈ (world.dump now).things.reverse := List.mem_reverse.mpr (mem_dump.mpr ⟨id, found⟩)
      exact absurd (beq_iff_eq.mpr (keyed id thing found)) (List.find?_eq_none.mp last thing among)

theorem stranger_dump (versed : world.Versed) (now : Timestamp) : Dump.stranger? (world.dump now).things = none := by
  refine List.find?_eq_none.mpr fun thing among => ?_
  obtain ⟨id, found⟩ := mem_dump.mp among
  have native : Dump.Native thing := versed.things id thing found
  simp [native]

theorem below_dump (keyed : Index.Keyed world.things) (below : world.Below) (now : Timestamp) :
    ∀ id ∈ (world.dump now).ids, id < (world.dump now).info.nextId :=
  fun id among => below id ((mem_dump_ids keyed now id).mp among)

theorem unrefused_dump (sustained : Sustained origin world ledger) (empty : store.Empty) (now : Timestamp) :
    (world.dump now).refusal? store = none := by
  have keyed := sustained.tracked.keyed
  have complete : (world.dump now).missing? = none := by
    refine List.find?_eq_none.mpr fun id asked => ?_
    have held := (sustained.rooted id (.inl asked)).1
    simp [(mem_dump_ids keyed now id).mpr held]
  have empty' : Dump.isEmptyStore store = true := Dump.isEmptyStore_iff.mpr empty
  rw [Dump.refusal?, if_neg (fun differs => differs rfl), empty', complete]
  rfl

end Export

-- Whatever a world that there is was made by, its text brings all of it into an empty store that refuses nothing. The next
-- id is not taken back, and it lies above all things, unless it went back before or there is none after their last.
theorem moved_worlds_arrive_whole (reached : Reached origin world ledger) (fits : world.Fits) (empty : store.Empty)
    (accepts : ∀ asked call, store.refuses asked call = false) (now : Timestamp) (limits : Limits)
    (dice : Nat → Fin 100) :
    (∃ again, importText store (world.exportText now) limits dice = .ok again ∧
      again.things = world.things ∧ (∃ next, again.info = { world.info with nextId := next }) ∧
      (ledger.left = true →
        again.info = world.info ∧ ∀ later, again.dump later = { world.dump now with exportedAt := later }) ∧
      again.index = Index.rebuild world.things.values ∧
      (∀ id : ThingId, again.store.get? id = world.things[id]?.map Thing.toBytes) ∧
      again.store.info = some again.info.toBytes) ∧
    ∀ (target : Store) (text : String) (dump : Dump) (limits : Limits) (dice : Nat → Fin 100) (taken : World),
      Dump.parse text = .ok dump → dump.info.Fits → importText target text limits dice = .ok taken →
        dump.info.nextId ≤ taken.info.nextId ∧
          ((∀ id ∈ dump.ids, id < id + 1) → ∀ id ∈ dump.ids, id < taken.info.nextId) := by
  refine ⟨?moved, ?raised⟩
  case moved =>
    have sustained := reached_sustained reached
    have versed := reached_versed reached
    have native := stranger_dump versed now
    have keyed := sustained.tracked.keyed
    obtain ⟨filled, written, lies, recorded, _⟩ := Dump.write_native accepts (unrefused_dump sustained empty now)
    rw [native] at written recorded
    have lies (id : ThingId) : filled.get? id = world.things[id]?.map Thing.toBytes := by
      rw [lies, empty.2, Option.or_none, Dump.natives_whole native, blob_dump keyed]
    -- The record that is written is that of the world, but for the next id.
    obtain ⟨next, raised⟩ := (world.dump now).raised_same
    have versed : ({ world with info := (world.dump now).raisedInfo } : World).Versed := by
      refine ⟨versed.things, ?_⟩
      rw [raised]
      exact versed.info
    have fits : ({ world with info := (world.dump now).raisedInfo } : World).Fits := ⟨fits.things, raised_fits fits.info⟩
    obtain ⟨again, opened, things, info, loaded⟩ := snapshots_restored versed fits recorded lies
      ⟨world.info.name, limits, world.info.clockInterval, dice⟩
    refine ⟨again, ?_, things, ⟨next, info.trans raised⟩, ?_, ?_, ?_, ?_⟩
    · rw [importText, exportText, Dump.parse_render]
      dsimp only
      rw [importDump, written]
      exact opened
    · intro left
      have same : again.info = world.info :=
        info.trans (Dump.raised_unmoved (below_dump keyed (sustained.ahead left).below now))
      refine ⟨same, fun later => ?_⟩
      rw [dump, dump, things, same]
    · rw [loaded.index, things]
    · rwa [loaded.store]
    · rw [loaded.store, info]
      exact recorded
  case raised =>
    intro target text dump limits dice taken read fits opened
    rw [importText, read] at opened
    dsimp only at opened
    rw [importDump] at opened
    split at opened
    · cases opened
    · rename_i filled written
      have recorded := (Dump.write_sound written).1.recorded
      obtain ⟨bytes, found, again⟩ := (reloaded recorded opened).info
      obtain rfl := Option.some.inj (found.symm.trans recorded)
      rw [Info.eq_of_ofBytes (raised_fits fits) again]
      refine ⟨Dump.raised_least, fun climbs id member => Dump.raised_above ?_ member⟩
      exact List.all_eq_true.mpr fun id among => decide_eq_true (climbs id among)

-- A lobby with a name of its own arrives with it.
theorem renamed_lobby_is_moved :
    ∃ start last again, openOn .inMemory ⟨"new", .standard, 1000, fun _ => 0⟩ = .ok start ∧
      (setProperty start.info.lobby Property.name (.text "square")).run start = (.ok (), last) ∧
      importText .inMemory (last.exportText .epoch) .standard (fun _ => 0) = .ok again ∧
      again.things = last.things ∧ again.info = last.info ∧
      ∀ id ∈ (last.dump .epoch).ids, id < again.info.nextId := by
  have checked : opensTo .inMemory ⟨"new", .standard, 1000, fun _ => 0⟩ (fun start =>
      decide (start.contains start.info.lobby = true ∧
        ((setProperty start.info.lobby Property.name (.text "square")).run start).1.isOk = true ∧
        ((setProperty start.info.lobby Property.name (.text "square")).run start).2.Fits)) = true := by decide +kernel
  obtain ⟨start, opened, checked⟩ := opensTo_iff.mp checked
  obtain ⟨present, kept, fits⟩ := of_decide_eq_true checked
  have seeded : Reached .seeded start .clear := .seeded rfl opened (Store.own_of_empty Store.empty_inMemory _)
  obtain ⟨result, last, unfolds⟩ :=
    unfolds_setProperty (reached_frame seeded).1 present Property.name (.text "square")
  have ran : (setProperty start.info.lobby Property.name (.text "square")).run start = (result, last) :=
    Option.some.inj (unfolds_ran unfolds)
  rw [ran] at kept fits
  cases result with
  | error failure => cases kept
  | ok =>
    have built : Built true (Operation.setProperty start.info.lobby Property.name (.text "square")).run :=
      .calls _ fun byHand => nomatch byHand
    have reached := Reached.called seeded built unfolds (by simp [Deed.within, Deed.lives])
    have left : (Ledger.clear.after start
        [.opened, .did (.revised start.info.lobby (.write Property.name (.text "square"))), .ended true]).left = true :=
      (left_after _ .clear start).mpr ⟨rfl, ascends_elsewhere (by simp) start⟩
    obtain ⟨⟨again, taken, things, _, whole, _⟩, raised⟩ := moved_worlds_arrive_whole reached fits Store.empty_inMemory
      (fun _ _ => rfl) .epoch .standard fun _ => 0
    have fits' : (last.dump .epoch).info.Fits := fits.info
    obtain ⟨_, above⟩ := raised .inMemory (last.exportText .epoch) (last.dump .epoch) .standard (fun _ => 0) again
      (Dump.parse_render _) fits' taken
    refine ⟨start, last, again, opened, ran, taken, things, (whole left).1, above fun id member => ?_⟩
    have sustained := reached_sustained reached
    have below : id < last.info.nextId := below_dump sustained.tracked.keyed (sustained.ahead left).below .epoch id member
    refine next_is_greater (climbs_next ?_)
    exact Nat.lt_of_le_of_lt (UInt64.lt_iff_toNat_lt.mp below) last.info.nextId.toNat_lt

end World
end ThingWorld
