import ThingWorld.Proofs.Course.Public
import ThingWorld.Proofs.Dump.RoundTrip
import ThingWorld.Proofs.Store.Import
import ThingWorld.Proofs.Upkeep.Opened
import ThingWorld.Proofs.Upkeep.Ranking
namespace ThingWorld

-- Where a world and all that was loaded from its store began.
inductive Origin where
  | seeded
  | imported

-- What was changed by hand since the last commit, whether the last commit that was to write completed, and whether the
-- next id never went back.
structure Ledger where
  pending : List ThingId
  complete : Bool
  left : Bool

namespace Ledger

def clear : Ledger := ⟨[], true, true⟩

def note (ledger : Ledger) (world : World) (moment : Moment) : Ledger where
  pending := moment.pending ledger.pending
  complete :=
    match moment with
    | .did .flushed => ((World.commit true).run world).1.isOk
    | .ended true => ((World.commit true).run { world with inScope := false }).1.isOk
    | _ => ledger.complete
  left := ledger.left && decide (moment.climbs world)

def after (ledger : Ledger) (world : World) : List Moment → Ledger
  | [] => ledger
  | moment :: rest => (ledger.note world moment).after (moment.perform world) rest

end Ledger

namespace World

inductive Reached : Origin → World → Ledger → Prop where
  -- The store is empty, or an earlier planting ended before it had written the world record.
  | seeded {store : Store} {options : Options} {world : World} (fresh : store.info = none)
      (opened : openOn store options = .ok world) (own : store.Own world.info.nextId) : Reached .seeded world .clear
  -- The last id of all has none after it.
  | imported {store : Store} {text : String} {dump : Dump} {limits : Limits} {dice : Nat → Fin 100} {world : World}
      (read : Dump.parse text = .ok dump) (fits : dump.info.Fits)
      (opened : importText store text limits dice = .ok world) : Reached .imported world ⟨[], true, dump.climbs⟩
  | reopened {origin : Origin} {world again : World} {ledger : Ledger} {options : Options}
      (before : Reached origin world ledger) (complete : ledger.complete = true) (fits : world.info.Fits)
      (opened : openOn world.store options = .ok again) : Reached origin again ⟨[], true, ledger.left⟩
  | called {origin : Origin} {world world' : World} {ledger : Ledger} {hand : Bool} {α : Type} {steps : Run α}
      {moments : List Moment} {result : Except Failure α} (before : Reached origin world ledger)
      (built : Built hand steps) (unfolds : Unfolds steps world moments result world')
      (within : ∀ deed, .did deed ∈ moments → deed.within hand) :
      Reached origin world' (ledger.after world moments)

-- What no world of that origin can do without.
def Root (origin : Origin) (world : World) (id : ThingId) : Prop :=
  id ∈ [world.info.limbo, world.info.lobby, world.info.hall] ∨
    origin = .seeded ∧ ∃ name ∈ [Standard.thing, Standard.room, Standard.link, Standard.person],
      world.prototype? name = some id

-- What every world that there is keeps, and its store with it.
structure Sustained (origin : Origin) (world : World) (ledger : Ledger) : Prop where
  tracked : world.Tracked ledger.pending
  backed : world.Backed
  recorded : world.Recorded
  ahead : ledger.left = true → world.Ahead
  rooted : ∀ id, Root origin world id → world.Stored id
  named : origin = .seeded → ∀ name ∈ [Standard.thing, Standard.room, Standard.link, Standard.person],
    ∃ id, world.prototype? name = some id
  saved : ledger.complete = true → ∃ info, world.store.Sound info ∧ foundationOf info = world.foundation ∧
    (ledger.left = true → world.store.Under info.nextId)

variable {origin : Origin} {world : World} {ledger : Ledger}

theorem wellKnown_root {id : ThingId} (root : Root origin world id) : world.isWellKnown id = true := by
  rw [isWellKnown, Info.isWellKnown]
  rcases root with member | ⟨_, name, _, found⟩
  · simp only [List.mem_cons, List.not_mem_nil, or_false] at member
    rcases member with rfl | rfl | rfl <;> simp
  · have listed : id ∈ world.info.prototypes.values := (Index.mem_values _ id).mpr ⟨name, found⟩
    simp [listed]

theorem root_congr {world' : World} (same : world'.foundation = world.foundation) (id : ThingId) :
    Root origin world' id ↔ Root origin world id := by
  simp only [foundation, foundationOf, Prod.mk.injEq] at same
  obtain ⟨limbo, lobby, hall, prototypes, _⟩ := same
  simp only [Root, prototype?, limbo, lobby, hall, prototypes]

theorem sustained_seeded {store : Store} {options : Options} (fresh : store.info = none)
    (opened : openOn store options = .ok world) (own : store.Own world.info.nextId) :
    Sustained .seeded world .clear := by
  obtain ⟨mid, planted⟩ := planted_of_seed fresh opened
  obtain ⟨tracked, founded, recorded⟩ := tracked_seeded planted
  have backed := backed_seeded own.owned planted
  have ahead := ahead_seeded own.below planted
  obtain ⟨faithful, untouched, written⟩ := faithful_seeded planted
  refine ⟨tracked, backed, recorded, fun _ => ahead, ?_, ?_, ?_⟩
  · intro id root
    refine stored_of_faithful backed faithful untouched ?_
    rcases root with member | ⟨_, name, member, found⟩
    · simp only [List.mem_cons, List.not_mem_nil, or_false] at member
      rcases member with rfl | rfl | rfl
      · exact founded.limbo
      · exact founded.lobby
      · exact founded.hall
    · obtain ⟨other, found', held⟩ := founded.prototypes name member
      rw [found] at found'
      cases found'
      exact held
  · intro _ name member
    obtain ⟨id, found, _⟩ := founded.prototypes name member
    exact ⟨id, found⟩
  · exact fun _ => ⟨world.info, sound_of_backed backed recorded written, rfl, fun _ => ahead.under⟩

theorem sustained_loaded {store : Store} {options : Options} {info : Info} {left : Bool} (sound : store.Sound info)
    (fits : info.Fits) (opened : openOn store options = .ok world) (under : left = true → store.Under info.nextId)
    (rooted : ∀ id, world.info = info → Root origin world id → ∃ blob, store.get? id = some blob)
    (named : origin = .seeded → ∀ name ∈ [Standard.thing, Standard.room, Standard.link, Standard.person],
      ∃ id : ThingId, info.prototypes[name]? = some id) : Sustained origin world ⟨[], true, left⟩ := by
  obtain ⟨same, tracked, backed, recorded, ahead, stored⟩ := tracked_reloaded sound fits opened
  have loaded := reloaded sound.recorded opened
  refine ⟨tracked, backed, recorded, fun left => ahead (under left), ?_, ?_, ?_⟩
  · intro id root
    obtain ⟨blob, lies⟩ := rooted id same root
    exact stored id blob lies
  · intro seeded name member
    rw [prototype?, same]
    exact named seeded name member
  · exact fun _ =>
      ⟨world.info, sound_of_backed backed recorded loaded.infoDirty, rfl, fun left => (ahead (under left)).under⟩

theorem fits_congr {info info' : Info} (same : foundationOf info' = foundationOf info) (fits : info.Fits) :
    info'.Fits := by
  simp only [foundationOf, Prod.mk.injEq] at same
  obtain ⟨_, _, _, prototypes, name⟩ := same
  refine ⟨?_, ?_, ?_⟩
  · rw [name]
    exact fits.name
  · rw [prototypes]
    exact fits.prototypes
  · rw [prototypes]
    exact fits.names

theorem sustained_reopened {again : World} {options : Options} (sustained : Sustained origin world ledger)
    (complete : ledger.complete = true) (fits : world.info.Fits) (opened : openOn world.store options = .ok again) :
    Sustained origin again ⟨[], true, ledger.left⟩ := by
  obtain ⟨info, sound, same, under⟩ := sustained.saved complete
  refine sustained_loaded sound (fits_congr same fits) opened under ?_ ?_
  · intro id loaded root
    have foundation : again.foundation = world.foundation := (congrArg foundationOf loaded).trans same
    exact (sustained.rooted id ((root_congr foundation id).mp root)).2
  · intro seeded name member
    have prototypes : info.prototypes = world.info.prototypes := by
      simp only [foundation, foundationOf, Prod.mk.injEq] at same
      exact same.2.2.2.1
    rw [prototypes]
    exact sustained.named seeded name member

theorem sustained_imported {store : Store} {text : String} {dump : Dump} {limits : Limits} {dice : Nat → Fin 100}
    (read : Dump.parse text = .ok dump) (fits : dump.info.Fits)
    (opened : importText store text limits dice = .ok world) : Sustained .imported world ⟨[], true, dump.climbs⟩ := by
  rw [importText, read] at opened
  dsimp only at opened
  rw [importDump] at opened
  split at opened
  · cases opened
  · rename_i filled written
    obtain ⟨sound, comes, limbo, lobby, hall⟩ := Dump.write_sound written
    have raised : foundationOf dump.raisedInfo = foundationOf dump.info := by
      obtain ⟨next, same⟩ := dump.raised_same
      rw [same]
      rfl
    refine sustained_loaded sound (fits_congr raised fits) opened ?_ ?_ ?_
    · exact fun climbs id blob lies => Dump.raised_above climbs ((comes id).mpr ⟨blob, lies⟩)
    · rintro id loaded (member | ⟨seeded, _⟩)
      · simp only [foundationOf, Prod.mk.injEq] at raised
        rw [loaded, raised.1, raised.2.1, raised.2.2.1] at member
        simp only [List.mem_cons, List.not_mem_nil, or_false] at member
        rcases member with rfl | rfl | rfl
        · exact (comes _).mp limbo
        · exact (comes _).mp lobby
        · exact (comes _).mp hall
      · cases seeded
    · exact fun seeded => nomatch seeded

theorem commit_saves (backed : ((commit true).run world).2.Backed) (recorded : ((commit true).run world).2.Recorded)
    (complete : ((commit true).run world).1.isOk = true) :
    ((commit true).run world).2.store.Sound ((commit true).run world).2.info := by
  cases ended : ((commit true).run world).1 with
  | error failure =>
    rw [ended] at complete
    cases complete
  | ok stats => exact sound_of_backed backed recorded (commit_completed ended).2

-- Between two commits that complete the store stays as the last one left it.
theorem saved_moment
    (saved : ledger.complete = true → ∃ info, world.store.Sound info ∧ foundationOf info = world.foundation ∧
      (ledger.left = true → world.store.Under info.nextId))
    (moment : Moment) (later : moment.later) (backed : (moment.perform world).Backed)
    (recorded : (moment.perform world).Recorded)
    (ahead : (ledger.note world moment).left = true → (moment.perform world).Ahead)
    (complete : (ledger.note world moment).complete = true) :
    ∃ info, (moment.perform world).store.Sound info ∧ foundationOf info = (moment.perform world).foundation ∧
      ((ledger.note world moment).left = true → (moment.perform world).store.Under info.nextId) := by
  have foundation := foundation_moment moment later world
  have stays (same : (moment.perform world).store = world.store) (before : ledger.complete = true) :
      ∃ info, (moment.perform world).store.Sound info ∧ foundationOf info = (moment.perform world).foundation ∧
        ((ledger.note world moment).left = true → (moment.perform world).store.Under info.nextId) := by
    obtain ⟨info, sound, founded, under⟩ := saved before
    rw [same, foundation]
    exact ⟨info, sound, founded, fun left => under (Bool.and_eq_true_iff.mp left).1⟩
  cases moment with
  | did deed =>
    by_cases flushed : deed = .flushed
    · subst flushed
      exact ⟨_, commit_saves backed recorded complete, rfl, fun left => (ahead left).under⟩
    · refine stays (deed_shelf deed flushed world).2 ?_
      cases deed <;> first | exact complete | exact absurd rfl flushed
  | opened => exact stays rfl complete
  | ended keep =>
    cases keep with
    | true => exact ⟨_, commit_saves backed recorded complete, rfl, fun left => (ahead left).under⟩
    | false =>
      refine stays ?_ complete
      obtain ⟨index, same⟩ := catchUp_same { world with inScope := false }
      rw [Moment.perform, run_commit, if_neg Bool.false_ne_true, same]

theorem sustained_moment (sustained : Sustained origin world ledger) (moment : Moment) (allowed : moment.allowed world)
    (handed : ledger.left = true → moment.handed world) (later : moment.later) :
    Sustained origin (moment.perform world) (ledger.note world moment) := by
  have foundation := foundation_moment moment later world
  have backed := backed_moment sustained.backed sustained.tracked.keyed moment
  have recorded := recorded_moment sustained.recorded moment later
  have ahead (left : (ledger.note world moment).left = true) : (moment.perform world).Ahead := by
    obtain ⟨before, climbs⟩ := Bool.and_eq_true_iff.mp left
    exact ahead_moment (sustained.ahead before) moment (of_decide_eq_true climbs) (handed before)
  refine ⟨tracked_moment sustained.tracked moment allowed, backed, recorded, ahead, ?_, ?_, ?_⟩
  · intro id root
    have root := (root_congr foundation id).mp root
    exact stored_moment (wellKnown_root root) (sustained.rooted id root) moment allowed
  · intro seeded name member
    have prototypes : (moment.perform world).info.prototypes = world.info.prototypes := by
      simp only [World.foundation, foundationOf, Prod.mk.injEq] at foundation
      exact foundation.2.2.2.1
    rw [prototype?, prototypes]
    exact sustained.named seeded name member
  · exact saved_moment sustained.saved moment later backed recorded ahead

theorem ledger_keeps {P : World → Ledger → Prop}
    (step : ∀ {world : World} {ledger : Ledger}, P world ledger → ∀ moment : Moment, moment.allowed world →
      (ledger.left = true → moment.handed world) → moment.later → P (moment.perform world) (ledger.note world moment))
    {moments : List Moment} : ∀ {world : World} {ledger : Ledger}, P world ledger → world.Permits moments →
      (ledger.left = true → world.Hands moments) → (∀ deed, .did deed ∈ moments → deed.later) →
        P (world.replay moments) (ledger.after world moments) := by
  induction moments with
  | nil => exact fun start _ _ _ => start
  | cons moment rest ih =>
    intro world ledger start permitted hands later
    have now : moment.later := Moment.later_of_deeds later moment List.mem_cons_self
    have first := step start moment permitted.1 (fun left => (hands left).1) now
    refine ih first permitted.2 (fun left => ?_) fun deed member => later deed (List.mem_cons_of_mem moment member)
    obtain ⟨before, climbs⟩ := Bool.and_eq_true_iff.mp left
    exact (hands before).2 (of_decide_eq_true climbs)

theorem reached_sustained (reached : Reached origin world ledger) : Sustained origin world ledger := by
  induction reached with
  | seeded fresh opened own => exact sustained_seeded fresh opened own
  | imported read fits opened => exact sustained_imported read fits opened
  | reopened before complete fits opened ih => exact sustained_reopened ih complete fits opened
  | called before built unfolds within ih =>
    obtain ⟨rfl, permitted, _⟩ := unfolds_replay unfolds
    refine ledger_keeps (P := Sustained _) sustained_moment ih permitted (fun _ => unfolds_hands unfolds) ?_
    exact fun deed member => deed.later_of_within (within deed member)

-- Between calls no scope is open, and the verbs are those that were there from the start.
theorem reached_frame (reached : Reached origin world ledger) :
    world.inScope = false ∧ world.registry = .standard := by
  induction reached with
  | seeded fresh opened own =>
    obtain ⟨mid, planted⟩ := planted_of_seed fresh opened
    exact ⟨outside_seeded planted, registry_seeded planted⟩
  | imported read fits opened =>
    rw [importText, read] at opened
    dsimp only at opened
    rw [importDump] at opened
    split at opened
    · cases opened
    · rename_i filled written
      have loaded := reloaded (Dump.write_sound written).1.recorded opened
      exact ⟨loaded.inScope, loaded.registry⟩
  | reopened before complete fits opened ih =>
    obtain ⟨info, sound, _⟩ := (reached_sustained before).saved complete
    have loaded := reloaded sound.recorded opened
    exact ⟨loaded.inScope, loaded.registry⟩
  | called before built unfolds within ih =>
    obtain ⟨same, _, scope⟩ := unfolds_replay unfolds
    refine ⟨scope.trans ih.1, ?_⟩
    rw [same, replay_registry]
    exact ih.2

theorem pending_after (moments : List Moment) : ∀ (ledger : Ledger) (world : World),
    (ledger.after world moments).pending = pendingAfter ledger.pending moments := by
  induction moments with
  | nil => exact fun ledger world => rfl
  | cons moment rest ih => exact fun ledger world => ih (ledger.note world moment) (moment.perform world)

theorem left_after (moments : List Moment) : ∀ (ledger : Ledger) (world : World),
    (ledger.after world moments).left = true ↔ ledger.left = true ∧ world.Ascends moments := by
  induction moments with
  | nil => exact fun ledger world => ⟨fun left => ⟨left, trivial⟩, fun left => left.1⟩
  | cons moment rest ih =>
    intro ledger world
    refine (ih (ledger.note world moment) (moment.perform world)).trans ?_
    simp only [Ledger.note, Bool.and_eq_true, decide_eq_true_eq, Ascends, Heeds, and_assoc]

-- Only when an id is handed out the next one can go back.
theorem ascends_elsewhere {moments : List Moment} (none : .did .allocated ∉ moments) (world : World) :
    world.Ascends moments := by
  refine heeds_anywhere (fun moment member mid => ?_) world
  refine UInt64.le_of_eq ?_
  cases moment with
  | did deed =>
    have other : deed ≠ .allocated := by
      rintro rfl
      exact none member
    exact ((deed_record deed mid).2 other).symm
  | opened => rfl
  | ended keep => exact (congrArg Info.nextId (commit_info keep { mid with inScope := false })).symm

-- Where nothing is changed by hand, nothing is pending.
theorem nothing_pending {moments : List Moment} (within : ∀ deed, .did deed ∈ moments → deed.within false) :
    pendingAfter [] moments = [] := by
  induction moments with
  | nil => rfl
  | cons moment rest ih =>
    have first : moment.pending [] = [] := by
      cases moment with
      | did deed =>
        rcases within deed List.mem_cons_self with lives | ⟨_, hand⟩
        · cases deed <;> first | rfl | exact lives.elim
        · cases hand
      | _ => rfl
    rw [pendingAfter, List.foldl_cons, first]
    exact ih fun deed member => within deed (List.mem_cons_of_mem moment member)

-- What a run without changes by hand makes of a new world in memory.
theorem settled_after {start last : World} {options : Options} {α : Type} {steps : Run α} {result : Except Failure α}
    (opened : openOn .inMemory options = .ok start) (built : Built false steps)
    (ran : steps.run start = some (result, last)) : last.inScope = false ∧ last.Tracked [] ∧ last.Mirrored := by
  have reached := Reached.seeded rfl opened (Store.own_of_empty Store.empty_inMemory _)
  obtain ⟨moments, unfolds, within⟩ := charted_built built start result last ran
  have later := Reached.called reached built unfolds within
  have tracked := (reached_sustained later).tracked
  rw [pending_after, show Ledger.clear.pending = [] from rfl, nothing_pending within] at tracked
  obtain ⟨mid, planted⟩ := planted_of_seed rfl opened
  obtain ⟨same, permitted, _⟩ := unfolds_replay unfolds
  have mirrored : start.Mirrored := mirrored_seeded (fun _ _ => rfl) Store.empty_inMemory planted
  refine ⟨(reached_frame later).1, tracked, ?_⟩
  rw [same]
  exact replay_keeps (P := World.Mirrored) (fun _ moment kept _ => mirrored_moment kept moment) mirrored permitted

theorem reached_flushed (reached : Reached origin world ledger) :
    ∃ complete, Reached origin (flush.run world).2 ⟨[], complete, ledger.left⟩ := by
  have outside := (reached_frame reached).1
  have ran := run_flush outside
  have built : Built false (Operation.flush.run) := .calls .flush fun byHand => nomatch byHand
  have unfolds : Unfolds Operation.flush.run world [.did .flushed] (flush.run world).1 (flush.run world).2 := by
    rw [ran]
    exact .does .flushed outside trivial (congrArg some ran)
  have later : Reached origin (flush.run world).2 (ledger.note world (.did .flushed)) := by
    refine .called reached built unfolds fun deed member => ?_
    rw [Moment.did.inj (List.mem_singleton.mp member)]
    exact .inl trivial
  have same : (ledger.note world (.did .flushed)).left = ledger.left := by
    have ascends : world.Ascends [.did .flushed] := ascends_elsewhere (by simp) world
    show (ledger.left && decide _) = ledger.left
    rw [decide_eq_true ascends.1, Bool.and_true]
  rw [← same]
  exact ⟨_, later⟩

-- The runs that are meant here are all that others can build, and each of them unfolds; while nothing is changed by
-- hand nothing is pending, and a flush leaves nothing pending. The ids are below the next one as long as that one never
-- goes back, as it does after the last id of all.
theorem reached_worlds_hold_together (reached : Reached origin world ledger) :
    (ledger.pending = [] → world.checkIndices = true ∧ Index.Current world.index world.things ∧
      ∀ place,
        world.Ranked (world.contents place)
          (fun id => ∃ thing, world.things[id]? = some thing ∧ ⟨Relation.location, place⟩ ∈ thing.edges) ∧
        world.Ranked (world.links place)
          (fun id => ∃ thing, world.things[id]? = some thing ∧ ⟨Relation.linkOwner, place⟩ ∈ thing.edges)) ∧
    (∀ (id : ThingId) (thing : Thing), world.things[id]? = some thing →
      thing.id = id ∧ (ledger.left = true → id < world.info.nextId)) ∧
    world.Standing ∧ (origin = .seeded → world.Founded) ∧
    (∀ {hand : Bool} {α : Type} {steps : Run α} {result : Except Failure α} {world' : World}, Built hand steps →
      steps.run world = some (result, world') → ∃ moments, Unfolds steps world moments result world' ∧
        Reached origin world' (ledger.after world moments) ∧
        (hand = false → ledger.pending = [] → (ledger.after world moments).pending = []) ∧
        ((ledger.after world moments).left = true ↔ ledger.left = true ∧ world.Ascends moments)) ∧
    ∃ complete, Reached origin (flush.run world).2 ⟨[], complete, ledger.left⟩ := by
  have sustained := reached_sustained reached
  have standing : world.Standing :=
    ⟨(sustained.rooted _ (.inl (by simp))).1, (sustained.rooted _ (.inl (by simp))).1,
      (sustained.rooted _ (.inl (by simp))).1⟩
  refine ⟨?_, ?_, standing, ?_, ?_, reached_flushed reached⟩
  · intro caught
    have tracked : world.Tracked [] := caught ▸ sustained.tracked
    have current := tracked_current tracked
    exact ⟨checked_of_tracked tracked, current,
      fun place => ⟨ranked_contents world current place, ranked_links world current place⟩⟩
  · intro id thing found
    exact ⟨sustained.tracked.keyed id thing found, fun left => (sustained.ahead left).below id (contains_of_some found)⟩
  · intro seeded
    refine ⟨standing, fun name member => ?_⟩
    obtain ⟨id, found⟩ := sustained.named seeded name member
    exact ⟨id, found, (sustained.rooted id (.inr ⟨seeded, name, member, found⟩)).1⟩
  · intro hand α steps result world' built ran
    obtain ⟨moments, unfolds, within⟩ := charted_built built world result world' ran
    refine ⟨moments, unfolds, .called reached built unfolds within, ?_, left_after moments ledger world⟩
    rintro rfl nothing
    rw [pending_after, nothing]
    exact nothing_pending within

-- A world record after which one id is left.
def spentDump : Dump :=
  ⟨Dump.currentFormat, .epoch, ⟨"spent", 18446744073709551615, 0, 0, 0, ∅, 1000, Info.currentSchema⟩, [.fresh 0 none]⟩

-- What others put into the store may lie above the next id, and after the last id of all the first one is handed out
-- again.
theorem counters_fall_behind :
    (∃ start again, openOn .inMemory ⟨"new", .standard, 1000, fun _ => 0⟩ = .ok start ∧
      openOn (start.store.perform (.put 100 (Thing.fresh 100 none).toBytes)) ⟨"new", .standard, 1000, fun _ => 0⟩ =
        .ok again ∧
      again.contains 100 = true ∧ ¬(100 : ThingId) < again.info.nextId) ∧
    ∃ taken first last, importText .inMemory spentDump.render .standard (fun _ => 0) = .ok taken ∧
      taken.things[taken.info.limbo]? = some (.fresh 0 none) ∧
      (createFrom none "one" "").run taken = (.ok 18446744073709551615, first) ∧ first.info.nextId = 0 ∧
      (createFrom none "two" "").run first = (.ok 0, last) ∧
      last.things[last.info.limbo]? ≠ some (.fresh 0 none) := by
  refine ⟨?stray, ?spent⟩
  case stray =>
    have checked : opensTo .inMemory ⟨"new", .standard, 1000, fun _ => 0⟩ (fun start =>
        opensTo (start.store.perform (.put 100 (Thing.fresh 100 none).toBytes)) ⟨"new", .standard, 1000, fun _ => 0⟩
          fun again => decide (again.contains 100 = true ∧ ¬(100 : ThingId) < again.info.nextId)) = true := by
      decide +kernel
    obtain ⟨start, opened, checked⟩ := opensTo_iff.mp checked
    obtain ⟨again, reopened, behind⟩ := opensTo_iff.mp checked
    exact ⟨start, again, opened, reopened, of_decide_eq_true behind⟩
  case spent =>
    have checked : (match importDump .inMemory spentDump .standard fun _ => 0 with
        | .ok taken =>
          let one := (createFrom none "one" "").run taken
          let two := (createFrom none "two" "").run one.2
          decide (taken.things[taken.info.limbo]? = some (.fresh 0 none) ∧
            one.1 = .ok 18446744073709551615 ∧ one.2.info.nextId = 0 ∧ two.1 = .ok 0 ∧
            two.2.things[two.2.info.limbo]? ≠ some (.fresh 0 none))
        | .error _ => false) = true := by decide +kernel
    rw [importText, Dump.parse_render]
    dsimp only
    cases opened : importDump .inMemory spentDump .standard fun _ => 0 with
    | error failure =>
      rw [opened] at checked
      cases checked
    | ok taken =>
      rw [opened] at checked
      obtain ⟨limbo, one, next, two, replaced⟩ := of_decide_eq_true checked
      exact ⟨taken, _, _, rfl, limbo, Prod.ext one rfl, next, Prod.ext two rfl, replaced⟩

theorem new_worlds_hold_together :
    ∃ world, openOn .inMemory ⟨"new", .standard, 1000, fun _ => 0⟩ = .ok world ∧ Reached .seeded world .clear ∧
      world.checkIndices = true ∧ (∀ id, world.contains id = true → id < world.info.nextId) ∧ world.Founded := by
  have opens : (openOn .inMemory ⟨"new", .standard, 1000, fun _ => 0⟩).isOk = true := by decide +kernel
  cases opened : openOn .inMemory ⟨"new", .standard, 1000, fun _ => 0⟩ with
  | error failure =>
    rw [opened] at opens
    cases opens
  | ok world =>
    have reached := Reached.seeded rfl opened (Store.own_of_empty Store.empty_inMemory _)
    obtain ⟨caught, stands, _, founded, _⟩ := reached_worlds_hold_together reached
    refine ⟨world, rfl, reached, (caught rfl).1, fun id held => ?_, founded rfl⟩
    obtain ⟨thing, found⟩ := some_of_contains held
    exact (stands id thing found).2 rfl

end World
end ThingWorld
