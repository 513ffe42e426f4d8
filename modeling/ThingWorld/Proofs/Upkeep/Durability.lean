import ThingWorld.Proofs.Upkeep.Scopes
namespace ThingWorld

namespace StoreCall

-- Of calls, the latest first, those that no flush has followed.
def volatile (calls : List StoreCall) : List StoreCall := calls.takeWhile isWrite

-- The last flush and all calls before it.
def durable (calls : List StoreCall) : List StoreCall := calls.dropWhile isWrite

theorem volatile_durable (calls : List StoreCall) : volatile calls ++ durable calls = calls :=
  List.takeWhile_append_dropWhile

end StoreCall

open StoreCall (volatile durable)

-- World records do not change what lies there of the things.
theorem Medium.get_after_records (medium : Medium) {calls : List StoreCall}
    (records : ∀ call ∈ calls, ∃ blob, call = .putInfo blob) (id : ThingId) :
    (medium.after calls).get? id = medium.get? id := by
  induction calls with
  | nil => rfl
  | cons call rest ih =>
    obtain ⟨blob, rfl⟩ := records _ List.mem_cons_self
    exact (get_putInfo _ _ _).trans (ih fun other member => records other (List.mem_cons_of_mem _ member))

-- What the store was asked since then took effect, and nothing but world records waits for a flush.
structure Store.Held (base store : Store) (calls : List StoreCall) : Prop where
  accepts : ∀ asked call, store.refuses asked call = false
  asked : store.asked = calls ++ base.asked
  log : store.log = calls ++ base.log
  medium : store.medium = base.medium.after calls
  records : ∀ call ∈ volatile calls, ∃ blob, call = .putInfo blob

-- What lies there of the things is what the last flush made durable.
theorem Store.Held.kept {base store : Store} {calls : List StoreCall} (held : base.Held store calls) (id : ThingId) :
    (base.medium.after (durable calls)).get? id = store.get? id := by
  have split : base.medium.after calls = (base.medium.after (durable calls)).after (volatile calls) := by
    conv_lhs => rw [← StoreCall.volatile_durable calls]
    exact List.foldr_append
  have same := (base.medium.after (durable calls)).get_after_records held.records id
  rw [← split, ← held.medium] at same
  exact same.symm

namespace World

variable {world last start : World}

-- The world record waits, and every touched thing is as it was last written.
def RecordAlone (world : World) : Prop :=
  world.infoDirty = true ∧ ∀ id ∈ world.dirty, world.persisted[id]? = world.things[id]?.map Thing.toBytes

-- What a commit left behind that issued these calls, the latest first.
structure Closes (world : World) (calls : List StoreCall) (last : World) : Prop where
  asked : last.store.asked = calls ++ world.store.asked
  log : last.store.log = calls ++ world.store.log
  flushed : volatile calls = [] ↔ ¬world.RecordAlone
  unflushed : world.RecordAlone → calls = [.putInfo world.info.toBytes]

-- A commit has nothing to do, or the world record alone to put there, or it flushes in the end.
theorem demands_cases (world : World) :
    (¬world.RecordAlone ∧ world.demands = []) ∨
      (world.RecordAlone ∧ world.demands = [.putInfo world.info.toBytes]) ∨
        (¬world.RecordAlone ∧ ∃ calls, world.demands = calls ++ [.flush]) := by
  have written : world.dirty.toList.filterMap world.owed = [] ↔
      ∀ id ∈ world.dirty, world.persisted[id]? = world.things[id]?.map Thing.toBytes := by
    simp only [List.filterMap_eq_nil_iff, Std.ExtTreeSet.mem_toList, owed_none]
  rw [demands]
  by_cases nothing : world.dirty.toList.filterMap world.owed = []
  · cases waits : world.infoDirty with
    | false =>
      refine .inl ⟨fun alone => ?_, by simp [nothing]⟩
      rw [alone.1] at waits
      cases waits
    | true => exact .inr (.inl ⟨⟨waits, written.mp nothing⟩, by simp [nothing]⟩)
  · refine .inr (.inr ⟨fun alone => nothing (written.mpr alone.2), ?_⟩)
    rw [if_neg nothing]
    exact ⟨_, rfl⟩

section Commits

variable {base : Store} {calls : List StoreCall}

theorem closes_commit (accepts : ∀ asked call, world.store.refuses asked call = false) :
    Closes world world.demands.reverse ((commit true).run world).2 := by
  have did : ((commit true).run world).2.store = _ :=
    (commit_accepted accepts).2.trans (Store.issueAll_accepts world.demands accepts)
  have verdict : (volatile world.demands.reverse = [] ↔ ¬world.RecordAlone) ∧
      (world.RecordAlone → world.demands.reverse = [.putInfo world.info.toBytes]) := by
    rcases demands_cases world with ⟨other, calls⟩ | ⟨alone, calls⟩ | ⟨other, calls, ends⟩
    · rw [calls]
      exact ⟨iff_of_true rfl other, fun alone => absurd alone other⟩
    · rw [calls]
      exact ⟨iff_of_false (List.cons_ne_nil _ _) (not_not.mpr alone), fun _ => rfl⟩
    · rw [ends, List.reverse_append]
      exact ⟨iff_of_true rfl other, fun alone => absurd alone other⟩
  exact ⟨by rw [did], by rw [did], verdict.1, verdict.2⟩

theorem held_commit (held : base.Held world.store calls) (keep : Bool) :
    ∃ calls, base.Held ((commit keep).run world).2.store calls := by
  cases keep with
  | false =>
    obtain ⟨index, skipped⟩ := commit_skipped world
    rw [skipped]
    exact ⟨calls, held⟩
  | true =>
    refine ⟨world.demands.reverse ++ calls, ?_⟩
    rw [(commit_accepted held.accepts).2, Store.issueAll_accepts world.demands held.accepts]
    refine ⟨held.accepts, ?_, ?_, ?_, ?_⟩
    · rw [held.asked, List.append_assoc]
    · rw [held.log, List.append_assoc]
    · rw [held.medium]
      exact List.foldr_append.symm
    · rcases demands_cases world with ⟨_, issued⟩ | ⟨_, issued⟩ | ⟨_, before, issued⟩
      · rw [issued]
        exact held.records
      · rw [issued]
        intro call member
        rcases List.mem_cons.mp member with rfl | member
        · exact ⟨_, rfl⟩
        · exact held.records call member
      · rw [issued, List.reverse_append]
        exact fun call member => nomatch member

theorem held_moment (held : ∃ calls, base.Held world.store calls) (moment : Moment) :
    ∃ calls, base.Held (moment.perform world).store calls := by
  refine shelf_moment (P := fun world => ∃ calls, base.Held world.store calls) ?_ ?_ held moment
  · intro mid last held _ store
    rw [store]
    exact held
  · exact fun ⟨_, held⟩ keep => held_commit held keep

theorem held_replay (moments : List Moment) : ∀ {world : World}, (∃ calls, base.Held world.store calls) →
    ∃ calls, base.Held (world.replay moments).store calls := by
  induction moments with
  | nil => exact fun held => held
  | cons moment rest ih => exact fun held => ih (held_moment held moment)

theorem closes_moment (moment : Moment) (accepts : ∀ asked call, world.store.refuses asked call = false)
    (commits : moment = .did .flushed ∨ moment = .ended true) : ∃ calls, Closes world calls (moment.perform world) := by
  rcases commits with rfl | rfl
  · exact ⟨_, closes_commit accepts⟩
  · have accepts : ∀ asked call, ({ world with inScope := false } : World).store.refuses asked call = false := accepts
    obtain ⟨asked, log, flushed, unflushed⟩ := closes_commit accepts
    exact ⟨_, asked, log, flushed, unflushed⟩

theorem closes_scope {hand : Bool} {α : Type} {body : Run α} {a : α}
    (accepts : ∀ asked call, world.store.refuses asked call = false) (outside : world.inScope = false)
    (built : Built hand body) (ran : body.scope.run world = some (.ok a, last)) :
    ∃ mid calls, body.run (Moment.opened.perform world) = some (.ok a, mid) ∧ mid.store = world.store ∧
      Closes mid calls last := by
  rw [Run.run_outermost outside] at ran
  obtain ⟨⟨result, mid⟩, inner, settled⟩ := Option.map_eq_some_iff.mp ran
  obtain ⟨moments, unfolds, quiet, _⟩ := built_inside built inner
  have store := (quiet_shelf quiet (Moment.opened.perform world)).2
  rw [← (unfolds_replay unfolds).1] at store
  have accepts : ∀ asked call, mid.store.refuses asked call = false := by
    rw [store]
    exact accepts
  have settled : mid.settle result = (.ok a, last) := settled
  rw [settle_accepted accepts] at settled
  obtain ⟨rfl, rfl⟩ := Prod.mk.inj settled
  obtain ⟨calls, closes⟩ := closes_moment (.ended true) accepts (.inr rfl)
  exact ⟨mid, calls, inner, store, closes⟩

theorem flush_demanded (world : World) : .flush ∈ world.demands ↔ world.dirty.toList.filterMap world.owed ≠ [] := by
  have unasked : .flush ∉ world.dirty.toList.filterMap world.owed := by
    intro listed
    obtain ⟨id, _, owes⟩ := List.mem_filterMap.mp listed
    rw [owed] at owes
    split at owes <;> split at owes <;> cases owes
  have unrecorded : .flush ∉ if world.infoDirty then [StoreCall.putInfo world.info.toBytes] else [] := by
    split <;> simp
  rw [demands, List.mem_append, List.mem_append, or_iff_right (not_or.mpr ⟨unasked, unrecorded⟩)]
  split
  · rename_i nothing
    exact iff_of_false List.not_mem_nil (not_not.mpr nothing)
  · rename_i something
    exact iff_of_true List.mem_cons_self something

-- A flush says in its counts whether it was passed on to the store.
theorem closes_flush {stats : CommitStats} (accepts : ∀ asked call, world.store.refuses asked call = false)
    (outside : world.inScope = false) (ran : flush.run world = (.ok stats, last)) :
    ∃ calls, Closes world calls last ∧ (stats.changes = 0 ↔ .flush ∉ calls) := by
  rw [run_flush outside] at ran
  obtain ⟨⟨counted, ended, counts⟩, _⟩ := commit_counted accepts
  have closes := closes_commit accepts
  rw [ran] at ended closes
  obtain rfl := Except.ok.inj ended
  refine ⟨_, closes, ?_⟩
  rw [List.mem_reverse, flush_demanded, not_not, counts, List.length_eq_zero_iff]

end Commits

-- Of things nothing is ever left to be flushed, at no moment of a run. Each commit, in the run or after it, flushes what
-- it wrote just if it did not write the world record alone.
theorem lone_records_are_not_flushed {hand : Bool} {α : Type} {steps : Run α} {result : Except Failure α}
    (accepts : ∀ asked call, start.store.refuses asked call = false) (outside : start.inScope = false)
    (built : Built hand steps) (ran : steps.run start = some (result, world)) :
    (∃ moments, Unfolds steps start moments result world ∧
      (∀ before after, moments = before ++ after → ∃ calls, start.store.Held (start.replay before).store calls ∧
        ∀ id, (start.store.medium.after (durable calls)).get? id = (start.replay before).store.get? id) ∧
      ∀ before moment after, moments = before ++ moment :: after → moment = .did .flushed ∨ moment = .ended true →
        ∃ calls, Closes (start.replay before) calls (moment.perform (start.replay before))) ∧
    (∀ {hand : Bool} {β : Type} {body : Run β} (b : β) (last : World), Built hand body →
      (body.scope.run world = some (.ok b, last) →
        ∃ mid calls, body.run (Moment.opened.perform world) = some (.ok b, mid) ∧ mid.store = world.store ∧
          Closes mid calls last) ∧
      (body.versioned.run world = some (.ok b, last) →
        ∃ mid calls, body.run (Moment.opened.perform world.nextVersion) = some (.ok b, mid) ∧
          mid.store = world.store ∧ Closes mid calls last)) ∧
    ∀ stats last, flush.run world = (.ok stats, last) →
      ∃ calls, Closes world calls last ∧ (stats.changes = 0 ↔ .flush ∉ calls) := by
  obtain ⟨moments, unfolds, _⟩ := charted_built built start result world ran
  obtain ⟨rfl, _, scope⟩ := unfolds_replay unfolds
  have still : ∃ calls, start.store.Held start.store calls := ⟨[], accepts, rfl, rfl, rfl, fun _ member => nomatch member⟩
  have held (before : List Moment) := held_replay before still
  have unrefused (before : List Moment) : ∀ asked call, (start.replay before).store.refuses asked call = false := by
    obtain ⟨_, held⟩ := held before
    exact held.accepts
  have outside : (start.replay moments).inScope = false := scope.trans outside
  refine ⟨⟨moments, unfolds, fun before _ _ => ?_, ?_⟩, ?_, ?_⟩
  · obtain ⟨calls, held⟩ := held before
    exact ⟨calls, held, held.kept⟩
  · exact fun before moment _ _ => closes_moment moment (unrefused before)
  · intro hand β body b last built
    refine ⟨closes_scope (unrefused moments) outside built, fun ran => ?_⟩
    have accepts : ∀ asked call, (start.replay moments).nextVersion.store.refuses asked call = false := unrefused moments
    exact closes_scope accepts outside built ran
  · exact fun stats last => closes_flush (unrefused moments) outside

-- The new rate of a clock is put into the world record, and the flush of the world does not flush the store.
theorem changed_rates_are_not_flushed :
    ∃ start world stats last, openOn .inMemory ⟨"new", .standard, 1000, fun _ => 0⟩ = .ok start ∧
      (Operation.setClockInterval 250).run.run start = some (.ok (), world) ∧ flush.run world = (.ok stats, last) ∧
      last.store.asked = .putInfo world.info.toBytes :: world.store.asked ∧
      start.store.info ≠ some world.info.toBytes ∧ stats.changes = 0 := by
  have checked : opensTo .inMemory ⟨"new", .standard, 1000, fun _ => 0⟩ (fun start =>
      Run.gives ((Operation.setClockInterval 250).run.run start) fun _ world =>
        decide (world.infoDirty = true ∧ world.dirty.toList = [] ∧
          start.store.info ≠ some world.info.toBytes)) = true := by decide +kernel
  obtain ⟨start, opened, checked⟩ := opensTo_iff.mp checked
  obtain ⟨_, world, ran, checked⟩ := Run.gives_iff.mp checked
  obtain ⟨waits, clean, differs⟩ := of_decide_eq_true checked
  obtain ⟨outside, _, mirrored, _⟩ := settled_inMemory opened
  have alone : world.RecordAlone := by
    refine ⟨waits, fun id touched => ?_⟩
    rw [← Std.ExtTreeSet.mem_toList, clean] at touched
    cases touched
  have built : Built false (Operation.setClockInterval 250).run := .calls _ fun byHand => nomatch byHand
  obtain ⟨⟨moments, unfolds, held, _⟩, _, flushes⟩ := lone_records_are_not_flushed mirrored.accepts outside built ran
  obtain ⟨_, ⟨accepts, _⟩, _⟩ := held moments [] (List.append_nil moments).symm
  obtain ⟨same, _, scope⟩ := unfolds_replay unfolds
  rw [← same] at accepts
  obtain ⟨⟨stats, ended⟩, _⟩ := commit_accepted accepts
  have flushed : flush.run world = (.ok stats, ((commit true).run world).2) :=
    (run_flush (scope.trans outside)).trans (Prod.ext ended rfl)
  obtain ⟨calls, closes, counts⟩ := flushes stats _ flushed
  have asked := closes.asked
  rw [closes.unflushed alone] at asked counts
  exact ⟨start, world, stats, _, opened, ran, flushed, asked, differs, counts.mpr (by simp)⟩

end World
end ThingWorld
