import ThingWorld.Proofs.Course.Making
namespace ThingWorld

-- Whether a thing has reacted, whether it is deciding a check, and what waits for it.
def Schedule.turn (schedule : Schedule) (id : ThingId) : Bool × Bool × Option Event :=
  (schedule.hasReacted id, schedule.isChecking id, schedule.pending[id]?)

-- What a thing has whose turn was never taken.
def Schedule.unspent : Bool × Bool × Option Event := (false, false, none)

-- What neither makes nor deletes things, and lets all turns be.
def Deed.steady : Deed → Bool
  | allocated => false
  | entered _ _ => false
  | vanished _ => false
  | deed => deed.calm

-- What is steady and what deletes things.
abbrev Law.thinning : Law := Law.only fun deed => deed.steady = true ∨ ∃ ids, deed = .vanished ids

-- What is steady and what makes things.
abbrev Law.growing : Law := Law.only fun deed => deed.makes ∧ deed.calm = true

namespace World

-- The thing is deleted.
def Loses (world world' : World) (id : ThingId) : Prop :=
  world.contains id = true ∧ world'.contains id = false

instance (world world' : World) (id : ThingId) : Decidable (world.Loses world' id) :=
  inferInstanceAs (Decidable (_ ∧ _))

structure Quiet (world world' : World) : Prop where
  limits : world'.limits = world.limits
  registry : world'.registry = world.registry
  tick : world'.schedule.tick = world.schedule.tick
  tally : world'.schedule.tally = world.schedule.tally
  next : world.info.nextId ≤ world'.info.nextId
  came : ∀ id, world'.contains id = true →
    world.contains id = true ∨ world.info.nextId ≤ id ∧ id < world'.info.nextId
  turns : ∀ id, (world.contains id = true → world'.contains id = true) →
    world'.schedule.turn id = world.schedule.turn id

-- The same things are there, and only those who are told of ticks may be others.
structure Steady (world world' : World) : Prop where
  limits : world'.limits = world.limits
  registry : world'.registry = world.registry
  schedule : ∃ subscribers, world'.schedule = { world.schedule with subscribers := subscribers }
  next : world'.info.nextId = world.info.nextId
  held : ∀ id, world'.contains id = world.contains id

-- Some may have gone, with their turns.
structure Thinned (world world' : World) : Prop where
  limits : world'.limits = world.limits
  registry : world'.registry = world.registry
  tick : world'.schedule.tick = world.schedule.tick
  tally : world'.schedule.tally = world.schedule.tally
  next : world'.info.nextId = world.info.nextId
  held : ∀ id, world'.contains id = true → world.contains id = true
  turns : ∀ id, ¬world.Loses world' id → world'.schedule.turn id = world.schedule.turn id
  forgotten : ∀ id, world.Loses world' id → world'.schedule.turn id = Schedule.unspent

-- Whatever may have come, nobody has gone and nobody's turn is another.
structure Grown (world world' : World) : Prop where
  limits : world'.limits = world.limits
  registry : world'.registry = world.registry
  schedule : ∃ subscribers, world'.schedule = { world.schedule with subscribers := subscribers }
  held : ∀ id, world.contains id = true → world'.contains id = true

variable {world mid last : World}

theorem steady_refl (world : World) : Steady world world :=
  ⟨rfl, rfl, ⟨_, rfl⟩, rfl, fun _ => rfl⟩

theorem thinned_of_steady (steady : Steady world last) : Thinned world last := by
  obtain ⟨subscribers, schedule⟩ := steady.schedule
  refine ⟨steady.limits, steady.registry, ?_, ?_, steady.next, fun id held => ?_, fun id _ => ?_, fun id loses => ?_⟩
  · rw [schedule]
  · rw [schedule]
  · rwa [steady.held] at held
  · rw [schedule]
    rfl
  · obtain ⟨held, gone⟩ := loses
    rw [steady.held, held] at gone
    cases gone

theorem thinned_refl (world : World) : Thinned world world :=
  thinned_of_steady (steady_refl world)

theorem grown_of_steady (steady : Steady world last) : Grown world last :=
  ⟨steady.limits, steady.registry, steady.schedule, fun id held => (steady.held id).trans held⟩

theorem quiet_of_thinned (thinned : Thinned world last) : Quiet world last := by
  refine ⟨thinned.limits, thinned.registry, thinned.tick, thinned.tally, UInt64.le_of_eq thinned.next.symm,
    fun id held => .inl (thinned.held id held), fun id stays => thinned.turns id fun loses => ?_⟩
  exact Bool.noConfusion ((stays loses.1).symm.trans loses.2)

theorem quiet_of_steady (steady : Steady world last) : Quiet world last :=
  quiet_of_thinned (thinned_of_steady steady)

theorem quiet_refl (world : World) : Quiet world world :=
  quiet_of_steady (steady_refl world)

theorem thinned_trans (first : Thinned world mid) (rest : Thinned mid last) : Thinned world last := by
  refine ⟨rest.limits.trans first.limits, rest.registry.trans first.registry, rest.tick.trans first.tick,
    rest.tally.trans first.tally, rest.next.trans first.next, fun id held => first.held id (rest.held id held), ?_, ?_⟩
  · intro id stays
    have stays' : ¬world.Loses mid id := by
      rintro ⟨held, gone⟩
      refine stays ⟨held, Bool.eq_false_iff.mpr fun held' => ?_⟩
      exact Bool.noConfusion ((rest.held id held').symm.trans gone)
    exact (rest.turns id fun loses => stays ⟨first.held id loses.1, loses.2⟩).trans (first.turns id stays')
  · rintro id ⟨held, gone⟩
    cases held' : mid.contains id with
    | true => exact rest.forgotten id ⟨held', gone⟩
    | false =>
      have stays : ¬mid.Loses last id := fun loses => Bool.noConfusion (loses.1.symm.trans held')
      exact (rest.turns id stays).trans (first.forgotten id ⟨held, held'⟩)

theorem turn_of_grown (grown : Grown world last) (id : ThingId) : last.schedule.turn id = world.schedule.turn id := by
  obtain ⟨_, schedule⟩ := grown.schedule
  rw [schedule]
  rfl

theorem grown_trans (first : Grown world mid) (rest : Grown mid last) : Grown world last := by
  obtain ⟨_, schedule⟩ := first.schedule
  obtain ⟨subscribers, schedule'⟩ := rest.schedule
  refine ⟨rest.limits.trans first.limits, rest.registry.trans first.registry, ⟨subscribers, ?_⟩,
    fun id held => rest.held id (first.held id held)⟩
  rw [schedule', schedule]

theorem steady_commit (keep : Bool) (world : World) : Steady world ((commit keep).run world).2 := by
  obtain ⟨_, _, _, _, _, same⟩ := commit_same keep world
  rw [same]
  exact ⟨rfl, rfl, ⟨_, rfl⟩, rfl, fun _ => rfl⟩

theorem steady_reindex (world : World) (id : ThingId) : Steady world (world.reindex id) := by
  obtain ⟨_, same⟩ := reindex_same world id
  rw [same]
  exact ⟨rfl, rfl, ⟨_, rfl⟩, rfl, fun _ => rfl⟩

theorem steady_trans (first : Steady world mid) (rest : Steady mid last) : Steady world last := by
  obtain ⟨_, schedule⟩ := first.schedule
  obtain ⟨subscribers, schedule'⟩ := rest.schedule
  refine ⟨rest.limits.trans first.limits, rest.registry.trans first.registry, ⟨subscribers, ?_⟩,
    rest.next.trans first.next, fun id => (rest.held id).trans (first.held id)⟩
  rw [schedule', schedule]

theorem steady_retouch (id : ThingId) (f : Thing → Thing) (world : World) : Steady world (world.retouch id f) := by
  have held := retouch_contains id f world
  obtain ⟨_, _, same⟩ := retouch_same id f world
  rw [same] at held ⊢
  exact ⟨rfl, rfl, ⟨_, rfl⟩, rfl, held⟩

theorem steady_deed {deed : Deed} (steady : deed.steady = true) (world : World) : Steady world (deed.perform world) := by
  cases deed with
  | revised id change => exact steady_trans (steady_retouch id change.apply world) (steady_reindex _ id)
  | dressed id properties => exact steady_retouch id (dress properties) world
  | edited id f => exact steady_retouch id f world
  | told id line =>
    obtain ⟨_, same⟩ := tell_same id line world
    rw [Deed.perform, same]
    exact ⟨rfl, rfl, ⟨_, rfl⟩, rfl, fun _ => rfl⟩
  | rated interval =>
    rcases rate_same interval world with same | ⟨rate, same⟩ <;> rw [Deed.perform, same] <;>
      exact ⟨rfl, rfl, ⟨_, rfl⟩, rfl, fun _ => rfl⟩
  | flushed => exact steady_commit true world
  | allocated => cases steady
  | entered id thing => cases steady
  | vanished ids => cases steady
  | paced pace =>
    cases pace with
    | subscribe id => exact ⟨rfl, rfl, ⟨_, rfl⟩, rfl, fun _ => rfl⟩
    | unsubscribe id => exact ⟨rfl, rfl, ⟨_, rfl⟩, rfl, fun _ => rfl⟩
    | _ => cases steady
  | _ => exact ⟨rfl, rfl, ⟨_, rfl⟩, rfl, fun _ => rfl⟩

-- A forgotten thing is gone, and nobody else is.
theorem thinned_vanish (id : ThingId) (world : World) : Thinned world (world.vanish id) := by
  rw [vanish]
  split
  · rename_i held
    refine thinned_trans ?_ (thinned_of_steady (steady_reindex _ id))
    have others (other : ThingId) (differs : id ≠ other) :
        (world.schedule.forget id).turn other = world.schedule.turn other := by
      simp [Schedule.turn, Schedule.forget, Schedule.hasReacted, Schedule.isChecking, Std.ExtTreeMap.getElem?_erase,
        Std.ExtTreeSet.contains_erase, differs]
    have forgotten : (world.schedule.forget id).turn id = Schedule.unspent := by
      simp [Schedule.turn, Schedule.forget, Schedule.hasReacted, Schedule.isChecking, Schedule.unspent]
    have erased (other : ThingId) :
        (world.things.erase id).contains other = true ↔ id ≠ other ∧ world.contains other = true := by
      rw [Std.ExtTreeMap.contains_erase]
      simp [contains]
    refine ⟨rfl, rfl, rfl, rfl, rfl, fun other held => ((erased other).mp held).2, fun other stays => ?_, ?_⟩
    · apply others
      rintro rfl
      exact stays ⟨held, Bool.eq_false_iff.mpr fun kept => ((erased id).mp kept).1 rfl⟩
    · rintro other ⟨there, gone⟩
      obtain rfl : id = other := by
        by_contra differs
        exact Bool.noConfusion (((erased other).mpr ⟨differs, there⟩).symm.trans gone)
      exact forgotten
  · exact thinned_refl world

theorem thinned_vanishAll (ids : List ThingId) : ∀ world : World, Thinned world (ids.foldl vanish world) := by
  induction ids with
  | nil => exact thinned_refl
  | cons id rest ih => exact fun world => thinned_trans (thinned_vanish id world) (ih (world.vanish id))

theorem steady_scope (inside : Bool) (world : World) : Steady world { world with inScope := inside } :=
  ⟨rfl, rfl, ⟨_, rfl⟩, rfl, fun _ => rfl⟩

theorem steady_settle {α : Type} (result : Except Failure α) (world : World) : Steady world (world.settle result).2 := by
  rw [settle_world]
  exact steady_trans (steady_scope false world) (steady_commit _ _)

theorem thinned_replay {moments : List Moment}
    (only : ∀ deed, .did deed ∈ moments → deed.steady = true ∨ ∃ ids, deed = .vanished ids) (world : World) :
    Thinned world (world.replay moments) := by
  refine replay_keeps (P := Thinned world) ?_ (thinned_refl world) (heeds_deeds only world)
  intro mid moment thinned only
  refine thinned_trans thinned ?_
  cases moment with
  | did deed =>
    rcases only deed rfl with steady | ⟨ids, rfl⟩
    · exact thinned_of_steady (steady_deed steady mid)
    · exact thinned_vanishAll ids mid
  | opened => exact thinned_of_steady (steady_scope true mid)
  | ended kept => exact thinned_of_steady (steady_trans (steady_scope false mid) (steady_commit kept _))

theorem grown_deed {deed : Deed} (makes : deed.makes) (calm : deed.calm = true) (world : World) :
    Grown world (deed.perform world) := by
  cases deed with
  | allocated => exact ⟨rfl, rfl, ⟨_, rfl⟩, fun _ held => held⟩
  | entered id thing =>
    have placed : Grown world ((world.place id thing).touch id) := by
      refine ⟨rfl, rfl, ⟨_, rfl⟩, fun other held => ?_⟩
      show (world.things.insert id thing).contains other = true
      simp [show world.things.contains other = true from held]
    exact grown_trans placed (grown_of_steady (steady_reindex _ id))
  | vanished ids => exact makes.elim
  | _ =>
    refine grown_of_steady (steady_deed ?_ world)
    exact calm

theorem grown_replay {moments : List Moment} (only : ∀ deed, .did deed ∈ moments → deed.makes ∧ deed.calm = true)
    (world : World) : Grown world (world.replay moments) := by
  refine replay_keeps (P := Grown world) ?_ (grown_of_steady (steady_refl world)) (heeds_deeds only world)
  intro mid moment grown only
  refine grown_trans grown ?_
  cases moment with
  | did deed => exact grown_deed (only deed rfl).1 (only deed rfl).2 mid
  | opened => exact grown_of_steady (steady_scope true mid)
  | ended kept => exact grown_of_steady (steady_trans (steady_scope false mid) (steady_commit kept _))

section Runs

variable {α : Type} {steps : Run α} {result : Except Failure α}

theorem thinned_of_thinning (charted : Charted .thinning steps world) (ran : steps.run world = some (result, last)) :
    Thinned world last := by
  obtain ⟨moments, unfolds, only⟩ := charted result last ran
  rw [(unfolds_replay unfolds).1]
  exact thinned_replay only world

theorem growing_makes : Law.growing.Suffers Deed.makes :=
  Law.grants_only _

theorem grown_making (operation : Operation α) (makes : operation.makes = true)
    (ran : operation.run.run world = some (result, last)) : Grown world last := by
  obtain ⟨moments, unfolds, only⟩ := charted_making growing_makes operation makes world result last ran
  rw [(unfolds_replay unfolds).1]
  exact grown_replay only world

-- What is made gets an id that was not handed out before, while ids are left.
theorem quiet_making (operation : Operation α) (makes : operation.makes = true)
    (left : world.Affords (operation.takes world)) (ran : operation.run.run world = some (result, last)) :
    Quiet world last := by
  have grown := grown_making operation makes ran
  obtain ⟨act, same, raises⟩ := raised_operation operation makes
  have raised := raises (UInt64.le_refl _) left
  have ran' : act.run world = (result, last) := by
    rw [same] at ran
    exact Option.some.inj ran
  rw [ran'] at raised
  obtain ⟨_, schedule⟩ := grown.schedule
  refine ⟨grown.limits, grown.registry, ?_, ?_, raised.climbs, fun id held => ?_, fun id _ => ?_⟩
  · rw [schedule]
  · rw [schedule]
  · rcases UInt64.lt_or_le id world.info.nextId with low | high
    · obtain ⟨thing, found⟩ := some_of_contains held
      rw [raised.things id low] at found
      exact .inl (contains_of_some found)
    · exact (raised.came id held).imp_right fun handed => ⟨high, handed⟩
  · exact turn_of_grown grown id

theorem steady_of_revises (deed : Deed) (revises : deed.revises) : deed.steady = true := by
  obtain ⟨id, change, rfl, _⟩ := revises
  rfl

theorem steady_of_plain (deed : Deed) (plain : deed.plain = true ∧ deed.calm = true) : deed.steady = true := by
  obtain ⟨plain, calm⟩ := plain
  cases deed with
  | revised id change => rfl
  | told id line => rfl
  | paced pace => exact calm
  | versioned => rfl
  | rolled => rfl
  | _ => cases plain

theorem thinning_plain : Law.thinning.Suffers fun deed => deed.plain = true :=
  Law.grants_mono (Law.grants_only _) fun deed plain => .inl (steady_of_plain deed plain)

theorem thinning_revises : Law.thinning.Grants Deed.revises :=
  Law.grants_mono (Law.grants_only _) fun deed revises => .inl (steady_of_revises deed revises)

theorem thinning_alters : Law.thinning.Grants Deed.alters := by
  refine Law.grants_mono (Law.grants_only _) ?_
  rintro deed ⟨id, change, rfl⟩
  exact .inl rfl

end Runs

section Operations

theorem thinned_toast (doomed : IdSet) (world : World) : Thinned world ((toast doomed).run world).2 := by
  refine thinned_of_thinning (charted_toast thinning_revises ?_ doomed world) rfl
  exact Law.grants_mono (Law.grants_only _) fun deed vanished => .inr vanished

theorem thinned_setPrototype (id : ThingId) (prototype : Option ThingId) (world : World) :
    Thinned world ((setPrototype id prototype).run world).2 :=
  thinned_of_thinning (charted_setPrototype thinning_alters id prototype world) rfl

end Operations

end World
end ThingWorld
