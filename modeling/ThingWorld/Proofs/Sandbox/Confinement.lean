import ThingWorld.Proofs.Sandbox.Actions
import ThingWorld.Proofs.Upkeep.Reached
import ThingWorld.Proofs.Upkeep.Scopes
namespace ThingWorld

-- What is done in the name of a script.
def Deed.scripted (context : Script.Context) (deed : Deed) : Prop :=
  deed = .rolled ∨
    ∃ id property value, deed = .revised id (.write property value) ∧ (context.admin = true ∨ id = context.this)

theorem Deed.within_of_scripted {context : Script.Context} {deed : Deed} (scripted : deed.scripted context) :
    deed.within false := by
  obtain rfl | ⟨id, property, value, rfl, _⟩ := scripted <;> exact .inl trivial

theorem Script.suits_scripted (context : Script.Context) :
    Script.Suits (Law.only (Deed.scripted context)) context where
  rolls world := Law.grants_only _ world _ (.inl rfl)
  writes id property value world own := Law.grants_only _ world _ (.inr ⟨id, property, value, rfl, own⟩)

namespace World

variable {context : Script.Context} {world mid last : World} {id : ThingId}

-- The values of things may be others, as far as they may be changed, and what is remembered of them.
structure Scripted (context : Script.Context) (world last : World) : Prop where
  rest : ∃ things index persisted dirty infoDirty inScope store thrown, last = { world with
    things := things, index := index, persisted := persisted, dirty := dirty, infoDirty := infoDirty,
    inScope := inScope, store := store, thrown := thrown }
  things : ∀ id : ThingId, ∃ properties,
    last.things[id]? = world.things[id]?.map fun thing => { thing with properties := properties }
  others : context.admin = false → ∀ id : ThingId, id ≠ context.this → last.things[id]? = world.things[id]?

theorem scripted_of_same (rest : ∃ index persisted dirty infoDirty inScope store thrown, last = { world with
    index := index, persisted := persisted, dirty := dirty, infoDirty := infoDirty, inScope := inScope, store := store,
    thrown := thrown }) : Scripted context world last := by
  obtain ⟨_, _, _, _, _, _, _, rfl⟩ := rest
  refine ⟨⟨_, _, _, _, _, _, _, _, rfl⟩, fun id => ?_, fun _ _ _ => rfl⟩
  cases found : world.things[id]? with
  | none => exact ⟨∅, rfl⟩
  | some thing => exact ⟨thing.properties, rfl⟩

theorem Scripted.trans (first : Scripted context world mid) (second : Scripted context mid last) :
    Scripted context world last := by
  refine ⟨?_, fun id => ?_, fun rights id other => (second.others rights id other).trans (first.others rights id other)⟩
  · obtain ⟨_, _, _, _, _, _, _, _, rfl⟩ := first.rest
    obtain ⟨_, _, _, _, _, _, _, _, rfl⟩ := second.rest
    exact ⟨_, _, _, _, _, _, _, _, rfl⟩
  · obtain ⟨_, before⟩ := first.things id
    obtain ⟨properties, after⟩ := second.things id
    refine ⟨properties, ?_⟩
    rw [after, before, Option.map_map]
    rfl

theorem scripted_write (own : context.admin = true ∨ id = context.this) (property : String) (value : Datum) :
    Scripted context world (world.revise id (Change.write property value).apply) := by
  refine ⟨?_, fun other => ?_, fun rights other apart => ?_⟩
  · obtain ⟨_, _, _, same⟩ := revise_same id (Change.write property value).apply world
    exact ⟨_, _, _, _, _, _, _, _, same⟩
  · rw [revise_things]
    cases found : world.things[other]? with
    | none => exact ⟨∅, rfl⟩
    | some thing =>
      by_cases same : other = id
      · exact ⟨(thing.write property value).properties, by simp [same, Change.apply, Thing.write]⟩
      · exact ⟨thing.properties, by simp [same]⟩
  · rw [rights] at own
    obtain rfl := own.resolve_left Bool.false_ne_true
    rw [revise_things]
    simp [apart]

theorem scripted_moment (moment : Moment) (scripted : ∀ deed, moment = .did deed → deed.scripted context) :
    Scripted context world (moment.perform world) := by
  cases moment with
  | did deed =>
    obtain rfl | ⟨id, property, value, rfl, own⟩ := scripted deed rfl
    · exact scripted_of_same ⟨_, _, _, _, _, _, _, rfl⟩
    · exact scripted_write own property value
  | opened => exact scripted_of_same ⟨_, _, _, _, _, _, _, rfl⟩
  | ended keep =>
    obtain ⟨_, _, _, _, _, same⟩ := commit_same keep { world with inScope := false }
    exact scripted_of_same ⟨_, _, _, _, _, _, _, same⟩

theorem scripted_replay {moments : List Moment} (scripted : ∀ deed, .did deed ∈ moments → deed.scripted context) :
    Scripted context world (world.replay moments) := by
  refine replay_keeps (P := Scripted context world) ?_ (scripted_of_same ⟨_, _, _, _, _, _, _, rfl⟩)
    (heeds_deeds scripted world)
  exact fun mid moment kept scripted => kept.trans (scripted_moment moment scripted)

-- The calls that a source meets when `used` actions were spent before it.
def callsOf (context : Script.Context) (used : Nat) (source : String) (world : World) : List Script.Progress :=
  match Script.validate world.limits source with
  | .error _ => []
  | .ok expr => Script.calls context expr ⟨world, used, [], []⟩

-- What the number of these calls says of how the script ends.
structure Paid (limit used : Nat) (met : List Script.Progress) (outcome : Except Failure Script.Outcome) (total : Nat)
    (last : World) : Prop where
  paced : ∀ (i : Nat) (call : Script.Progress), met[i]? = some call → call.used = used + i
  bounded : used + met.length ≤ limit + 1
  within : used + met.length ≤ limit → total = used + met.length
  beyond : used + met.length = limit + 1 → total = limit ∧
    outcome = .error (.script (Script.RunError.actionLimit limit).message) ∧
    ∃ call, met.getLast? = some call ∧ last = call.world

theorem paid_of_account {limit used : Nat} {met : List Script.Progress} {result : Except Script.RunError Script.Value}
    {last : Script.Progress} (account : Script.Account limit ⟨world, used, [], []⟩ met (Script.failure? result) last) :
    Paid limit used met (Script.finish result last) last.used last.world := by
  obtain ⟨paced, ⟨spent, within, _⟩ | ⟨full, counted, refused, ended⟩⟩ := account
  · dsimp only at spent
    exact ⟨paced, by omega, fun _ => spent, fun _ => by omega⟩
  · dsimp only at counted
    refine ⟨paced, by omega, fun _ => by omega, fun _ => ⟨full, ?_, last, ended, rfl⟩⟩
    cases result with
    | ok value => cases refused
    | error error =>
      obtain rfl := Option.some.inj refused
      rfl

theorem run_unread {context : Script.Context} {used : Nat} {source : String} {failure : Failure}
    (unread : Script.validate world.limits source = .error failure) :
    (Script.runCounted context used source).run world = (.ok (.error failure, used), world) := by
  have ran : (Script.runCounted context used source).run world = Script.runCounted context used source world := rfl
  rw [ran, Script.runCounted, unread]

theorem run_read {context : Script.Context} {used : Nat} {source : String} {expr : Script.Expr}
    (read : Script.validate world.limits source = .ok expr) :
    let ended := (Script.evaluate context expr).run ⟨world, used, [], []⟩
    (Script.runCounted context used source).run world =
      (.ok (Script.finish ended.1 ended.2, ended.2.used), ended.2.world) := by
  have ran : (Script.runCounted context used source).run world = Script.runCounted context used source world := rfl
  rw [ran, Script.runCounted, read]
  rfl

-- What is not read meets no call.
theorem paid_of_refused {limit used : Nat} (enough : used ≤ limit) (failure : Failure) (world : World) :
    Paid limit used [] (.error failure) used world where
  paced i call found := by cases found
  bounded := Nat.le_succ_of_le enough
  within _ := rfl
  beyond spent := by
    have spent : used = limit + 1 := spent
    omega

theorem scripts_are_confined (context : Script.Context) {used : Nat} (enough : used ≤ context.maxActions)
    (source : String) (world : World) :
    ∃ outcome total last, (Script.runCounted context used source).run world = (.ok (outcome, total), last) ∧
      Scripted context world last ∧ last.inScope = world.inScope ∧
      (Index.Keyed world.things → world.checkIndices = true → last.checkIndices = true) ∧
      (∀ failure, Script.validate world.limits source = .error failure →
        outcome = .error failure ∧ total = used ∧ last = world) ∧
      Paid context.maxActions used (callsOf context used source world) outcome total last := by
  obtain ⟨⟨outcome, total⟩, last, ended⟩ :
      ∃ pair last, (Script.runCounted context used source).run world = (.ok pair, last) := by
    cases read : Script.validate world.limits source with
    | error failure => exact ⟨_, _, run_unread read⟩
    | ok expr => exact ⟨_, _, run_read read⟩
  obtain ⟨moments, unfolds, scripted⟩ :=
    Script.charted_runCounted (Script.suits_scripted context) used source world _ _ (congrArg some ended)
  obtain ⟨same, permitted, scope⟩ := unfolds_replay unfolds
  refine ⟨outcome, total, last, ended, ?_, scope, ?_, ?_, ?_⟩
  · rw [same]
    exact scripted_replay scripted
  · intro keyed checked
    have tracked := tracked_replay (tracked_of_checked keyed checked) permitted
    rw [nothing_pending fun deed member => Deed.within_of_scripted (scripted deed member), ← same] at tracked
    exact checked_of_tracked tracked
  · intro failure unread
    rw [run_unread unread] at ended
    cases ended
    exact ⟨rfl, rfl, rfl⟩
  · rw [callsOf]
    cases read : Script.validate world.limits source with
    | error failure =>
      rw [run_unread read] at ended
      cases ended
      exact paid_of_refused enough failure world
    | ok expr =>
      rw [run_read read] at ended
      cases ended
      exact paid_of_account (Script.counted_evaluate expr ⟨world, used, [], []⟩ enough)

-- Four calls: the name is asked for before it is put out.
def repaint : String := "set($this, \"color\", \"red\"); output(name($me)); set($this, \"color\", \"blue\")"

def painter (id : ThingId) (maxActions : Nat) : Script.Context :=
  ⟨id, id, id, none, [], false, maxActions⟩

-- With three actions the last call is one too many.
theorem painted_lobby_stays_red :
    ∃ start last, openOn .inMemory ⟨"new", .standard, 1000, fun _ => 0⟩ = .ok start ∧
      (Script.runCounted (painter start.info.lobby 3) 0 repaint).run start =
        (.ok (.error (.script "Action limit reached (3 max)"), 3), last) ∧
      Scripted (painter start.info.lobby 3) start last ∧ last.checkIndices = true ∧
      last.text? start.info.lobby "color" = some "red" := by
  have checked : opensTo .inMemory ⟨"new", .standard, 1000, fun _ => 0⟩ (fun start =>
      decide ((callsOf (painter start.info.lobby 3) 0 repaint start).length = 4) &&
        Run.gives ((Run.ofAct (Script.runCounted (painter start.info.lobby 3) 0 repaint)).run start) fun _ last =>
          decide (last.text? start.info.lobby "color" = some "red")) = true := by decide +kernel
  obtain ⟨start, opened, checked⟩ := opensTo_iff.mp checked
  obtain ⟨four, checked⟩ := Bool.and_eq_true_iff.mp checked
  obtain ⟨_, last, ran, red⟩ := Run.gives_iff.mp checked
  obtain ⟨outcome, total, last', ran', kept, _, indexed, _, paid⟩ :=
    scripts_are_confined (painter start.info.lobby 3) (Nat.zero_le 3) repaint start
  obtain ⟨_, rfl⟩ := Prod.mk.inj ((Option.some.inj ran).symm.trans ran')
  obtain ⟨rfl, rfl, _⟩ := paid.beyond (by rw [of_decide_eq_true four]; rfl)
  have said : Script.RunError.message (.actionLimit 3) = "Action limit reached (3 max)" := by decide +kernel
  rw [show (painter start.info.lobby 3).maxActions = 3 from rfl, said] at ran'
  obtain ⟨_, tracked, _, _⟩ := settled_inMemory opened
  exact ⟨start, last, opened, ran', kept, indexed tracked.keyed (checked_of_tracked tracked), of_decide_eq_true red⟩

-- A thing that lies under another id is forgotten by the index when the change of a script is committed.
theorem misplaced_things_are_forgotten :
    ∃ start world last outcome, openOn .inMemory ⟨"new", .standard, 1000, fun _ => 0⟩ = .ok start ∧
      openOn (start.store.perform (.put 8 (rock start.info.limbo).toBytes)) ⟨"new", .standard, 1000, fun _ => 0⟩ =
        .ok world ∧
      (world.touch 7).checkIndices = true ∧
      (Script.runCounted (painter world.info.lobby 3) 0 "set($this, \"color\", \"red\")").run (world.touch 7) =
        (.ok (outcome, 1), last) ∧
      last.checkIndices = false := by
  have checked : opensTo .inMemory ⟨"new", .standard, 1000, fun _ => 0⟩ (fun start =>
      opensTo (start.store.perform (.put 8 (rock start.info.limbo).toBytes)) ⟨"new", .standard, 1000, fun _ => 0⟩
        fun world => (world.touch 7).checkIndices &&
          Run.gives ((Run.ofAct (Script.runCounted (painter world.info.lobby 3) 0
            "set($this, \"color\", \"red\")")).run (world.touch 7)) fun ended last =>
              decide (ended.2 = 1) && !last.checkIndices) = true := by decide +kernel
  obtain ⟨start, opened, checked⟩ := opensTo_iff.mp checked
  obtain ⟨world, reopened, checked⟩ := opensTo_iff.mp checked
  obtain ⟨indexed, checked⟩ := Bool.and_eq_true_iff.mp checked
  obtain ⟨⟨outcome, total⟩, last, ran, checked⟩ := Run.gives_iff.mp checked
  obtain ⟨one, unindexed⟩ := Bool.and_eq_true_iff.mp checked
  obtain rfl : total = 1 := of_decide_eq_true one
  exact ⟨start, world, last, outcome, opened, reopened, indexed, Option.some.inj ran, by simpa using unindexed⟩

end World
end ThingWorld
