import ThingWorld.Proofs.Store.Refusals
import ThingWorld.Proofs.Upkeep.Pending
namespace ThingWorld

-- What lies in the store is what would be written of it, and there are no things without a world record.
structure Store.Tidy (store : Store) : Prop where
  things : ∀ id blob thing, store.get? id = some blob → Thing.ofBytes blob = .ok thing → thing.toBytes = blob
  info : ∀ bytes info, store.info = some bytes → Info.ofBytes bytes = .ok info → info.toBytes = bytes
  whole : store.info = none → ∀ id, store.get? id = none

theorem Store.tidy_of_empty {store : Store} (empty : store.Empty) : store.Tidy := by
  refine ⟨?_, ?_, fun _ => empty.2⟩
  · intro id blob thing lies
    cases (empty.2 id).symm.trans lies
  · intro bytes info recorded
    cases empty.1.symm.trans recorded

namespace World

variable {world : World} {refuses : List StoreCall → StoreCall → Bool} {since : List StoreCall}

theorem accounted_commit (accounted : world.Accounted refuses since) (keep : Bool) :
    ((commit keep).run world).2.Accounted refuses since :=
  commit_keeps accounted_writing (fun _ => accounted_congr accounted rfl rfl) keep

theorem accounted_moment (accounted : world.Accounted refuses since) (moment : Moment) :
    (moment.perform world).Accounted refuses since :=
  shelf_moment accounted_congr accounted_commit accounted moment

-- All that a world must be so that in the end its store has what it has.
structure Retrying (world : World) (refuses : List StoreCall → StoreCall → Bool) (since : List StoreCall) : Prop where
  faithful : world.Faithful
  recorded : world.Recorded
  accounted : world.Accounted refuses since

theorem retrying_moment (retrying : world.Retrying refuses since) (moment : Moment) (later : moment.later)
    (clean : moment.clean world) : (moment.perform world).Retrying refuses since :=
  ⟨faithful_moment retrying.faithful moment clean, recorded_moment retrying.recorded moment later,
    accounted_moment retrying.accounted moment⟩

theorem retrying_replay (retrying : world.Retrying refuses since) {moments : List Moment}
    (later : ∀ deed, .did deed ∈ moments → deed.later)
    (clean : Heeds (fun world moment => moment.clean world) world moments) :
    (world.replay moments).Retrying refuses since := by
  have each := Moment.later_of_deeds later
  refine replay_keeps (P := fun world => world.Retrying refuses since) ?_ retrying
    (heeds_and (heeds_of_forall each _) clean)
  exact fun world moment retrying heeds => retrying_moment retrying moment heeds.1 heeds.2

section Opening

variable {store : Store} {options : Options}

theorem accounted_start (shelf : world.store = store) (known : ∀ id : ThingId, world.persisted[id]? = store.get? id) :
    world.Accounted store.refuses store.asked := by
  subst shelf
  refine ⟨rfl, [], rfl, fun id => ⟨fun _ => known id, fun spurned => ?_⟩⟩
  cases spurned

theorem retrying_seeded (none : ∀ id, store.get? id = none) {mid : World} (planted : Planted store options mid world) :
    world.Retrying store.refuses store.asked := by
  refine ⟨(faithful_seeded planted).1, (tracked_seeded planted).2.2, ?_⟩
  obtain ⟨shelf, known⟩ := planted_shelf planted
  have start : ({ mid with inScope := false } : World).Accounted store.refuses store.asked := by
    refine accounted_start shelf fun id => ?_
    rw [none, known]
    rfl
  rw [← planted_last planted]
  exact accounted_commit start true

theorem retrying_reloaded (tidy : store.Tidy) (loaded : Reloaded store world) :
    world.Retrying store.refuses store.asked := by
  refine ⟨?_, ?_, accounted_start loaded.store loaded.persisted⟩
  · intro id _
    rw [loaded.persisted, loaded.things]
    cases lies : store.get? id with
    | none => rfl
    | some blob =>
      obtain ⟨thing, read⟩ := loaded.readable id blob lies
      rw [Option.bind_some, read]
      exact congrArg some (tidy.things id blob thing lies read).symm
  · intro _
    obtain ⟨bytes, recorded, read⟩ := loaded.info
    rw [loaded.store, recorded, tidy.info bytes world.info recorded read]

theorem retrying_opened (tidy : store.Tidy) (opened : openOn store options = .ok world) :
    world.Retrying store.refuses store.asked ∧ world.inScope = false := by
  cases recorded : store.info with
  | none =>
    obtain ⟨mid, planted⟩ := planted_of_seed recorded opened
    exact ⟨retrying_seeded (tidy.whole recorded) planted, outside_seeded planted⟩
  | some bytes =>
    have loaded := reloaded recorded opened
    exact ⟨retrying_reloaded tidy loaded, loaded.inScope⟩

end Opening

-- Whatever the store refuses, and whenever: a run in which no body fails after it has touched a thing.
theorem flushed_stores_keep_what_was_spurned {store : Store} {options : Options} {start : World} (tidy : store.Tidy)
    (opened : openOn store options = .ok start) {hand : Bool} {α : Type} {steps : Run α} {result : Except Failure α}
    {last : World} (built : Built hand steps) (ran : steps.run start = some (result, last)) :
    (∃ moments, Unfolds steps start moments result last ∧ ∀ deed, .did deed ∈ moments → deed.later) ∧
      ∀ moments, Unfolds steps start moments result last → (∀ deed, .did deed ∈ moments → deed.later) →
        Heeds (fun world moment => moment.clean world) start moments →
          ∀ stats flushed, flush.run last = (.ok stats, flushed) →
            flushed.things = last.things ∧ flushed.info = last.info ∧
            flushed.store.info = some last.info.toBytes ∧
            (∀ (id : ThingId) (thing : Thing), last.things[id]? = some thing →
              flushed.store.get? id = some thing.toBytes) ∧
            ∃ recent, flushed.store.asked = recent ++ store.asked ∧ ∀ id : ThingId, last.things[id]? = none →
              ((∃ blob, flushed.store.get? id = some blob) ↔ Spurned store.refuses store.asked id recent) := by
  obtain ⟨retrying, outside⟩ := retrying_opened tidy opened
  refine ⟨?_, ?_⟩
  · obtain ⟨moments, unfolds, within⟩ := charted_built built start result last ran
    exact ⟨moments, unfolds, fun deed member => deed.later_of_within (within deed member)⟩
  intro moments unfolds later clean stats flushed ended
  obtain ⟨rfl, _, scope⟩ := unfolds_replay unfolds
  have retrying := retrying_replay retrying later clean
  rw [run_flush (scope.trans outside)] at ended
  have things := commit_things true (start.replay moments)
  have info := commit_info true (start.replay moments)
  obtain ⟨untouched, written⟩ := commit_completed (congrArg Prod.fst ended)
  obtain ⟨faithful, recorded, accounted⟩ := retrying_moment retrying (.did .flushed) trivial fun kept => nomatch kept
  obtain ⟨_, recent, asked, known⟩ := accounted
  have last : (Moment.did .flushed).perform (start.replay moments) = flushed := congrArg Prod.snd ended
  rw [ended] at things info untouched written
  rw [last] at faithful recorded asked known
  have remembered (id : ThingId) : flushed.persisted[id]? = (start.replay moments).things[id]?.map Thing.toBytes := by
    rw [← things]
    refine faithful id ?_
    rw [untouched]
    exact Std.ExtTreeSet.not_mem_empty
  refine ⟨things, info, ?_, ?_, recent, asked, ?_⟩
  · rw [← info]
    exact recorded written
  · intro id thing found
    have unspurned : ¬Spurned store.refuses store.asked id recent := by
      intro spurned
      have forgotten := ((known id).2 spurned).1
      rw [remembered, found] at forgotten
      cases forgotten
    rw [← (known id).1 unspurned, remembered, found]
    rfl
  · intro id absent
    refine ⟨fun ⟨blob, lies⟩ => ?_, fun spurned => ((known id).2 spurned).2⟩
    by_contra unspurned
    rw [← (known id).1 unspurned, remembered, absent] at lies
    cases lies

theorem kept_scope {hand : Bool} {α : Type} {body : Run α} {a : α} {mid : World} (outside : world.inScope = false)
    (built : Built hand body) (ran : body.run (Moment.opened.perform world) = some (.ok a, mid)) :
    ∃ moments, Unfolds body.scope world moments (mid.settle (.ok a)).1 (mid.settle (.ok a)).2 ∧
      (∀ deed, .did deed ∈ moments → deed.later) ∧ Heeds (fun world moment => moment.clean world) world moments := by
  obtain ⟨moments, unfolds, quiet, later⟩ := built_inside built ran
  have kind : ∀ moment ∈ .opened :: (moments ++ [.ended true]), moment.later ∧ moment ≠ .ended false := by
    intro moment member
    rcases List.mem_cons.mp member with rfl | member
    · exact ⟨trivial, Moment.noConfusion⟩
    · rcases List.mem_append.mp member with member | member
      · obtain ⟨deed, rfl, _⟩ := quiet moment member
        exact ⟨later _ member, Moment.noConfusion⟩
      · rw [List.mem_singleton.mp member]
        exact ⟨trivial, by simp⟩
  refine ⟨_, .outermost outside unfolds, fun deed member => (kind _ member).1, ?_⟩
  exact heeds_clean (fun moment member => (kind moment member).2) world

-- Refuses to delete a thing once.
def reluctant (id : ThingId) : Store :=
  { Store.inMemory with refuses := fun asked call => decide (call = .delete id ∧ .delete id ∉ asked) }

theorem reluctant_stores_keep_things :
    ∃ start last failure stats flushed, openOn (reluctant 7) ⟨"new", .standard, 1000, fun _ => 0⟩ = .ok start ∧
      ((Operation.create "rock" "").run.scope >>= fun id =>
        (Operation.toast (Std.ExtTreeSet.ofList [id])).run.scope.observe).run start =
          some (.ok (.error failure), last) ∧
      flush.run last = (.ok stats, flushed) ∧ last.things[(7 : ThingId)]? = none ∧
      flushed.store.info = some last.info.toBytes ∧ (∃ blob, flushed.store.get? 7 = some blob) ∧
      ∃ recent, flushed.store.asked = recent ++ (reluctant 7).asked ∧
        Spurned (reluctant 7).refuses (reluctant 7).asked 7 recent := by
  have checked : opensTo (reluctant 7) ⟨"new", .standard, 1000, fun _ => 0⟩ (fun start =>
      Run.gives ((Operation.create "rock" "").run.run (Moment.opened.perform start)) fun id made =>
        Run.gives (some (made.settle (.ok id))) fun id' next =>
          Run.gives ((Operation.toast (Std.ExtTreeSet.ofList [id])).run.run (Moment.opened.perform next)) fun _ gone =>
            Run.gives (some (flush.run (gone.settle (.ok ())).2)) fun _ flushed =>
              decide (id' = id ∧ (gone.settle (.ok ())).1.isOk = false ∧
                (gone.settle (.ok ())).2.things[(7 : ThingId)]? = none ∧ (flushed.store.get? 7).isSome = true)) =
      true := by decide +kernel
  obtain ⟨start, opened, checked⟩ := opensTo_iff.mp checked
  obtain ⟨id, made, ran, checked⟩ := Run.gives_iff.mp checked
  obtain ⟨id', next, kept, checked⟩ := Run.gives_iff.mp checked
  obtain ⟨_, gone, ran', checked⟩ := Run.gives_iff.mp checked
  obtain ⟨stats, flushed, ended, checked⟩ := Run.gives_iff.mp checked
  obtain ⟨rfl, refused, absent, present⟩ := of_decide_eq_true checked
  have kept := Option.some.inj kept
  have ended := Option.some.inj ended
  have tidy : (reluctant 7).Tidy := Store.tidy_of_empty Store.empty_inMemory
  have outside := (retrying_opened tidy opened).2
  have create : Built false (Operation.create "rock" "").run := .calls _ fun byHand => nomatch byHand
  have toast (doomed : IdSet) : Built false (Operation.toast doomed).run := .calls _ fun byHand => nomatch byHand
  obtain ⟨before, unfolds, later, clean⟩ := kept_scope outside create ran
  rw [kept] at unfolds
  have outside' := (unfolds_replay unfolds).2.2.trans outside
  obtain ⟨after, unfolds', later', clean'⟩ := kept_scope outside' (toast _) ran'
  generalize gone.settle (.ok ()) = settled at *
  obtain ⟨result, last⟩ := settled
  cases result with
  | ok done => cases refused
  | error failure =>
    have all : Unfolds ((Operation.create "rock" "").run.scope >>= fun id =>
        (Operation.toast (Std.ExtTreeSet.ofList [id])).run.scope.observe) start (before ++ after)
          (.ok (.error failure)) last := .next unfolds (.observed unfolds')
    have built : Built false ((Operation.create "rock" "").run.scope >>= fun id =>
        (Operation.toast (Std.ExtTreeSet.ofList [id])).run.scope.observe) :=
      .follows (.scopes create) fun id => .observes (.scopes (toast _))
    have cleanly : Heeds (fun world moment => moment.clean world) start (before ++ after) := by
      refine heeds_append.mpr ⟨clean, ?_⟩
      rw [← (unfolds_replay unfolds).1]
      exact clean'
    obtain ⟨_, _, recorded, _, recent, asked, spurned⟩ :=
      (flushed_stores_keep_what_was_spurned tidy opened built (unfolds_ran all)).2 _ all
        (fun deed member => (List.mem_append.mp member).elim (later deed) (later' deed)) cleanly stats flushed ended
    have lies := Option.isSome_iff_exists.mp present
    exact ⟨start, last, failure, stats, flushed, opened, unfolds_ran all, ended, absent, recorded, lies, recent,
      asked, (spurned 7 absent).mp lies⟩

end World
end ThingWorld
