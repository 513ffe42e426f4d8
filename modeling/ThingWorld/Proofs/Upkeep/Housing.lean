import ThingWorld.Proofs.Upkeep.Reached
namespace ThingWorld.World

variable {world : World} {pending off : List ThingId} {id : ThingId}

-- A world that was opened, whatever lay in its store, with all that was done to it since, within runs and after them.
inductive Arises : World → Prop where
  | opened {store : Store} {options : Options} {world : World} (opened : openOn store options = .ok world)
      (own : Index.Keyed world.things) : Arises world
  | went {world : World} {moment : Moment} (before : Arises world) (allowed : moment.allowed world) :
      Arises (moment.perform world)

theorem arises_after {moments : List Moment} {α : Type} {steps : Run α} {result : Except Failure α} {world' : World}
    (before : Arises world) (unfolds : Unfolds steps world moments result world') : Arises world' := by
  obtain ⟨rfl, permitted, _⟩ := unfolds_replay unfolds
  exact replay_keeps (P := Arises) (fun _ _ before allowed => .went before allowed) before permitted

theorem arises_of_reached {origin : Origin} {ledger : Ledger} (reached : Reached origin world ledger) : Arises world := by
  induction reached with
  | seeded fresh opened own => exact .opened opened (sustained_seeded fresh opened own).tracked.keyed
  | imported read fits opened =>
    have keyed := (sustained_imported read fits opened).tracked.keyed
    rw [importText, read] at opened
    dsimp only at opened
    rw [importDump] at opened
    split at opened
    · cases opened
    · exact .opened opened keyed
  | reopened before complete fits opened ih =>
    exact .opened opened (sustained_reopened (reached_sustained before) complete fits opened).tracked.keyed
  | called before built unfolds within ih => exact arises_after ih unfolds

-- Of an id without a thing the index was last told nothing, but for those listed.
def HousedBut (world : World) (off : List ThingId) : Prop :=
  ∃ states, Index.Reflects world.index states ∧ ∀ id, id ∉ off → world.contains id = false → states id = .nothing

theorem stateAmong_absent (absent : world.contains id = false) : Index.stateAmong world.things id = .nothing := by
  simp [Index.stateAmong, Std.ExtTreeMap.getElem?_eq_none_of_contains_eq_false absent]

theorem housed_change {world' : World} (housed : world.HousedBut []) (index : world'.index = world.index)
    (gone : ∀ id, id ∉ off → world'.contains id = false → world.contains id = false) : world'.HousedBut off := by
  obtain ⟨states, reflects, empty⟩ := housed
  refine ⟨states, ?_, ?_⟩
  · rw [index]
    exact reflects
  · exact fun id outside absent => empty id List.not_mem_nil (gone id outside absent)

theorem housed_congr {world' : World} (housed : world.HousedBut []) (index : world'.index = world.index)
    (things : world'.things = world.things) : world'.HousedBut [] :=
  housed_change housed index fun id _ absent => (contains_congr things id).symm.trans absent

theorem housed_of_shown (shown : world.ShownBut []) : world.HousedBut [] := by
  obtain ⟨states, reflects, right⟩ := shown
  exact ⟨states, reflects, fun id outside absent => (right id outside).trans (stateAmong_absent absent)⟩

theorem housed_reindex (keyed : Index.Keyed world.things) (housed : world.HousedBut [id]) :
    (world.reindex id).HousedBut [] := by
  obtain ⟨states, reflects, empty⟩ := housed
  refine ⟨Function.update states id (Index.stateAmong world.things id), ?_, ?_⟩
  · rw [reindex_index keyed]
    exact Index.reflects_apply reflects id _
  · intro other _ absent
    rw [contains_congr (reindex_things world id)] at absent
    by_cases same : other = id
    · subst same
      rw [Function.update_self]
      exact stateAmong_absent absent
    · rw [Function.update_of_ne same]
      exact empty other (by simp [same]) absent

theorem housed_retouch (housed : world.HousedBut []) (id : ThingId) (f : Thing → Thing) :
    (world.retouch id f).HousedBut off := by
  refine housed_change housed ?_ ?_
  · unfold retouch
    split <;> rfl
  · intro other _ absent
    cases held : world.contains other with
    | false => rfl
    | true =>
      have kept := contains_retouch held id f
      rw [absent] at kept
      cases kept

theorem housed_reindexAll (ids : List ThingId) : ∀ {world : World}, Index.Keyed world.things → world.HousedBut [] →
    (ids.foldl reindex world).HousedBut [] := by
  induction ids with
  | nil => exact fun _ housed => housed
  | cons id rest ih =>
    intro world keyed housed
    have keyed' : Index.Keyed (world.reindex id).things := by rwa [reindex_things]
    exact ih keyed' (housed_reindex keyed (housed_change housed rfl fun _ _ absent => absent))

theorem housed_commit (keyed : Index.Keyed world.things) (housed : world.HousedBut []) (keep : Bool) :
    ((commit keep).run world).2.HousedBut [] := by
  obtain ⟨_, _, _, _, same⟩ := backstage_writing (writing_commit keep world)
  have start : ({ world with dirty := ∅ } : World).HousedBut [] := housed_congr housed rfl rfl
  have caught : world.catchUp.HousedBut [] := housed_reindexAll world.dirty.toList keyed start
  rw [same]
  exact housed_congr caught rfl rfl

theorem housed_vanish (keyed : Index.Keyed world.things) (housed : world.HousedBut []) (id : ThingId) :
    (world.vanish id).HousedBut [] := by
  unfold vanish
  split
  · refine housed_reindex (keyed_erase keyed) (housed_change housed rfl ?_)
    intro other differs absent
    have erased : (world.things.erase id).contains other = false := absent
    simpa [Std.ExtTreeMap.contains_erase, contains, Ne.symm (List.mem_singleton.not.mp differs)] using erased
  · exact housed

theorem housed_vanishAll (ids : List ThingId) : ∀ {world : World}, world.Tracked pending → world.HousedBut [] →
    (ids.foldl vanish world).HousedBut [] := by
  induction ids with
  | nil => exact fun _ housed => housed
  | cons id rest ih => exact fun tracked housed => ih (tracked_vanish tracked id) (housed_vanish tracked.keyed housed id)

theorem housed_deed (tracked : world.Tracked pending) (housed : world.HousedBut []) (deed : Deed)
    (allowed : deed.allowed world) : (deed.perform world).HousedBut [] := by
  cases handled : deed.handles with
  | true =>
    cases deed with
    | revised id change =>
      have keyed : Index.Keyed (world.retouch id change.apply).things := keyed_retouch tracked.keyed (change_id change)
      exact housed_reindex keyed (housed_retouch housed id change.apply)
    | dressed id properties => exact housed_retouch housed id _
    | edited id f => exact housed_retouch housed id f
    | touched id => exact housed_congr housed rfl rfl
    | entered id thing =>
      refine housed_reindex (keyed_insert tracked.keyed allowed.1) (housed_change housed rfl ?_)
      intro other _ absent
      have inserted : (world.things.insert id thing).contains other = false := absent
      simp only [Std.ExtTreeMap.contains_insert, Bool.or_eq_false_iff] at inserted
      exact inserted.2
    | vanished ids => exact housed_vanishAll ids tracked housed
    | flushed => exact housed_commit tracked.keyed housed true
    | _ => cases handled
  | false =>
    obtain ⟨things, index, _⟩ := deed_apart handled world
    exact housed_congr housed index things

theorem housed_moment (tracked : world.Tracked pending) (housed : world.HousedBut []) (moment : Moment)
    (allowed : moment.allowed world) : (moment.perform world).HousedBut [] := by
  cases moment with
  | did deed => exact housed_deed tracked housed deed allowed
  | opened => exact housed_congr housed rfl rfl
  | ended keep =>
    have closed : ({ world with inScope := false } : World).HousedBut [] := housed_congr housed rfl rfl
    have keyed : Index.Keyed ({ world with inScope := false } : World).things := tracked.keyed
    exact housed_commit keyed closed keep

theorem tracked_opened {store : Store} {options : Options} (opened : openOn store options = .ok world)
    (own : Index.Keyed world.things) : world.Tracked [] := by
  cases recorded : store.info with
  | none =>
    obtain ⟨mid, planted⟩ := planted_of_seed recorded opened
    exact (tracked_seeded planted).1
  | some bytes => exact tracked_rebuilt own (reloaded recorded opened).index

theorem arises_housed (arises : Arises world) : (∃ pending, world.Tracked pending) ∧ world.HousedBut [] := by
  induction arises with
  | opened opened own =>
    have tracked := tracked_opened opened own
    exact ⟨⟨[], tracked⟩, housed_of_shown tracked.shown⟩
  | went before allowed ih =>
    obtain ⟨⟨pending, tracked⟩, housed⟩ := ih
    exact ⟨⟨_, tracked_moment tracked _ allowed⟩, housed_moment tracked housed _ allowed⟩

theorem contains_associated (housed : world.HousedBut []) {relation : String} {target : ThingId}
    (listed : id ∈ world.index.associated relation target) : world.contains id = true := by
  obtain ⟨states, reflects, empty⟩ := housed
  have held : ⟨relation, target⟩ ∈ (states id).edges := (Index.mem_associated reflects.edges.holders _ _ _).mp listed
  cases there : world.contains id with
  | true => rfl
  | false =>
    rw [empty id List.not_mem_nil there] at held
    simp [Indexed.nothing] at held

end ThingWorld.World
