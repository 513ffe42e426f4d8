import ThingWorld.Proofs.Course.Batches
namespace ThingWorld

def Deed.keepsAll : Deed → Prop
  | vanished _ => False
  | edited _ _ => False
  | _ => True

theorem Deed.keepsAll_of_makes (deed : Deed) (makes : deed.makes) : deed.keepsAll := by
  cases deed <;> trivial

namespace World

variable {law : Law}

def Holds (world : World) (ids : List ThingId) : Prop :=
  ∀ id ∈ ids, world.contains id = true

theorem holds_cons {world : World} {id : ThingId} {ids : List ThingId} (one : world.contains id = true)
    (rest : world.Holds ids) : world.Holds (id :: ids) := by
  intro other member
  cases member with
  | head => exact one
  | tail _ member => exact rest other member

theorem contains_place {world : World} {id : ThingId} (held : world.contains id = true) (other : ThingId)
    (thing : Thing) : (world.place other thing).contains id = true := by
  rw [contains, place, Std.ExtTreeMap.contains_insert]
  simp [show world.things.contains id = true from held]

theorem retouch_contains (id : ThingId) (f : Thing → Thing) (world : World) (other : ThingId) :
    (world.retouch id f).contains other = world.contains other := by
  rw [retouch]
  cases found : world.things[id]? with
  | none => rfl
  | some thing =>
    show (world.things.insert id (f thing)).contains other = world.things.contains other
    rw [Std.ExtTreeMap.contains_insert]
    by_cases same : id = other
    · subst same
      simp [show world.things.contains id = true from contains_of_some found]
    · simp [same]

theorem contains_retouch {world : World} {id : ThingId} (held : world.contains id = true) (other : ThingId)
    (f : Thing → Thing) : (world.retouch other f).contains id = true := by
  rwa [retouch_contains]

theorem contains_deed {world : World} {id : ThingId} (held : world.contains id = true) (deed : Deed)
    (keeps : deed.keepsAll) : (deed.perform world).contains id = true := by
  cases deed with
  | revised other change =>
    exact (contains_congr (reindex_things _ _) id).trans (contains_retouch held other change.apply)
  | dressed other properties => exact contains_retouch held other _
  | edited other f => exact keeps.elim
  | touched other => exact held
  | entered other thing =>
    exact (contains_congr (reindex_things _ _) id).trans (contains_place held other thing)
  | vanished ids => exact keeps.elim
  | flushed => exact (contains_congr (commit_things true world) id).trans held
  | _ => exact (contains_congr (deed_apart rfl world).1 id).trans held

theorem holds_replay {ids : List ThingId} {moments : List Moment}
    (only : ∀ deed, .did deed ∈ moments → deed.keepsAll) (world : World) (holds : world.Holds ids) :
    (world.replay moments).Holds ids := by
  refine replay_keeps (P := fun last => last.Holds ids) ?_ holds (heeds_deeds only world)
  intro mid moment holds only id member
  cases moment with
  | did deed => exact contains_deed (holds id member) deed (only deed rfl)
  | opened => exact holds id member
  | ended kept => exact (contains_congr (commit_things kept _) id).trans (holds id member)

theorem scope_kept {α : Type} {body : Act α} {world world' : World} {a : α} (outside : world.inScope = false)
    (ran : body.scope.run world = (.ok a, world')) :
    ∃ mid stats, body.run (Moment.opened.perform world) = (.ok a, mid) ∧
      (commit true).run { mid with inScope := false } = (.ok stats, world') := by
  rw [Act.run_outermost outside] at ran
  cases inner : body.run { world with inScope := true } with
  | mk result mid =>
    rw [inner] at ran
    cases result with
    | error failure => cases ran
    | ok b =>
      simp only [settle] at ran
      cases written : (commit true).run { mid with inScope := false } with
      | mk result last =>
        rw [written] at ran
        cases result with
        | error failure => cases ran
        | ok stats =>
          cases ran
          exact ⟨mid, stats, inner, written⟩

-- A body starts inside its scope from the world that the scope met, and the end of the scope concerns only the store.
theorem scope_leaves {α : Type} (body : Act α) (world : World) : ∃ index persisted dirty infoDirty inScope store,
    (body.scope.run world).2 =
      { (body.run { world with inScope := true }).2 with
        index := index, persisted := persisted, dirty := dirty, infoDirty := infoDirty, inScope := inScope,
        store := store } ∧
    ∀ a, (body.scope.run world).1 = .ok a → (body.run { world with inScope := true }).1 = .ok a := by
  cases scope : world.inScope with
  | true =>
    have same : { world with inScope := true } = world := by rw [← scope]
    rw [Act.run_joined scope, same]
    exact ⟨_, _, _, _, _, _, rfl, fun _ gives => gives⟩
  | false =>
    rw [Act.run_outermost scope]
    generalize body.run { world with inScope := true } = ended
    obtain ⟨result, mid⟩ := ended
    dsimp only
    rw [settle_world, Moment.perform]
    obtain ⟨index, persisted, dirty, infoDirty, store, same⟩ := commit_same result.isOk { mid with inScope := false }
    rw [same]
    refine ⟨_, _, _, _, _, _, rfl, fun a gives => ?_⟩
    cases result with
    | error failure => exact gives
    | ok b =>
      simp only [settle] at gives
      split at gives
      · exact gives
      · cases gives

theorem scope_gave {α : Type} {body : Act α} {world last : World} {a : α} (ran : body.scope.run world = (.ok a, last)) :
    ∃ mid, body.run { world with inScope := true } = (.ok a, mid) ∧ last.things = mid.things ∧
      last.info = mid.info ∧ last.schedule = mid.schedule := by
  obtain ⟨_, _, _, _, _, _, same, gives⟩ := scope_leaves body world
  rw [ran] at same gives
  refine ⟨_, Prod.ext (gives a rfl) rfl, ?_, ?_, ?_⟩ <;> rw [show last = _ from same]

-- A bare thing gets the next id, whether there is a thing of that id or not.
theorem createBare_takes {prototype place : Option ThingId} {world mid : World} {id : ThingId}
    (ran : (createBare prototype place).run world = (.ok id, mid)) : id = world.info.nextId ∧
      mid.things[id]? = some (place.elim (Thing.fresh id prototype) fun place =>
        (Thing.fresh id prototype).addEdge ⟨Relation.location, place⟩) := by
  obtain ⟨last, ran, same, _⟩ := scope_gave ran
  rw [same]
  rw [Act.run_bind, run_allocate] at ran
  cases ran
  refine ⟨rfl, ?_⟩
  rw [reindex_things]
  cases place <;>
    exact (Std.ExtTreeMap.getElem?_insert_self : (world.things.insert world.info.nextId _)[world.info.nextId]? = _)

theorem contains_createBare {prototype place : Option ThingId} {world mid : World} {id : ThingId}
    (ran : (createBare prototype place).run world = (.ok id, mid)) : mid.contains id = true :=
  contains_of_some (createBare_takes ran).2

theorem contains_plant {prototype place : Option ThingId} {properties : List (String × Datum)} {world mid : World}
    {id : ThingId} (ran : (plant prototype place properties).run world = (.ok id, mid)) : mid.contains id = true := by
  rw [plant, Act.run_bind] at ran
  split at ran
  · rename_i ran'
    have held := contains_createBare ran'
    rw [Act.run_bind, run_edit, held] at ran
    cases ran
    exact contains_retouch held _ _
  · cases ran

theorem charted_plant (makes : law.Suffers Deed.makes) (prototype place : Option ThingId)
    {properties : List (String × Datum)} (apart : ∀ written ∈ properties, written.1 ≠ Property.everywhere)
    (world : World) : Charted law (Run.ofAct (plant prototype place properties)) world := by
  refine charted_act_bind (charted_createBare makes prototype place world) ?_
  intro id mid _
  refine charted_act_bind ?_ fun _ _ _ => charted_act_pure _
  exact charted_dress id properties (fun world => makes world _ ⟨trivial, rfl⟩) apart mid

-- What no world can do without is there.
structure Standing (world : World) : Prop where
  limbo : world.contains world.info.limbo = true
  lobby : world.contains world.info.lobby = true
  hall : world.contains world.info.hall = true

-- And with it the standard prototypes.
structure Founded (world : World) : Prop extends Standing world where
  prototypes : ∀ name ∈ [Standard.thing, Standard.room, Standard.link, Standard.person],
    ∃ id, world.prototype? name = some id ∧ world.contains id = true

-- What is said once and for all when a world is founded.
def foundationOf (info : Info) : ThingId × ThingId × ThingId × Std.ExtTreeMap String ThingId × String :=
  (info.limbo, info.lobby, info.hall, info.prototypes, info.name)

def foundation (world : World) : ThingId × ThingId × ThingId × Std.ExtTreeMap String ThingId × String :=
  foundationOf world.info

-- Who writes into the world record later on leaves its foundation alone.
theorem foundation_deed (deed : Deed) (later : deed.later) (world : World) :
    (deed.perform world).foundation = world.foundation := by
  cases recorded : deed.records with
  | false => exact congrArg foundationOf (deed_info recorded world)
  | true =>
    cases deed with
    | allocated => rfl
    | noted => rfl
    | rated interval =>
      rcases rate_same interval world with same | ⟨rate, same⟩
      · rw [Deed.perform, same]
      · rw [Deed.perform, same]
        rfl
    | limboed limbo => exact later.elim
    | founded hall lobby prototypes => exact later.elim
    | _ => cases recorded

theorem foundation_moment (moment : Moment) (later : moment.later) (world : World) :
    (moment.perform world).foundation = world.foundation := by
  cases moment with
  | did deed => exact foundation_deed deed later world
  | opened => rfl
  | ended kept => exact congrArg foundationOf (commit_info kept { world with inScope := false })

theorem foundation_replay {moments : List Moment} (only : ∀ deed, .did deed ∈ moments → deed.later) (world : World) :
    (world.replay moments).foundation = world.foundation := by
  refine replay_keeps (P := fun last => last.foundation = world.foundation) ?_ rfl
    (heeds_of_forall (Moment.later_of_deeds only) world)
  exact fun mid moment kept later => (foundation_moment moment later mid).trans kept

theorem grants_makes : (Law.only Deed.makes).Grants Deed.makes :=
  Law.grants_only Deed.makes

-- Where things are only made, what was there stays there and the foundation is as it was.
theorem made {α : Type} {act : Act α} {world mid : World} {result : Except Failure α}
    (charted : Charted (.only Deed.makes) (Run.ofAct act) world) (ran : act.run world = (result, mid)) :
    mid.foundation = world.foundation ∧ ∀ ids, world.Holds ids → mid.Holds ids := by
  obtain ⟨moments, unfolds, only⟩ := charted result mid (congrArg some ran)
  rw [(unfolds_replay unfolds).1]
  refine ⟨foundation_replay (fun deed member => deed.later_of_lives (deed.lives_of_makes (only deed member))) world, ?_⟩
  exact fun ids => holds_replay (fun deed member => deed.keepsAll_of_makes (only deed member)) world

theorem planted {prototype place : Option ThingId} {properties : List (String × Datum)}
    (apart : ∀ written ∈ properties, written.1 ≠ Property.everywhere) {world mid : World} {id : ThingId}
    (ran : (plant prototype place properties).run world = (.ok id, mid)) (ids : List ThingId)
    (holds : world.Holds ids) : mid.foundation = world.foundation ∧ mid.Holds (id :: ids) := by
  obtain ⟨foundation, keeps⟩ := made (charted_plant (Law.suffers_of_grants grants_makes) prototype place apart world) ran
  exact ⟨foundation, holds_cons (contains_plant ran) (keeps ids holds)⟩

theorem moved {things : List ThingId} {place : ThingId} {world mid : World} {result : Except Failure Unit}
    (ran : (things.forM fun thing => setLocation thing place).run world = (result, mid)) :
    mid.foundation = world.foundation ∧ ∀ ids, world.Holds ids → mid.Holds ids :=
  made (charted_act_forM (fun thing _ => charted_setLocation (Law.grants_mono grants_makes Deed.makes_of_revises)
    thing place) world) ran

theorem charted_plantAll (keeps : law.Suffers Deed.keepsAll) (world : World) :
    Charted law (Run.ofAct plantAll) world := by
  have makes : law.Suffers Deed.makes := Law.suffers_mono keeps Deed.keepsAll_of_makes
  have revises : law.Grants Deed.revises := Law.grants_revises makes Deed.makes_of_revises
  refine charted_act_bind (charted_plant makes _ _ (by decide) world) ?_
  intro limbo w1 ran
  obtain ⟨_, holds⟩ := planted (by decide) ran [] (by simp [Holds])
  refine charted_act_bind (charted_does (.limboed limbo) (holds limbo List.mem_cons_self) (keeps _ _ ⟨trivial, rfl⟩) rfl) ?_
  intro _ w2 ran
  cases ran
  refine charted_act_bind (charted_plant makes _ _ (by decide) _) ?_
  intro thing w3 ran
  obtain ⟨_, holds⟩ := planted (by decide) ran _ holds
  refine charted_act_bind (charted_plant makes _ _ (by decide) w3) ?_
  intro room w4 ran
  obtain ⟨_, holds⟩ := planted (by decide) ran _ holds
  refine charted_act_bind (charted_plant makes _ _ (by decide) w4) ?_
  intro link w5 ran
  obtain ⟨_, holds⟩ := planted (by decide) ran _ holds
  refine charted_act_bind (charted_plant makes _ _ (by decide) w5) ?_
  intro person w6 ran
  obtain ⟨_, holds⟩ := planted (by decide) ran _ holds
  refine charted_act_bind (charted_plant makes _ _ (by decide) w6) ?_
  intro hall w7 ran
  obtain ⟨_, holds⟩ := planted (by decide) ran _ holds
  refine charted_act_bind (charted_plant makes _ _ (by decide) w7) ?_
  intro lobby w8 ran
  obtain ⟨_, holds⟩ := planted (by decide) ran _ holds
  refine charted_act_bind (charted_act_forM (fun prototype _ => charted_setLocation revises prototype hall) w8) ?_
  intro _ w9 ran
  have holds := (moved ran).2 _ holds
  refine charted_does (.founded hall lobby _) ⟨holds hall (by simp), holds lobby (by simp), ?_⟩ (keeps _ _ ⟨trivial, rfl⟩) rfl
  intro named member
  refine holds named.2 ?_
  simp only [List.mem_cons, List.not_mem_nil, or_false] at member
  rcases member with rfl | rfl | rfl | rfl <;> simp

theorem founded_congr {world world' : World} (founded : world.Founded) (things : world'.things = world.things)
    (info : world'.info = world.info) : world'.Founded := by
  refine ⟨⟨?_, ?_, ?_⟩, ?_⟩
  · rw [info, contains_congr things]
    exact founded.limbo
  · rw [info, contains_congr things]
    exact founded.lobby
  · rw [info, contains_congr things]
    exact founded.hall
  · intro name member
    obtain ⟨id, named, held⟩ := founded.prototypes name member
    exact ⟨id, (congrArg (fun info => info.prototypes[name]?) info).trans named, (contains_congr things id).trans held⟩

theorem founded_plantAll {world last : World} (ran : plantAll.run world = (.ok (), last)) :
    last.Founded ∧ last.infoDirty = true := by
  obtain ⟨limbo, w1, ran', ran⟩ := Act.bind_ok ran
  obtain ⟨_, holds⟩ := planted (by decide) ran' [] (by simp [Holds])
  obtain ⟨_, w2, ran', ran⟩ := Act.bind_ok ran
  cases ran'
  obtain ⟨thing, w3, ran', ran⟩ := Act.bind_ok ran
  obtain ⟨one, holds⟩ := planted (by decide) ran' _ holds
  obtain ⟨room, w4, ran', ran⟩ := Act.bind_ok ran
  obtain ⟨two, holds⟩ := planted (by decide) ran' _ holds
  obtain ⟨link, w5, ran', ran⟩ := Act.bind_ok ran
  obtain ⟨three, holds⟩ := planted (by decide) ran' _ holds
  obtain ⟨person, w6, ran', ran⟩ := Act.bind_ok ran
  obtain ⟨four, holds⟩ := planted (by decide) ran' _ holds
  obtain ⟨hall, w7, ran', ran⟩ := Act.bind_ok ran
  obtain ⟨five, holds⟩ := planted (by decide) ran' _ holds
  obtain ⟨lobby, w8, ran', ran⟩ := Act.bind_ok ran
  obtain ⟨six, holds⟩ := planted (by decide) ran' _ holds
  obtain ⟨_, w9, ran', ran⟩ := Act.bind_ok ran
  obtain ⟨seven, keeps⟩ := moved ran'
  have holds := keeps _ holds
  cases ran
  have placed : w9.info.limbo = limbo :=
    congrArg Prod.fst (seven.trans (six.trans (five.trans (four.trans (three.trans (two.trans one))))))
  have there (id : ThingId) (member : id ∈ [lobby, hall, person, link, room, thing, limbo]) (prototypes) :
      (setFoundation hall lobby prototypes w9).contains id = true := holds id member
  refine ⟨⟨⟨?_, ?_, ?_⟩, ?_⟩, rfl⟩
  · exact there _ (by simp [setFoundation, placed]) _
  · exact there _ (by simp [setFoundation]) _
  · exact there _ (by simp [setFoundation]) _
  · intro name member
    rw [prototype?]
    have distinct : List.Pairwise (fun a b => ¬compare a.1 b.1 = .eq)
        [(Standard.thing, thing), (Standard.room, room), (Standard.link, link), (Standard.person, person)] := by
      simp [Standard.thing, Standard.room, Standard.link, Standard.person]
    have named (id : ThingId) (stands : (name, id) ∈
        [(Standard.thing, thing), (Standard.room, room), (Standard.link, link), (Standard.person, person)]) :
        (setFoundation hall lobby _ w9).info.prototypes[name]? = some id :=
      Std.ExtTreeMap.getElem?_insertMany_list_of_mem Std.compare_self distinct stands
    simp only [List.mem_cons, List.not_mem_nil, or_false] at member
    rcases member with rfl | rfl | rfl | rfl
    · exact ⟨thing, named thing (by simp), there _ (by simp) _⟩
    · exact ⟨room, named room (by simp), there _ (by simp) _⟩
    · exact ⟨link, named link (by simp), there _ (by simp) _⟩
    · exact ⟨person, named person (by simp), there _ (by simp) _⟩

end World
end ThingWorld
