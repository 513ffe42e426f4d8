import ThingWorld.Proofs.Course.Numbering
import ThingWorld.World.Open
namespace ThingWorld.World

variable {law : Law}

-- Values and edges are no part of the world record.
theorem replay_info {moments : List Moment} (only : ∀ deed, .did deed ∈ moments → deed.revises) (world : World) :
    (world.replay moments).info = world.info := by
  refine replay_keeps (P := fun last => last.info = world.info) ?_ rfl (heeds_deeds only world)
  intro mid moment kept only
  refine Eq.trans ?_ kept
  cases moment with
  | did deed =>
    obtain ⟨id, change, rfl, _⟩ := only deed rfl
    exact deed_info rfl mid
  | opened => rfl
  | ended keep => exact commit_info keep _

theorem charted_release (grants : law.Grants Deed.revises) (doomed : IdSet) (limbo id : ThingId) (world : World) :
    Charted law (Run.ofAct (release doomed limbo id)) world := by
  refine charted_act_read ?_
  split
  · exact charted_act_pure ()
  · refine charted_act_read ?_
    refine charted_act_bind (charted_act_forM (fun content _ => charted_setLocation grants content limbo) world) ?_
    intro _ mid _
    refine charted_act_read (charted_act_bind (charted_act_forM (fun link _ world => ?_) mid) ?_)
    · refine charted_act_bind (charted_dissociateAll grants link Relation.linkOwner world) ?_
      exact fun _ mid _ => charted_setLocation grants link limbo mid
    · intro _ mid _
      exact charted_act_read (charted_act_forM (fun source _ => charted_dissociateFrom grants source id) mid)

-- All that happens before the members go concerns values and edges, so who is well known stays.
theorem releases_info (doomed : IdSet) (limbo : ThingId) (ids : List ThingId) {world mid : World}
    {result : Except Failure Unit} (ran : (ids.forM (release doomed limbo)).run world = (result, mid)) :
    mid.info = world.info := by
  have released := charted_act_forM
    (fun id (_ : id ∈ ids) => charted_release (Law.grants_only Deed.revises) doomed limbo id) world
  obtain ⟨moments, unfolds, only⟩ := released result mid (congrArg some ran)
  rw [(unfolds_replay unfolds).1]
  exact replay_info only world

theorem not_wellKnown_of_unrefused {world : World} {doomed : IdSet} (unrefused : world.toastRefusal? doomed = none)
    {id : ThingId} (member : id ∈ doomed.toList) : world.isWellKnown id = false := by
  have free := List.findSome?_eq_none_iff.mp unrefused id member
  rw [toastRefusalOf?] at free
  split at free
  · cases free
  · simpa using ‹¬world.isWellKnown id = true›

section

variable (plain : law.Suffers fun deed => deed.plain = true)

include plain

theorem charted_pace {f : World → World} (pace : Pace) (calm : (Deed.paced pace).calm = true)
    (same : ∀ world, f world = world.pace pace) (world : World) :
    Charted law (Run.ofAct (modify f)) world := by
  have ran : (modify f : Act Unit).run world = (.ok (), (Deed.paced pace).perform world) :=
    congrArg (Prod.mk _) (same world)
  exact charted_does (.paced pace) trivial (plain world _ ⟨rfl, calm⟩) (congrArg some ran)

theorem grants_revises : law.Grants Deed.revises :=
  Law.grants_revises plain Deed.plain_of_revises

theorem charted_subscribeTicks (id : ThingId) (world : World) :
    Charted law (Run.ofAct (subscribeTicks id)) world := by
  refine charted_act_bind (charted_setProperty (grants_revises plain) id _ _ world) ?_
  exact fun _ mid _ => charted_pace plain (.subscribe id) rfl (fun _ => rfl) mid

theorem charted_unsubscribeTicks (id : ThingId) (world : World) :
    Charted law (Run.ofAct (unsubscribeTicks id)) world := by
  refine charted_act_bind (charted_unsetProperty (grants_revises plain) id _ world) ?_
  exact fun _ mid _ => charted_pace plain (.unsubscribe id) rfl (fun _ => rfl) mid

end

theorem charted_toast (grants : law.Grants Deed.revises) (vanishes : law.Grants fun deed => ∃ ids, deed = .vanished ids)
    (doomed : IdSet) (world : World) : Charted law (Run.ofAct (toast doomed)) world := by
  refine charted_act_read ?_
  split
  · exact charted_act_throw _
  · rename_i unrefused
    have body (start : World) (info : start.info = world.info) : Charted law (Run.ofAct do
        doomed.toList.forM (release doomed world.info.limbo)
        modify fun world => doomed.toList.foldl vanish world) start := by
      refine charted_act_bind (charted_act_forM (fun id _ => charted_release grants doomed _ id) start) ?_
      intro _ mid ran
      have kept := (releases_info doomed _ _ ran).trans info
      refine charted_does (.vanished doomed.toList) ?_ (vanishes mid _ ⟨_, rfl⟩) rfl
      intro id member
      rw [isWellKnown, kept]
      exact not_wellKnown_of_unrefused unrefused member
    exact charted_act_read (charted_act_scope (body world rfl) (body _ rfl))

theorem run_copyOne (numbers : Renumbering) (old new : ThingId) (world : World) :
    (copyOne numbers old new).run world =
      match world.things[old]? with
      | some thing => (.ok (), (Deed.entered new (numbers.thing new thing)).perform world)
      | none => (.ok (), world) := by
  rw [copyOne, Act.run_bind, Act.run_get]
  dsimp only
  cases world.things[old]? <;> rfl

abbrev copyEach (numbers : Renumbering) (pairs : List (ThingId × ThingId)) : Act Unit :=
  pairs.forM fun (old, new) => copyOne numbers old new

-- Entering copies hands out nothing, so what was handed out stays so.
theorem copying_enters (numbers : Renumbering) (pairs : List (ThingId × ThingId)) : ∀ world : World,
    ∃ deeds : List Deed, (copyEach numbers pairs).run world = (.ok (), world.replay (deeds.map .did)) ∧
      (∀ deed ∈ deeds, ∃ new thing, deed = .entered new thing) ∧ world.Permits (deeds.map .did) ∧
      ((∀ pair ∈ pairs, pair.2 < world.info.nextId) → world.Hands (deeds.map .did)) := by
  induction pairs with
  | nil => exact fun world => ⟨[], rfl, (fun _ member => nomatch member), trivial, fun _ => trivial⟩
  | cons pair rest ih =>
    intro world
    obtain ⟨old, new⟩ := pair
    have first := run_copyOne numbers old new world
    cases found : world.things[old]? with
    | none =>
      rw [found] at first
      obtain ⟨deeds, ran, enter, permitted, handed⟩ := ih world
      refine ⟨deeds, ?_, enter, permitted, fun low => handed fun pair member => low pair (List.mem_cons_of_mem _ member)⟩
      show (copyOne numbers old new >>= fun _ => copyEach numbers rest).run world = _
      rw [Act.run_bind, first]
      exact ran
    | some thing =>
      rw [found] at first
      let deed := Deed.entered new (numbers.thing new thing)
      obtain ⟨deeds, ran, enter, permitted, handed⟩ := ih (deed.perform world)
      refine ⟨deed :: deeds, ?_, ?_, ⟨⟨rfl, .inr ⟨old, thing, found, rfl⟩⟩, permitted⟩, fun low => ⟨?_, fun _ => handed ?_⟩⟩
      · show (copyOne numbers old new >>= fun _ => copyEach numbers rest).run world = _
        rw [Act.run_bind, first]
        exact ran
      · intro other member
        rcases List.mem_cons.mp member with rfl | member
        · exact ⟨_, _, rfl⟩
        · exact enter other member
      · exact low (old, new) List.mem_cons_self
      · intro pair member
        rw [show (deed.perform world).info = world.info from reindex_info _ _]
        exact low pair (List.mem_cons_of_mem _ member)

-- Copying a set where somebody else decides in which order the copies are entered.
def copyBody (arrange : Renumbering → List (ThingId × ThingId)) (id : ThingId) (members : IdSet) : Act ThingId := do
  let numbers ← renumberAll ∅ members.toList
  modify fun world => { world with infoDirty := true }
  copyEach numbers (arrange numbers)
  match numbers[id]? with
  | some root => return root
  | none => throw (.internal "copy lost its root")

def rootOf (numbers : Renumbering) (id : ThingId) : Except Failure ThingId :=
  match numbers[id]? with
  | some root => .ok root
  | none => .error (.internal "copy lost its root")

theorem run_copying (arrange : Renumbering → List (ThingId × ThingId)) (id : ThingId) {members : IdSet}
    {numbers : Renumbering} {world mid last : World}
    (hands : (renumberAll ∅ members.toList).run world = (.ok numbers, mid))
    (enters : (copyEach numbers (arrange numbers)).run mid.note = (.ok (), last)) :
    (copyBody arrange id members).run world = (rootOf numbers id, last) := by
  rw [copyBody, Act.run_bind, hands]
  dsimp only
  rw [Act.run_bind, Act.run_modify]
  dsimp only
  rw [Act.run_bind, show (copyEach numbers (arrange numbers)).run { mid with infoDirty := true } = _ from enters, rootOf]
  cases numbers[id]? <;> rfl

theorem copying_batch (id : ThingId) (members : IdSet) (world : World) : ∃ (deeds : List Deed) (result : Except Failure ThingId),
    (copyBody Std.ExtTreeMap.toList id members).run world = (result, world.replay (deeds.map .did)) ∧
      (∀ deed ∈ deeds, deed = .allocated ∨ deed = .noted ∨ ∃ new thing, deed = .entered new thing) ∧
      world.Permits (deeds.map .did) ∧ world.Hands (deeds.map .did) := by
  let count := (world.present members).size
  let numbers := numberFrom ∅ world.info.nextId (world.present members).toList
  let mid := allot count world
  have allots : mid = world.replay ((List.replicate count Deed.allocated).map .did) := allot_replay count world
  obtain ⟨deeds, enters, entered, permitted, handed⟩ := copying_enters numbers numbers.toList mid.note
  have only (moment : Moment) (member : moment ∈ (List.replicate count Deed.allocated).map Moment.did) :
      moment = .did .allocated := by
    obtain ⟨deed, among, rfl⟩ := List.mem_map.mp member
    rw [(List.mem_replicate.mp among).2]
  have low (pair : ThingId × ThingId) (member : pair ∈ numbers.toList)
      (ascends : world.Ascends ((List.replicate count Deed.allocated).map .did)) : pair.2 < mid.info.nextId := by
    have left := affords_of_ascends count world ascends
    exact (counts_numberFrom left).low (Std.ExtTreeMap.mem_toList_iff_getElem?_eq_some.mp member)
      (toNat_allot count world left)
  refine ⟨List.replicate count .allocated ++ .noted :: deeds, rootOf numbers id, ?_, ?_, ?_, ?_⟩
  · rw [List.map_append, replay_append, ← allots]
    exact run_copying Std.ExtTreeMap.toList id (run_renumbering members world) enters
  · intro deed member
    rcases List.mem_append.mp member with member | member
    · exact .inl (List.mem_replicate.mp member).2
    · rcases List.mem_cons.mp member with same | member
      · exact .inr (.inl same)
      · exact .inr (.inr (entered deed member))
  · rw [List.map_append]
    refine heeds_append.mpr ⟨heeds_anywhere (fun moment member world => ?_) world, trivial, ?_⟩
    · rw [only moment member]
      trivial
    · rw [← allots]
      exact permitted
  · rw [List.map_append]
    refine hands_append (hands_of_heeds (heeds_anywhere (fun moment member world => ?_) world)) fun ascends => ?_
    · rw [only moment member]
      trivial
    · rw [← allots]
      exact ⟨trivial, fun _ => handed fun pair member => low pair member ascends⟩

theorem run_copy (id : ThingId) (world : World) : (copy id).run world = (copySet id (world.connected id)).run world := by
  rw [copy, Act.run_bind, Act.run_get]

section

variable (makes : law.Suffers Deed.makes)

include makes

theorem charted_flush (world : World) : Charted law (Run.ofAct flush) world := by
  refine charted_act_read ?_
  cases scope : world.inScope with
  | true => exact charted_act_pure _
  | false => exact charted_does .flushed scope (makes world _ ⟨trivial, rfl⟩) rfl

-- All copies are one batch: their ids are handed out first, and then they are entered.
theorem charted_copySet (id : ThingId) (members : IdSet) (world : World) :
    Charted law (Run.ofAct (copySet id members)) world := by
  refine charted_act_read ?_
  dsimp only
  split
  · exact charted_act_throw_bind _ _
  · refine charted_opening (fun world => ?_) world
    obtain ⟨deeds, result, ran, among, permitted, handed⟩ := copying_batch id members world
    refine charted_batch deeds permitted handed (fun deed member world => makes world deed ?_) (congrArg some ran)
    rcases among deed member with rfl | rfl | ⟨new, thing, rfl⟩ <;> exact ⟨trivial, rfl⟩

theorem charted_copy (id : ThingId) (world : World) : Charted law (Run.ofAct (copy id)) world :=
  charted_act_read (charted_copySet makes id _ world)

end

end ThingWorld.World
