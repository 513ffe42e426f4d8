import ThingWorld.Proofs.Turns.Follows
import ThingWorld.Proofs.Turns.Playing
import ThingWorld.Proofs.Upkeep.Reached
namespace ThingWorld

-- The turn of the thing is given back, to everybody by a tick or to it as it is deleted.
def Scene.renews (scene : Scene) (id : ThingId) : Prop :=
  scene.cue.advances = true ∨ scene.loses id

-- How many ticks, turns taken and events put away there are.
def census (scenes : List Scene) : Nat × Nat × Nat :=
  (scenes.countP (·.cue.advances), scenes.countP (·.cue.taking), scenes.countP (·.cue.parking))

namespace World

-- The turn of the thing was taken, before those scenes or in one of them, and has not been given back since.
def Took (world : World) (scenes : List Scene) (id : ThingId) : Prop :=
  (world.schedule.hasReacted id = true ∧ ∀ scene ∈ scenes, ¬scene.renews id) ∨
    ∃ earlier taken since, scenes = earlier ++ taken :: since ∧ taken.cue.takes id ∧ ∀ scene ∈ since, ¬scene.renews id

variable {origin : Origin} {ledger : Ledger} {world mid last : World} {past scenes before after : List Scene}
  {id : ThingId} {event : Event} {cue : Cue}

theorem reacted_of_turn (same : mid.schedule.turn id = world.schedule.turn id) :
    mid.schedule.hasReacted id = world.schedule.hasReacted id :=
  congrArg Prod.fst same

theorem reacted_scene (fits : cue.Fits past world) (kept : ¬Scene.renews ⟨world, cue⟩ id)
    (reacted : world.schedule.hasReacted id = true) : (cue.perform world).schedule.hasReacted id = true := by
  have inserted (other : ThingId) : (world.schedule.reacted.insert other).contains id = true := by
    rw [Std.ExtTreeSet.contains_insert]
    simp [show world.schedule.reacted.contains id = true from reacted]
  cases cue with
  | reacts other event => exact inserted other
  | resumes other event => exact inserted other
  | answers other event => exact inserted other
  | advanced parked => exact absurd (.inl rfl) kept
  | deletes after => exact (reacted_of_turn (fits.turns id fun loses => kept (.inr loses))).trans reacted
  | rounds after => exact (reacted_of_turn (turn_of_grown fits id)).trans reacted
  | _ => exact reacted

theorem reacted_of_takes (takes : cue.takes id) : (cue.perform world).schedule.hasReacted id = true := by
  obtain ⟨event, rfl | rfl⟩ | ⟨event, rfl⟩ := takes <;> exact Std.ExtTreeSet.contains_insert_self

theorem reacted_follows (follows : Follows past world scenes last) (kept : ∀ scene ∈ scenes, ¬scene.renews id)
    (reacted : world.schedule.hasReacted id = true) : last.schedule.hasReacted id = true := by
  refine follows_keeps follows (fun reacted _ turns => (reacted_of_turn (turns id)).trans reacted) ?_ reacted
  exact fun member fits reacted => reacted_scene fits (kept _ member) reacted

theorem reacted_of_took (follows : Follows past world scenes last) (took : world.Took scenes id) :
    last.schedule.hasReacted id = true := by
  obtain ⟨reacted, kept⟩ | ⟨earlier, ⟨met, cue⟩, since, rfl, takes, kept⟩ := took
  · exact reacted_follows follows kept reacted
  · obtain ⟨_, _, rest⟩ := follows_scene follows
    exact reacted_follows rest kept (reacted_of_takes takes)

theorem unreacted_of_renews (fits : cue.Fits past world) (renews : Scene.renews ⟨world, cue⟩ id) :
    (cue.perform world).schedule.hasReacted id = false := by
  rcases renews with advances | ⟨held, gone⟩
  · cases cue with
    | advanced parked => exact Std.ExtTreeSet.contains_empty
    | _ => cases advances
  · cases cue with
    | deletes after => exact congrArg Prod.fst (fits.forgotten id ⟨held, gone⟩)
    | rounds after => exact Bool.noConfusion ((fits.held id held).symm.trans gone)
    | _ => exact Bool.noConfusion (held.symm.trans gone)

-- Only who takes a turn has one that was not taken before.
theorem reacted_before (fits : cue.Fits past world) (untaken : ¬cue.takes id)
    (reacted : (cue.perform world).schedule.hasReacted id = true) : world.schedule.hasReacted id = true := by
  have other {other : ThingId} (differs : other ≠ id)
      (reacted : (world.schedule.reacted.insert other).contains id = true) : world.schedule.hasReacted id = true := by
    rw [Std.ExtTreeSet.contains_insert] at reacted
    exact (Bool.or_eq_true_iff.mp reacted).resolve_left (by simpa using differs)
  cases cue with
  | reacts thing event => exact other (fun same => untaken (.inl ⟨event, .inl (same ▸ rfl)⟩)) reacted
  | resumes thing event => exact other (fun same => untaken (.inl ⟨event, .inr (same ▸ rfl)⟩)) reacted
  | answers thing event => exact other (fun same => untaken (.inr ⟨event, same ▸ rfl⟩)) reacted
  | advanced parked =>
    have fresh : (world.pace .advance).schedule.hasReacted id = false := unreacted_of_renews fits (.inl rfl)
    exact Bool.noConfusion (reacted.symm.trans fresh)
  | deletes after =>
    by_cases loses : world.Loses after id
    · exact Bool.noConfusion (reacted.symm.trans (unreacted_of_renews fits (.inr loses)))
    · exact (reacted_of_turn (fits.turns id loses)).symm.trans reacted
  | rounds after => exact (reacted_of_turn (turn_of_grown fits id)).symm.trans reacted
  | _ => exact reacted

theorem took_of_reacted (follows : Follows past world scenes last) (reacted : last.schedule.hasReacted id = true) :
    world.Took scenes id := by
  induction follows with
  | done => exact .inl ⟨reacted, List.forall_mem_nil _⟩
  | still quiet turns _ ih =>
    refine (ih reacted).imp_left fun ⟨reacted, kept⟩ => ⟨?_, kept⟩
    exact (reacted_of_turn (turns id)).symm.trans reacted
  | played fits _ ih =>
    rename_i past world last cue scenes _
    rcases ih reacted with ⟨reacted, kept⟩ | ⟨earlier, taken, since, rfl, takes, kept⟩
    · by_cases takes : cue.takes id
      · exact .inr ⟨[], ⟨world, cue⟩, scenes, rfl, takes, kept⟩
      · refine .inl ⟨reacted_before fits takes reacted, List.forall_mem_cons.mpr ⟨fun renews => ?_, kept⟩⟩
        exact Bool.noConfusion (reacted.symm.trans (unreacted_of_renews fits renews))
    · exact .inr ⟨⟨world, cue⟩ :: earlier, taken, since, rfl, takes, kept⟩

theorem fresh_of_starts (fits : cue.Fits past world) (starts : cue.starts id) :
    world.contains id = true ∧ world.schedule.hasReacted id = false := by
  obtain ⟨event, rfl | rfl⟩ := starts <;> exact ⟨contains_of_listens fits.1, fits.2⟩

-- An event that comes to a thing without a turn waits, unless it is the event of the tick.
theorem starts_or_waits (fits : cue.Fits past world) (brings : cue.brings id event) :
    cue.starts id ∨ world.schedule.hasReacted id = true ∧
      ((cue.parks id event ∧ (cue.perform world).schedule.pending[id]? = some event) ∨
        cue = .dropped id event ∧ event = .tick id) := by
  have waiting : (world.pace (.park id event)).schedule.pending[id]? = some event := Std.ExtTreeMap.getElem?_insert_self
  rcases brings with rfl | rfl | rfl | rfl | rfl
  · exact .inl ⟨event, .inl rfl⟩
  · exact .inr ⟨fits.2, .inl ⟨.inl rfl, waiting⟩⟩
  · exact .inl ⟨event, .inr rfl⟩
  · exact .inr ⟨fits.2.1, .inl ⟨.inr rfl, waiting⟩⟩
  · exact .inr ⟨fits.2.1, .inr ⟨rfl, fits.2.2⟩⟩

-- As long as the next id goes up, nobody comes under the id of a thing that was deleted.
theorem gone_of_loses (follows : Follows past world (before ++ ⟨mid, cue⟩ :: after) last) (below : world.Below)
    (stays : ∀ scene ∈ before ++ ⟨mid, cue⟩ :: after, scene.cue.goesRound = false)
    (loses : Scene.loses ⟨mid, cue⟩ id) : last.contains id = false := by
  obtain ⟨first, fits, rest⟩ := follows_scene follows
  have below := below_follows first (fun scene member => stays scene (List.mem_append_left _ member)) below
  have advances := advances_cue fits (stays _ (List.mem_append_right _ List.mem_cons_self))
  refine gone_follows rest (fun scene member => ?_) (UInt64.lt_of_lt_of_le (below id loses.1) advances.next) loses.2
  exact stays scene (List.mem_append_right _ (List.mem_cons_of_mem _ member))

theorem sums_plays {α : Type} {handed : Handouts} {steps : Run α} {result : Except Failure α}
    (plays : Plays handed steps world scenes result last) : world.Sums scenes last := by
  let past : List Scene := handed.map fun parked => ⟨world, .advanced parked⟩
  have known : handed.In past := fun parked member => ⟨_, List.mem_map_of_mem member, rfl⟩
  exact sums_follows (plays_follows plays known)

theorem census_plays {α : Type} {handed handed' : Handouts} {steps : Run α} {scenes' : List Scene}
    {result : Except Failure α} (plays : Plays handed steps world scenes result last)
    (plays' : Plays handed' steps world scenes' result last) : census scenes = census scenes' := by
  have sums := sums_plays plays
  have sums' := sums_plays plays'
  have ticks := Nat.add_left_cancel (sums.ticks.symm.trans sums'.ticks)
  have reactions := Nat.add_left_cancel (sums.reactions.symm.trans sums'.reactions)
  have deferred := Nat.add_left_cancel (sums.deferred.symm.trans sums'.deferred)
  rw [census, census, ticks, reactions, deferred]

-- The event that comes to the thing is a scene, and no play passes over it.
def Shows {α : Type} (handed : Handouts) (steps : Run α) (met : World) (id : ThingId) (event : Event)
    (result : Except Failure α) (last : World) : Prop :=
  ∃ cue rest, cue.brings id event ∧ Plays handed steps met (⟨met, cue⟩ :: rest) result last ∧
    ∀ handed' scenes, Plays handed' steps met scenes result last → census scenes = census (⟨met, cue⟩ :: rest)

theorem shows_of_plays {α : Type} {handed : Handouts} {steps : Run α} {result : Except Failure α}
    (brings : cue.brings id event) (plays : Plays handed steps mid (⟨mid, cue⟩ :: scenes) result last) :
    Shows handed steps mid id event result last :=
  ⟨cue, scenes, brings, plays, fun _ _ plays' => census_plays plays' plays⟩

theorem shows_react {met : World} (handed : Handouts) {result : Except Failure Unit} (listens : met.Listens id event)
    (ran : (met.engine.react id event).run met = some (result, last)) :
    Shows handed (met.engine.react id event) met id event result last := by
  obtain ⟨template, found⟩ := listens
  rw [Engine.run_react found] at ran
  split at ran
  · rename_i reacted
    cases ran
    exact shows_of_plays (.inr (.inl rfl)) (.waits ⟨template, found⟩ reacted)
  · rename_i fresh
    obtain ⟨rest, plays⟩ := Engine.played_runReaction (plays_engine met) id event template _ result last ran
    exact shows_of_plays (.inl rfl) (.reacts found (Bool.eq_false_iff.mpr fresh) plays)

theorem shows_dueReaction {met : World} {handed : Handouts} {due : Engine.Due} (listens : met.Listens due.id due.event)
    (owed : handed.Owe due) : Shows handed (Run.ofAct (Engine.dueReaction due)) met due.id due.event
      ((Engine.dueReaction due).run met).1 ((Engine.dueReaction due).run met).2 := by
  have listening := listens
  obtain ⟨template, found⟩ := listens
  rw [Engine.run_dueSome found]
  cases reacted : met.schedule.hasReacted due.id with
  | false => exact shows_of_plays (.inr (.inr (.inl rfl))) (.resumes found reacted owed)
  | true =>
    cases timed : due.isTick with
    | false => exact shows_of_plays (.inr (.inr (.inr (.inl rfl)))) (.returns listening reacted timed owed)
    | true => exact shows_of_plays (.inr (.inr (.inr (.inr rfl)))) (.dropped listening reacted timed owed)

-- A bell is made, and an event comes to it twice.
def ringTwice : Run ThingId :=
  (Operation.create "bell" "").run >>= fun bell =>
    inTurn [.setProperty bell "react_ring" (.text "@set me rung $1"), .react bell ⟨0, "ring", ["once"]⟩,
      .react bell ⟨0, "ring", ["twice"]⟩] >>= fun _ => Run.ofExcept (.ok bell)

theorem built_ringTwice : Built false ringTwice := by
  refine .follows (.calls (.create "bell" "") nofun) fun bell => .follows (built_inTurn _ ?_) fun _ => .gives _
  simp [Operation.byHand]

end World
end ThingWorld
