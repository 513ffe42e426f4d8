import ThingWorld.Proofs.Turns.Scenes
import ThingWorld.Proofs.Upkeep.Upkept
namespace ThingWorld

-- `past` is what was played before the cue meets the world.
def Cue.Fits (past : List Scene) (world : World) : Cue → Prop
  | reacts id event => world.Listens id event ∧ world.schedule.hasReacted id = false
  | waits id event => world.Listens id event ∧ world.schedule.hasReacted id = true
  | answers id event => world.Listens id event ∧ world.schedule.isChecking id = false
  | decided _ => True
  | advanced parked => parked = world.schedule.pending.toList
  | resumes id event => world.Listens id event ∧ world.schedule.hasReacted id = false
  | returns id event => world.Listens id event ∧ world.schedule.hasReacted id = true ∧
      ∃ scene ∈ past, ∃ parked, scene.cue = advanced parked ∧ (id, event) ∈ parked
  | dropped id event => world.Listens id event ∧ world.schedule.hasReacted id = true ∧ event = .tick id
  | deletes after => world.Thinned after
  | rounds after => world.Grown after

inductive Follows : List Scene → World → List Scene → World → Prop where
  | done {past : List Scene} {world : World} : Follows past world [] world
  | still {past : List Scene} {world mid last : World} {scenes : List Scene} (quiet : world.Quiet mid)
      (turns : ∀ id, mid.schedule.turn id = world.schedule.turn id) (rest : Follows past mid scenes last) :
      Follows past world scenes last
  | played {past : List Scene} {world last : World} {cue : Cue} {scenes : List Scene} (fits : cue.Fits past world)
      (rest : Follows (past ++ [⟨world, cue⟩]) (cue.perform world) scenes last) :
      Follows past world (⟨world, cue⟩ :: scenes) last

-- All that the ticks around a run hand out was handed out in scenes.
def Handouts.In (handed : Handouts) (past : List Scene) : Prop :=
  ∀ parked ∈ handed, ∃ scene ∈ past, scene.cue = .advanced parked

theorem Handouts.in_append {handed : Handouts} {past : List Scene} (known : handed.In past) (scenes : List Scene) :
    handed.In (past ++ scenes) := by
  intro parked member
  obtain ⟨scene, played, cue⟩ := known parked member
  exact ⟨scene, List.mem_append_left scenes played, cue⟩

namespace World

variable {past : List Scene} {world mid last : World} {scenes before after : List Scene}

theorem follows_append (first : Follows past world before mid) : ∀ {after last}, Follows (past ++ before) mid after last →
    Follows past world (before ++ after) last := by
  induction first with
  | done =>
    intro after last rest
    rwa [List.append_nil] at rest
  | still quiet turns _ ih => exact fun rest => .still quiet turns (ih rest)
  | played fits _ ih =>
    intro after last rest
    refine .played fits (ih ?_)
    rwa [List.append_assoc]

theorem follows_steady (steady : world.Steady last) (rest : Follows past last scenes mid) : Follows past world scenes mid := by
  refine .still (quiet_of_steady steady) (fun id => ?_) rest
  exact turn_of_grown (grown_of_steady steady) id

theorem follows_one {cue : Cue} (fits : cue.Fits past world) : Follows past world [⟨world, cue⟩] (cue.perform world) :=
  .played fits .done

theorem plays_follows {α : Type} {handed : Handouts} {steps : Run α} {result : Except Failure α}
    (plays : Plays handed steps world scenes result last) :
    ∀ {past : List Scene}, handed.In past → Follows past world scenes last := by
  induction plays with
  | quiet ran quiet turns => exact fun _ => .still quiet turns .done
  | next first rest ihFirst ihRest =>
    exact fun known => follows_append (ihFirst known) (ihRest (Handouts.in_append known _))
  | stop first ih => exact ih
  | observed seen ih => exact ih
  | joined inside inner ih => exact ih
  | outermost outside inner ih =>
    rename_i mid scenes result
    intro past known
    have whole := follows_append (ih known) (follows_steady (steady_settle result mid) .done)
    rw [List.append_nil] at whole
    exact follows_steady (steady_scope true _) whole
  | reacts found fresh inner ih =>
    exact fun known => .played ⟨⟨_, found⟩, fresh⟩ (ih (Handouts.in_append known _))
  | waits listens spent => exact fun _ => follows_one ⟨listens, spent⟩
  | answers found free inner ih =>
    intro past known
    exact .played ⟨⟨_, found⟩, free⟩ (follows_append (ih (Handouts.in_append known _)) (follows_one trivial))
  | advances began rest ih =>
    rename_i world mid last scenes result
    intro past known
    have same : mid = world.pace .advance := by
      rw [Engine.run_startTick] at began
      cases began
      rfl
    subst same
    refine .played rfl (ih ?_)
    intro parked member
    rcases List.mem_cons.mp member with rfl | member
    · exact ⟨_, List.mem_append_right past List.mem_cons_self, rfl⟩
    · exact Handouts.in_append known _ parked member
  | resumes found fresh _ => exact fun _ => follows_one ⟨⟨_, found⟩, fresh⟩
  | returns listens spent parked owed =>
    intro past known
    rw [Handouts.Owe, parked] at owed
    obtain ⟨list, member, listed⟩ := owed
    obtain ⟨scene, played, cue⟩ := known list member
    exact follows_one ⟨listens, spent, scene, played, list, cue, listed⟩
  | dropped listens spent timed owed =>
    rw [Handouts.Owe, if_pos timed] at owed
    exact fun _ => follows_one ⟨listens, spent, owed⟩
  | deletes ran thinned loses =>
    rename_i world last _
    intro past known
    have fits : (Cue.deletes last).Fits past world := thinned
    exact follows_one fits
  | rounds makes spent ran =>
    rename_i operation world last _
    intro past known
    have fits : (Cue.rounds last).Fits past world := grown_making operation makes ran
    exact follows_one fits

-- The world that a scene meets comes after all earlier scenes, and the later ones come after what it makes of it.
theorem follows_scene {cue : Cue} (follows : Follows past world (before ++ ⟨mid, cue⟩ :: after) last) :
    Follows past world before mid ∧ cue.Fits (past ++ before) mid ∧
      Follows (past ++ before ++ [⟨mid, cue⟩]) (cue.perform mid) after last := by
  generalize whole : before ++ ⟨mid, cue⟩ :: after = scenes at follows
  induction follows generalizing before with
  | done => simp at whole
  | still quiet turns _ ih =>
    obtain ⟨first, fits, rest⟩ := ih whole
    exact ⟨.still quiet turns first, fits, rest⟩
  | played fits follows ih =>
    cases before with
    | nil =>
      cases whole
      rw [List.append_nil]
      exact ⟨.done, fits, follows⟩
    | cons first before =>
      cases whole
      obtain ⟨first, fits', rest⟩ := ih rfl
      rw [List.append_assoc _ [_] before] at fits' rest
      exact ⟨.played fits first, fits', rest⟩

theorem follows_keeps {P : World → Prop} (follows : Follows past world scenes last)
    (quiet : ∀ {world mid : World}, P world → world.Quiet mid → (∀ id, mid.schedule.turn id = world.schedule.turn id) → P mid)
    (step : ∀ {past : List Scene} {world : World} {cue : Cue}, ⟨world, cue⟩ ∈ scenes → cue.Fits past world → P world →
      P (cue.perform world))
    (start : P world) : P last := by
  induction follows with
  | done => exact start
  | still still turns _ ih => exact ih step (quiet start still turns)
  | played fits _ ih =>
    exact ih (fun member => step (List.mem_cons_of_mem _ member)) (step List.mem_cons_self fits start)

theorem perform_frame (cue : Cue) (world : World) :
    ((cue.perform world).info = world.info ∧ (cue.perform world).things = world.things) ∨
      (∃ after, cue = .deletes after) ∨ cue.goesRound = true := by
  cases cue with
  | deletes after => exact .inr (.inl ⟨after, rfl⟩)
  | rounds after => exact .inr (.inr rfl)
  | _ => exact .inl ⟨rfl, rfl⟩

-- No id is handed out twice, unless the next id goes back.
structure Advances (world last : World) : Prop where
  next : world.info.nextId ≤ last.info.nextId
  came : ∀ id, last.contains id = true → world.contains id = true ∨ world.info.nextId ≤ id ∧ id < last.info.nextId

theorem advances_cue {cue : Cue} (fits : cue.Fits past world) (stays : cue.goesRound = false) :
    world.Advances (cue.perform world) := by
  rcases perform_frame cue world with ⟨info, things⟩ | ⟨after, rfl⟩ | goes
  · refine ⟨UInt64.le_of_eq (congrArg Info.nextId info.symm), fun id held => .inl ?_⟩
    exact (contains_congr things id).symm.trans held
  · exact ⟨UInt64.le_of_eq fits.next.symm, fun id held => .inl (fits.held id held)⟩
  · exact Bool.noConfusion (goes.symm.trans stays)

theorem below_advances (below : world.Below) (advances : world.Advances last) : last.Below := by
  intro id held
  rcases advances.came id held with held | ⟨_, handed⟩
  · exact UInt64.lt_of_lt_of_le (below id held) advances.next
  · exact handed

theorem below_follows (follows : Follows past world scenes last) (stays : ∀ scene ∈ scenes, scene.cue.goesRound = false)
    (below : world.Below) : last.Below := by
  refine follows_keeps follows (fun below quiet _ => below_advances below ⟨quiet.next, quiet.came⟩) ?_ below
  exact fun member fits below => below_advances below (advances_cue fits (stays _ member))

-- A thing that was there and is gone does not come back.
theorem gone_follows {id : ThingId} (follows : Follows past world scenes last)
    (stays : ∀ scene ∈ scenes, scene.cue.goesRound = false) (low : id < world.info.nextId)
    (gone : world.contains id = false) : last.contains id = false := by
  let Gone (world : World) := id < world.info.nextId ∧ world.contains id = false
  have kept {world last : World} (gone : Gone world) (advances : world.Advances last) : Gone last := by
    refine ⟨UInt64.lt_of_lt_of_le gone.1 advances.next, Bool.eq_false_iff.mpr fun held => ?_⟩
    rcases advances.came id held with held | ⟨high, _⟩
    · exact Bool.noConfusion (held.symm.trans gone.2)
    · exact UInt64.not_le.mpr gone.1 high
  have last : Gone last := by
    refine follows_keeps follows (fun gone quiet _ => kept gone ⟨quiet.next, quiet.came⟩) ?_ ⟨low, gone⟩
    exact fun member fits gone => kept gone (advances_cue fits (stays _ member))
  exact last.2

-- The counters of the schedule count the scenes.
structure Sums (world : World) (scenes : List Scene) (last : World) : Prop where
  ticks : last.schedule.tally.ticks = world.schedule.tally.ticks + scenes.countP (·.cue.advances)
  reactions : last.schedule.tally.reactions = world.schedule.tally.reactions + scenes.countP (·.cue.taking)
  deferred : last.schedule.tally.deferred = world.schedule.tally.deferred + scenes.countP (·.cue.parking)

theorem sums_of_same (same : last.schedule.tally = world.schedule.tally) : world.Sums [] last := by
  refine ⟨?_, ?_, ?_⟩ <;> simp [same]

theorem sums_cue {cue : Cue} (fits : cue.Fits past world) : world.Sums [⟨world, cue⟩] (cue.perform world) := by
  cases cue with
  | deletes after =>
    obtain ⟨ticks, reactions, deferred⟩ := sums_of_same fits.tally
    exact ⟨ticks, reactions, deferred⟩
  | rounds after =>
    obtain ⟨_, schedule⟩ := fits.schedule
    have tally : after.schedule.tally = world.schedule.tally := by rw [schedule]
    obtain ⟨ticks, reactions, deferred⟩ := sums_of_same tally
    exact ⟨ticks, reactions, deferred⟩
  | _ => exact ⟨rfl, rfl, rfl⟩

theorem sums_trans (first : world.Sums before mid) (rest : mid.Sums after last) :
    world.Sums (before ++ after) last := by
  refine ⟨?_, ?_, ?_⟩ <;> rw [List.countP_append, ← Nat.add_assoc]
  · rw [rest.ticks, first.ticks]
  · rw [rest.reactions, first.reactions]
  · rw [rest.deferred, first.deferred]

theorem sums_follows (follows : Follows past world scenes last) : world.Sums scenes last := by
  induction follows with
  | done => exact sums_of_same rfl
  | still quiet turns _ ih => exact sums_trans (sums_of_same quiet.tally) ih
  | played fits _ ih => exact sums_trans (sums_cue fits) ih

end World
end ThingWorld
