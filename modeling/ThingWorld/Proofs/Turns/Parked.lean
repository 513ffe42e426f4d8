import ThingWorld.Proofs.Turns.Follows
import ThingWorld.Proofs.Turns.Playing
import ThingWorld.Proofs.Upkeep.Opened
namespace ThingWorld

-- What waits for a thing after a scene, when `pending` did before.
def Scene.leaves (scene : Scene) (id : ThingId) (pending : Option Event) : Option Event :=
  match scene.cue with
  | .waits other event => if other = id then some event else pending
  | .returns other event => if other = id then some event else pending
  | .advanced _ => none
  | .deletes _ => if scene.loses id then none else pending
  | _ => pending

-- The same where nothing that comes back counts.
def Scene.admits (scene : Scene) (id : ThingId) (pending : Option Event) : Option Event :=
  match scene.cue with
  | .waits other event => if other = id then some event else pending
  | .advanced _ => none
  | .deletes _ => if scene.loses id then none else pending
  | _ => pending

def leftBy (scenes : List Scene) (id : ThingId) (pending : Option Event) : Option Event :=
  scenes.foldl (fun pending scene => scene.leaves id pending) pending

-- The event that arrived last and was not handed out.
def newestOf (scenes : List Scene) (id : ThingId) (pending : Option Event) : Option Event :=
  scenes.foldl (fun pending scene => scene.admits id pending) pending

namespace World

variable {world mid last : World} {past scenes before since : List Scene}
  {id : ThingId} {event : Event}

theorem leftBy_append (before after : List Scene) (id : ThingId) (pending : Option Event) :
    leftBy (before ++ after) id pending = leftBy after id (leftBy before id pending) :=
  List.foldl_append

theorem leftBy_since {tick : Scene} {parked : List (ThingId × Event)} (advanced : tick.cue = .advanced parked)
    (earlier since : List Scene) (id : ThingId) (pending : Option Event) :
    leftBy (earlier ++ tick :: since) id pending = leftBy since id none := by
  rw [leftBy_append]
  have fresh (pending : Option Event) : tick.leaves id pending = none := by rw [Scene.leaves, advanced]
  exact congrArg (leftBy since id) (fresh _)

theorem parks_of_leaves {scene : Scene} {pending : Option Event} (left : scene.leaves id pending = some event) :
    pending = some event ∨ scene.cue.parks id event := by
  obtain ⟨met, cue⟩ := scene
  have put {other : ThingId} {arrived : Event} (left : (if other = id then some arrived else pending) = some event) :
      pending = some event ∨ other = id ∧ arrived = event := by
    split at left
    · rename_i same
      exact .inr ⟨same, Option.some.inj left⟩
    · exact .inl left
  cases cue with
  | waits other arrived => exact (put left).imp_right fun ⟨same, arrived⟩ => .inl (same ▸ arrived ▸ rfl)
  | returns other arrived => exact (put left).imp_right fun ⟨same, arrived⟩ => .inr (same ▸ arrived ▸ rfl)
  | advanced _ => cases left
  | deletes after =>
    have left : (if Scene.loses ⟨met, .deletes after⟩ id then none else pending) = some event := left
    split at left
    · cases left
    · exact .inl left
  | _ => exact .inl left

theorem parked_of_leftBy : ∀ {pending : Option Event}, leftBy scenes id pending = some event →
    pending = some event ∨ ∃ scene ∈ scenes, scene.cue.parks id event := by
  induction scenes with
  | nil => exact fun left => .inl left
  | cons scene rest ih =>
    intro pending left
    have left : leftBy rest id (scene.leaves id pending) = some event := left
    rcases ih left with left | ⟨later, member, parks⟩
    · exact (parks_of_leaves left).imp_right fun parks => ⟨scene, List.mem_cons_self, parks⟩
    · exact .inr ⟨later, List.mem_cons_of_mem scene member, parks⟩

theorem newest_of_unreturned (arrives : ∀ scene ∈ scenes, ∀ event, scene.cue ≠ .returns id event) :
    ∀ pending, leftBy scenes id pending = newestOf scenes id pending := by
  induction scenes with
  | nil => exact fun pending => rfl
  | cons scene rest ih =>
    intro pending
    have same : scene.leaves id pending = scene.admits id pending := by
      cases cue : scene.cue with
      | returns other event =>
        have differs : other ≠ id := fun same => arrives scene List.mem_cons_self event (same ▸ cue)
        simp [Scene.leaves, Scene.admits, cue, differs]
      | _ => simp [Scene.leaves, Scene.admits, cue]
    show leftBy rest id (scene.leaves id pending) = newestOf rest id (scene.admits id pending)
    rw [same]
    exact ih (fun scene member => arrives scene (List.mem_cons_of_mem _ member)) _

theorem pending_of_turn (same : mid.schedule.turn id = world.schedule.turn id) :
    mid.schedule.pending[id]? = world.schedule.pending[id]? :=
  congrArg (fun turn => turn.2.2) same

theorem pending_scene {cue : Cue} (fits : cue.Fits past world) (id : ThingId) :
    (cue.perform world).schedule.pending[id]? = Scene.leaves ⟨world, cue⟩ id world.schedule.pending[id]? := by
  have parked (other : ThingId) (event : Event) : (world.schedule.pending.insert other event)[id]? =
      if other = id then some event else world.schedule.pending[id]? := by
    rw [Std.ExtTreeMap.getElem?_insert]
    simp
  cases cue with
  | waits other event => exact parked other event
  | returns other event => exact parked other event
  | advanced _ => exact Std.ExtTreeMap.getElem?_empty
  | deletes after =>
    show after.schedule.pending[id]? = if world.Loses after id then none else world.schedule.pending[id]?
    split
    · rename_i loses
      exact congrArg (fun turn => turn.2.2) (fits.forgotten id loses)
    · rename_i stays
      exact pending_of_turn (fits.turns id stays)
  | rounds after => exact pending_of_turn (turn_of_grown fits id)
  | _ => rfl

theorem pending_follows (follows : Follows past world scenes last) (id : ThingId) :
    last.schedule.pending[id]? = leftBy scenes id world.schedule.pending[id]? := by
  induction follows with
  | done => rfl
  | still quiet turns _ ih => rw [ih, pending_of_turn (turns id)]
  | played fits _ ih =>
    rw [ih, pending_scene fits]
    rfl

theorem returns_replace_newer (follows : Follows [] world (before ++ ⟨mid, .returns id event⟩ :: since) last) :
    ∃ earlier tick between parked, before = earlier ++ tick :: between ∧ tick.cue = .advanced parked ∧
      tick.world.schedule.pending[id]? = some event ∧
      mid.schedule.pending[id]? = leftBy between id none := by
  obtain ⟨first, ⟨_, _, tick, played, parked, advanced, listed⟩, _⟩ := follows_scene follows
  rw [List.nil_append] at played
  obtain ⟨earlier, between, rfl⟩ := List.append_of_mem played
  obtain ⟨met, cue⟩ := tick
  cases (advanced : cue = .advanced parked)
  obtain ⟨_, fits, _⟩ := follows_scene first
  obtain rfl : parked = met.schedule.pending.toList := fits
  refine ⟨earlier, _, between, _, rfl, rfl, Std.ExtTreeMap.mem_toList_iff_getElem?_eq_some.mp listed, ?_⟩
  rw [pending_follows first, leftBy_since rfl]

-- What waits is what arrived last, unless an event came back; one that comes back was waiting when an earlier tick began,
-- and the one that it replaces has arrived or come back since then.
theorem returned_events_replace_newer_ones {hand : Bool} {α : Type} {steps : Run α} {result : Except Failure α}
    (built : Built hand steps) (ran : steps.run world = some (result, last)) :
    (∃ scenes, Plays [] steps world scenes result last) ∧ ∀ scenes, Plays [] steps world scenes result last →
      (∀ id, last.schedule.pending[id]? = leftBy scenes id world.schedule.pending[id]? ∧
        ((∀ scene ∈ scenes, ∀ event, scene.cue ≠ .returns id event) →
          last.schedule.pending[id]? = newestOf scenes id world.schedule.pending[id]?)) ∧
      ∀ before scene after, scenes = before ++ scene :: after →
        (∀ id, scene.world.schedule.pending[id]? = leftBy before id world.schedule.pending[id]?) ∧
        ∀ id event, scene.cue = .returns id event →
          ∃ earlier tick since parked, before = earlier ++ tick :: since ∧ tick.cue = .advanced parked ∧
            tick.world.schedule.pending[id]? = some event ∧ scene.next.schedule.pending[id]? = some event ∧
            ∀ newer, scene.world.schedule.pending[id]? = some newer → ∃ put ∈ since, put.cue.parks id newer := by
  refine ⟨played_built built world result last ran, fun scenes plays => ?_⟩
  have known : Handouts.In [] [] := fun parked member => nomatch member
  have follows := plays_follows plays known
  refine ⟨fun id => ?_, ?_⟩
  · have same := pending_follows follows id
    exact ⟨same, fun unreturned => same.trans (newest_of_unreturned unreturned _)⟩
  · rintro before ⟨met, cue⟩ after rfl
    obtain ⟨first, _, _⟩ := follows_scene follows
    refine ⟨pending_follows first, ?_⟩
    rintro id event rfl
    obtain ⟨earlier, tick, since, parked, split, advanced, waited, left⟩ := returns_replace_newer follows
    refine ⟨earlier, tick, since, parked, split, advanced, waited, Std.ExtTreeMap.getElem?_insert_self, ?_⟩
    intro newer waits
    exact (parked_of_leftBy (left.symm.trans waits)).resolve_left nofun

-- Alpha says two things to beta in answer to a poke that had to wait, and beta has a word of its own waiting.
def crossTalk : Run (ThingId × ThingId) :=
  (Operation.create "alpha" "").run >>= fun alpha => (Operation.create "beta" "").run >>= fun beta =>
    inTurn [.setLocation alpha 6, .setLocation beta 6,
      .setProperty alpha "react_nod" (.text "@set me nodded true"),
      .setProperty alpha "react_poke" (.text "say first\nsay second"),
      .setProperty beta "react_say" (.text "@set me last $1"),
      .react alpha ⟨0, "nod", []⟩, .react alpha ⟨0, "poke", []⟩,
      .react beta ⟨0, "say", ["zero"]⟩, .react beta ⟨0, "say", ["old"]⟩] >>= fun _ =>
        Operation.tick.run >>= fun _ => Run.ofExcept (.ok (alpha, beta))

theorem built_crossTalk : Built false crossTalk := by
  have calls {α : Type} (operation : Operation α) (unhanded : operation.byHand = false) : Built false operation.run :=
    .calls operation fun byHand => Bool.noConfusion (unhanded.symm.trans byHand)
  refine .follows (calls _ rfl) fun alpha => .follows (calls _ rfl) fun beta => ?_
  refine .follows (built_inTurn _ ?_) fun _ => .follows (calls _ rfl) fun _ => .gives _
  simp [Operation.byHand]

-- In the tick beta reacts to the first word of alpha, the second waits, and then the old one comes back in its place.
theorem old_words_come_back : ∃ start alpha beta last scenes,
    openOn .inMemory ⟨"new", .standard, 1000, fun _ => 0⟩ = .ok start ∧
      crossTalk.run start = some (.ok (alpha, beta), last) ∧ last.text? beta "last" = some "first" ∧
      last.schedule.tally.superseded = 1 ∧ last.schedule.pending[beta]? = some ⟨0, "say", ["old"]⟩ ∧
      Plays [] crossTalk start scenes (.ok (alpha, beta)) last ∧
      leftBy scenes beta start.schedule.pending[beta]? = some ⟨0, "say", ["old"]⟩ := by
  have checked : opensTo .inMemory ⟨"new", .standard, 1000, fun _ => 0⟩ (fun start =>
      Run.gives (crossTalk.run start) fun made last =>
        decide (last.text? made.2 "last" = some "first" ∧ last.schedule.tally.superseded = 1 ∧
          last.schedule.pending[made.2]? = some ⟨0, "say", ["old"]⟩)) = true := by
    decide +kernel
  obtain ⟨start, opened, checked⟩ := opensTo_iff.mp checked
  obtain ⟨⟨alpha, beta⟩, last, ran, checked⟩ := Run.gives_iff.mp checked
  obtain ⟨heard, replaced, waits⟩ := of_decide_eq_true checked
  obtain ⟨⟨scenes, plays⟩, told⟩ := returned_events_replace_newer_ones built_crossTalk ran
  obtain ⟨left, _⟩ := told scenes plays
  exact ⟨start, alpha, beta, last, scenes, opened, ran, heard, replaced, waits, plays, (left beta).1.symm.trans waits⟩

end World
end ThingWorld
