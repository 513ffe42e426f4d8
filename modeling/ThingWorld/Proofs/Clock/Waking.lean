import ThingWorld.Clock
import ThingWorld.Proofs.Upkeep.Opened
namespace ThingWorld

section Ticks

-- A tick that is over: how it ended and what it left.
structure Ticked where
  result : Except Failure Engine.TickOutcome
  world : World

-- It went well and left reactions parked.
def Ticked.leaves (ticked : Ticked) : Prop :=
  ticked.result.isOk = true ∧ ticked.world.schedule.pending.size ≠ 0

-- Ticks one after the other, with nothing between them.
inductive Ticks : World → List Ticked → World → Prop where
  | nil {world : World} : Ticks world [] world
  | cons {world mid last : World} {result : Except Failure Engine.TickOutcome} {ticks : List Ticked}
      (ran : World.tick.run world = some (result, mid)) (rest : Ticks mid ticks last) :
      Ticks world (⟨result, mid⟩ :: ticks) last

-- The ticks of a wake-up: one and at most so many more, each of these for what the one before it left, and fewer only
-- where the last left nothing or failed.
def Drained (more : Nat) (ticks : List Ticked) : Prop :=
  ∃ earlier final, ticks = earlier ++ [final] ∧ ticks.length ≤ more + 1 ∧ (∀ ticked ∈ earlier, ticked.leaves) ∧
    (ticks.length ≤ more → ¬final.leaves)

variable {world mid last : World} {result : Except Failure Engine.TickOutcome} {more : Nat} {ticked : Ticked}
  {ticks : List Ticked}

theorem drained_single : Drained more [ticked] ↔ (1 ≤ more → ¬ticked.leaves) := by
  constructor
  · rintro ⟨earlier, final, same, _, _, settled⟩
    obtain ⟨rfl, rfl⟩ : earlier = [] ∧ final = ticked := by
      cases earlier <;> simp_all
    exact settled
  · exact fun settled => ⟨[], ticked, rfl, by simp, by simp, settled⟩

theorem drained_cons (some : ticks ≠ []) :
    Drained (more + 1) (ticked :: ticks) ↔ ticked.leaves ∧ Drained more ticks := by
  constructor
  · rintro ⟨earlier, final, same, few, left, settled⟩
    cases earlier with
    | nil => exact absurd (List.cons.inj same).2 some
    | cons first rest =>
      obtain ⟨rfl, rfl⟩ := List.cons.inj same
      refine ⟨left ticked List.mem_cons_self, rest, final, rfl, Nat.le_of_succ_le_succ few, ?_, ?_⟩
      · exact fun other member => left other (List.mem_cons_of_mem ticked member)
      · exact fun within => settled (Nat.succ_le_succ within)
  · rintro ⟨leaves, earlier, final, rfl, few, left, settled⟩
    refine ⟨ticked :: earlier, final, rfl, Nat.succ_le_succ few, ?_, ?_⟩
    · intro other member
      rcases List.mem_cons.mp member with rfl | member
      · exact leaves
      · exact left other member
    · exact fun within => settled (Nat.le_of_succ_le_succ within)

theorem drained_nonempty (drained : Drained more ticks) : ticks ≠ [] := by
  obtain ⟨earlier, final, rfl, _⟩ := drained
  simp

theorem ticks_single (ran : World.tick.run world = some (result, last)) : Ticks world [⟨result, last⟩] last :=
  .cons ran .nil

theorem tick_pending {outcome : Engine.TickOutcome} (ran : World.tick.run world = some (.ok outcome, last)) :
    outcome.pending = last.schedule.pending.size := by
  unfold World.tick at ran
  obtain ⟨start, before, read, ran⟩ := Run.bind_ok ran
  unfold Engine.tick Run.versioned at ran
  obtain ⟨_, next, _, ran⟩ := Run.bind_ok ran
  obtain ⟨mid, body, ended⟩ := World.run_scope_gave ran
  have counted : outcome.pending = mid.schedule.pending.size := by
    obtain ⟨due, _, _, body⟩ := Run.bind_ok body
    obtain ⟨counter, _, _, body⟩ := Run.bind_ok body
    obtain ⟨ran, _, _, body⟩ := Run.bind_ok body
    obtain ⟨after, _, read, body⟩ := Run.bind_ok body
    cases read
    cases body
    rfl
  rcases ended with rfl | rfl
  · exact counted
  · show _ = ((World.commit true).run { mid with inScope := false }).2.schedule.pending.size
    rw [World.commit_schedule]
    exact counted

theorem drain_leaves (ran : World.tick.run world = some (result, mid)) (leaves : (Ticked.mk result mid).leaves) :
    (Clock.drain (more + 1)).run world =
      ((Clock.drain more).run mid).map fun (results, last) => (results.map (result :: ·), last) := by
  rw [Clock.drain, Run.run_bind, Run.run_observe, ran]
  cases result with
  | error failure => cases leaves.1
  | ok outcome =>
    have counted := tick_pending ran
    have parked : mid.schedule.pending.size ≠ 0 := leaves.2
    simp only [Option.map_some, counted, if_neg parked, Run.run_bind]
    rcases (Clock.drain more).run mid with _ | ⟨failure | results, last⟩ <;> rfl

theorem drain_settled (ran : World.tick.run world = some (result, mid)) (settled : ¬(Ticked.mk result mid).leaves) :
    (Clock.drain (more + 1)).run world = some (.ok [result], mid) := by
  rw [Clock.drain, Run.run_bind, Run.run_observe, ran]
  cases result with
  | error failure => rfl
  | ok outcome =>
    have counted := tick_pending ran
    have empty : mid.schedule.pending.size = 0 := by
      simpa [Ticked.leaves, Except.isOk, Except.toBool] using settled
    simp only [Option.map_some, counted, if_pos empty]
    rfl

theorem drain_single : (Clock.drain 0).run world = (World.tick.run world).map fun (result, mid) => (.ok [result], mid) := by
  rw [Clock.drain, Run.run_bind, Run.run_observe]
  cases World.tick.run world <;> rfl

-- A wake-up ends and has ticked as it is to; or ticks that all left something have led to one that does not end.
theorem drain_ends (more : Nat) (world : World) :
    (∃ ticks last, Ticks world ticks last ∧ Drained more ticks ∧
      (Clock.drain more).run world = some (.ok (ticks.map Ticked.result), last)) ∨
    ∃ ticks last, Ticks world ticks last ∧ ticks.length ≤ more ∧ (∀ ticked ∈ ticks, ticked.leaves) ∧
      World.tick.run last = none ∧ (Clock.drain more).run world = none := by
  induction more generalizing world with
  | zero =>
    rw [drain_single]
    cases ran : World.tick.run world with
    | none => exact .inr ⟨[], world, .nil, Nat.le_refl 0, by simp, ran, rfl⟩
    | some ended =>
      obtain ⟨result, mid⟩ := ended
      exact .inl ⟨_, mid, ticks_single ran, drained_single.mpr (by omega), rfl⟩
  | succ more ih =>
    cases ran : World.tick.run world with
    | none =>
      refine .inr ⟨[], world, .nil, Nat.zero_le _, by simp, ran, ?_⟩
      rw [Clock.drain, Run.run_bind, Run.run_observe, ran]
      rfl
    | some ended =>
      obtain ⟨result, mid⟩ := ended
      by_cases leaves : (Ticked.mk result mid).leaves
      · rw [drain_leaves ran leaves]
        rcases ih mid with ⟨ticks, last, sequence, drained, rest⟩ | ⟨ticks, last, sequence, few, left, stuck, rest⟩
        · refine .inl ⟨_, last, .cons ran sequence, ?_, by rw [rest]; rfl⟩
          exact (drained_cons (drained_nonempty drained)).mpr ⟨leaves, drained⟩
        · refine .inr ⟨_, last, .cons ran sequence, Nat.succ_le_succ few, ?_, stuck, by rw [rest]; rfl⟩
          simpa [leaves] using left
      · refine .inl ⟨_, mid, ticks_single ran, drained_single.mpr fun _ => leaves, ?_⟩
        exact drain_settled ran leaves

end Ticks

namespace Clock

inductive Kind where
  | passed
  | asked
  | woke
deriving DecidableEq, Repr

-- What may happen to a clock next: time goes by, a request is carried out, whatever it is, or it wakes.
inductive Step : Clock → Kind → Clock → Prop where
  | passed {clock : Clock} (time : Nat) : Step clock .passed (clock.advance time)
  | asked {clock next : Clock} {α : Type} {request : Run α} {result : Except Failure α}
      (carried : clock.handle request = some (result, next)) : Step clock .asked next
  | woke {clock next : Clock} (due : clock.isDue = true) (ran : clock.wake = some next) : Step clock .woke next

structure Turn where
  kind : Kind
  before : Clock
  after : Clock

-- A turn from which the wait counts anew: a wake-up, a change of rate, or a restart.
def Turn.renews (turn : Turn) : Bool :=
  turn.kind == .woke || turn.after.world.info.clockInterval != turn.before.world.info.clockInterval ||
    !turn.before.running && turn.after.running

-- The turns in the order in which they came.
inductive Runs (start : Clock) : List Turn → Clock → Prop where
  | nil : Runs start [] start
  | snoc {turns : List Turn} {clock next : Clock} {kind : Kind} (before : Runs start turns clock)
      (step : Step clock kind next) : Runs start (turns ++ [⟨kind, clock, next⟩]) next

-- When a wait began: with the clock itself, and with every turn that renews.
def beginnings (turns : List Turn) : List Nat :=
  0 :: (turns.filter Turn.renews).map fun turn => turn.after.now

variable {clock next : Clock} {kind : Kind} {turns : List Turn} {world : World} {settings : ClockSettings}

theorem lookAround_spec (wasRunning : Bool) (clock : Clock) :
    clock.lookAround wasRunning =
      { clock with
        interval := clock.world.info.clockInterval
        due :=
          if clock.world.info.clockInterval = clock.interval ∧ (wasRunning || !clock.running) = true then clock.due
          else clock.now + clock.world.pause } := by
  unfold lookAround reset running
  by_cases same : clock.world.info.clockInterval = clock.interval
  · cases wasRunning <;> cases on : clock.world.clockRunning <;> simp [same, on]
  · cases wasRunning <;> cases on : clock.world.clockRunning <;> simp [same, on]

-- What a clock keeps along its turns.
structure Waits (maxDrain : Nat) (turns : List Turn) (clock : Clock) : Prop where
  bound : clock.maxDrain = maxDrain
  remembered : clock.interval = clock.world.info.clockInterval
  past : ∀ begun ∈ beginnings turns, begun ≤ clock.now
  due : ∃ latest ∈ beginnings turns, clock.due = latest + clock.world.pause ∧ ∀ begun ∈ beginnings turns, begun ≤ latest

theorem pause_congr {world world' : World} (same : world'.info.clockInterval = world.info.clockInterval) :
    world'.pause = world.pause := by
  rw [World.pause, World.pause, same]

theorem handle_spec {α : Type} {request : Run α} {result : Except Failure α}
    (carried : clock.handle request = some (result, next)) :
    next.maxDrain = clock.maxDrain ∧ next.now = clock.now ∧ next.interval = next.world.info.clockInterval ∧
      next.due =
        if next.world.info.clockInterval = clock.interval ∧ (clock.running || !next.running) = true then clock.due
        else clock.now + next.world.pause := by
  obtain ⟨⟨result, world⟩, _, same⟩ := Option.map_eq_some_iff.mp carried
  obtain ⟨_, rfl⟩ := Prod.mk.inj same
  rw [lookAround_spec]
  exact ⟨rfl, rfl, rfl, rfl⟩

theorem wake_spec (ran : clock.wake = some next) :
    next.maxDrain = clock.maxDrain ∧ next.now = clock.now ∧ next.interval = next.world.info.clockInterval ∧
      next.due = clock.now + next.world.pause ∧
      ∃ ticks, Ticks clock.world ticks next.world ∧ Drained clock.maxDrain ticks := by
  obtain ⟨⟨results, world⟩, drained, rfl⟩ := Option.map_eq_some_iff.mp ran
  dsimp only
  rw [lookAround_spec]
  refine ⟨rfl, rfl, rfl, ite_self _, ?_⟩
  rcases drain_ends clock.maxDrain clock.world with ⟨ticks, last, sequence, bounded, whole⟩ | ⟨_, _, _, _, _, _, stuck⟩
  · rw [whole] at drained
    cases drained
    exact ⟨ticks, sequence, bounded⟩
  · rw [stuck] at drained
    cases drained

theorem step_cases (step : Step clock kind next) (remembered : clock.interval = clock.world.info.clockInterval) :
    next.maxDrain = clock.maxDrain ∧ next.interval = next.world.info.clockInterval ∧ clock.now ≤ next.now ∧
      ((Turn.mk kind clock next).renews = true → next.due = next.now + next.world.pause) ∧
      ((Turn.mk kind clock next).renews = false → next.due = clock.due ∧ next.world.pause = clock.world.pause) := by
  cases step with
  | passed time =>
    refine ⟨rfl, remembered, Nat.le_max_left _ _, ?_, fun _ => ⟨rfl, rfl⟩⟩
    intro renews
    simp [Turn.renews, advance, running] at renews
  | asked carried =>
    obtain ⟨bound, now, interval, due⟩ := handle_spec carried
    refine ⟨bound, interval, Nat.le_of_eq now.symm, ?_, ?_⟩
    · intro renews
      rw [due, now, if_neg]
      simpa [Turn.renews, remembered, imp_iff_not_or] using renews
    · intro kept
      simp only [Turn.renews, Bool.or_eq_false_iff, bne_eq_false_iff_eq] at kept
      obtain ⟨⟨_, rate⟩, running⟩ := kept
      have unstarted : (clock.running || !next.running) = true := by
        cases was : clock.running with
        | true => rfl
        | false => simpa [was] using running
      exact ⟨due.trans (if_pos ⟨rate.trans remembered.symm, unstarted⟩), pause_congr rate⟩
  | woke due ran =>
    obtain ⟨bound, now, interval, due, _⟩ := wake_spec ran
    refine ⟨bound, interval, Nat.le_of_eq now.symm, fun _ => by rw [due, now], ?_⟩
    intro kept
    simp [Turn.renews] at kept

theorem beginnings_snoc (turn : Turn) :
    beginnings (turns ++ [turn]) = beginnings turns ++ if turn.renews then [turn.after.now] else [] := by
  unfold beginnings
  cases renews : turn.renews <;> simp [List.filter_append, renews]

theorem waits_start (world : World) (settings : ClockSettings) :
    Waits settings.maxDrain [] (start world settings) := by
  refine ⟨rfl, rfl, ?_, 0, ?_, ?_, ?_⟩
  · simp [beginnings]
  · simp [beginnings]
  · exact (Nat.zero_add _).symm
  · simp [beginnings]

theorem waits_step {maxDrain : Nat} (waits : Waits maxDrain turns clock) (step : Step clock kind next) :
    Waits maxDrain (turns ++ [⟨kind, clock, next⟩]) next := by
  obtain ⟨bound, interval, later, renewed, kept⟩ := step_cases step waits.remembered
  obtain ⟨latest, member, due, last⟩ := waits.due
  have past : ∀ begun ∈ beginnings turns, begun ≤ next.now :=
    fun begun member => Nat.le_trans (waits.past begun member) later
  cases renews : (Turn.mk kind clock next).renews with
  | true =>
    have begun : beginnings (turns ++ [⟨kind, clock, next⟩]) = beginnings turns ++ [next.now] := by
      rw [beginnings_snoc, renews]
      rfl
    have last : ∀ other ∈ beginnings turns ++ [next.now], other ≤ next.now := by
      intro other member
      rcases List.mem_append.mp member with before | now
      · exact past other before
      · exact Nat.le_of_eq (List.mem_singleton.mp now)
    refine ⟨bound.trans waits.bound, interval, ?_, next.now, ?_, renewed renews, ?_⟩
    · rwa [begun]
    · simp [begun]
    · rwa [begun]
  | false =>
    have begun : beginnings (turns ++ [⟨kind, clock, next⟩]) = beginnings turns := by
      rw [beginnings_snoc, renews]
      simp
    obtain ⟨unchanged, pause⟩ := kept renews
    refine ⟨bound.trans waits.bound, interval, ?_, latest, ?_, ?_, ?_⟩
    · rwa [begun]
    · rwa [begun]
    · rw [unchanged, due, pause]
    · rwa [begun]

theorem runs_waits (runs : Runs (start world settings) turns clock) : Waits settings.maxDrain turns clock := by
  induction runs with
  | nil => exact waits_start world settings
  | snoc before step ih => exact waits_step ih step

theorem isDue_iff {maxDrain : Nat} (waits : Waits maxDrain turns clock) :
    clock.isDue = true ↔
      clock.running = true ∧ ∀ begun ∈ beginnings turns, begun + clock.world.pause ≤ clock.now := by
  obtain ⟨latest, member, due, last⟩ := waits.due
  rw [isDue, Bool.and_eq_true, decide_eq_true_iff, due]
  refine and_congr_right fun _ => ⟨fun lapsed begun listed => ?_, fun lapsed => lapsed latest member⟩
  have early := last begun listed
  omega

theorem runs_append {start : Clock} {later : List Turn} (first : Runs start turns clock) (rest : Runs clock later next) :
    Runs start (turns ++ later) next := by
  induction rest with
  | nil => rwa [List.append_nil]
  | snoc before step ih =>
    rw [← List.append_assoc]
    exact ih.snoc step

-- What a clock does of itself until some time is to let it go by and to wake.
theorem runUntil_runs {time wakes : Nat} (ran : clock.runUntil time wakes = some next) :
    ∃ turns, Runs clock turns next ∧ ∀ turn ∈ turns, turn.kind ≠ .asked := by
  induction wakes generalizing clock with
  | zero =>
    cases ran
    exact ⟨_, Runs.nil.snoc (.passed time), by simp⟩
  | succ wakes ih =>
    rw [runUntil] at ran
    split at ran
    · rename_i due
      split at ran
      · rename_i woken wakes'
        have ready : (clock.advance clock.due).isDue = true := by
          simp only [isDue, Bool.and_eq_true, decide_eq_true_iff] at due ⊢
          exact ⟨due.1, Nat.le_max_right _ _⟩
        obtain ⟨turns, rest, alone⟩ := ih ran
        have first : Runs clock _ woken := (Runs.nil.snoc (.passed clock.due)).snoc (.woke ready wakes')
        refine ⟨_, runs_append first rest, ?_⟩
        intro turn member
        rcases List.mem_append.mp member with early | late
        · simp only [List.nil_append, List.mem_append, List.mem_singleton] at early
          rcases early with rfl | rfl <;> simp
        · exact alone turn late
      · cases ran
    · cases ran
      exact ⟨_, Runs.nil.snoc (.passed time), by simp⟩

-- A clock wakes while it runs and not before its pause is over, counted from whatever began it last; and when the time has
-- come it wakes, unless some tick has no end.
theorem wakes_come_after_the_pause (runs : Runs (start world settings) turns clock) :
    (clock.isDue = true ↔
      clock.running = true ∧ ∀ begun ∈ beginnings turns, begun + clock.world.pause ≤ clock.now) ∧
    (∀ next, Step clock .woke next →
      clock.running = true ∧
      (∀ begun ∈ beginnings turns, begun + clock.world.info.clockInterval.toNat ≤ clock.now) ∧
      ∃ ticks, Ticks clock.world ticks next.world ∧ Drained settings.maxDrain ticks) ∧
    (clock.isDue = true → (∃ next, Step clock .woke next) ∨
      ∃ ticks last, Ticks clock.world ticks last ∧ ticks.length ≤ settings.maxDrain ∧ (∀ ticked ∈ ticks, ticked.leaves) ∧
        World.tick.run last = none) := by
  have waits := runs_waits runs
  refine ⟨isDue_iff waits, ?_, ?_⟩
  · intro next woke
    cases woke with
    | woke due ran =>
      obtain ⟨running, lapsed⟩ := (isDue_iff waits).mp due
      obtain ⟨_, _, _, _, ticks⟩ := wake_spec ran
      rw [waits.bound] at ticks
      refine ⟨running, fun begun listed => ?_, ticks⟩
      exact Nat.le_trans (Nat.add_le_add_left (Nat.le_max_left _ _) begun) (lapsed begun listed)
  · intro due
    rw [← waits.bound]
    rcases drain_ends clock.maxDrain clock.world with ⟨_, _, _, _, drained⟩ | ⟨ticks, last, sequence, few, left, stuck, _⟩
    · exact .inl ⟨_, .woke due (congrArg (Option.map _) drained)⟩
    · exact .inr ⟨ticks, last, sequence, few, left, stuck⟩

-- A clock is stopped for five seconds; soon after it was started again it is told to go twice as fast.
theorem restarted_clocks_wait_anew : ∃ world turns clock next,
    World.openOn .inMemory ⟨"new", .standard, 1000, fun _ => 0⟩ = .ok world ∧
      Runs (.start world .standard) turns clock ∧ beginnings turns = [0, 5000, 5200] ∧ clock.now = 5700 ∧
      Step clock .woke next ∧ next.world.schedule.tick = 1 ∧ clock.running = true ∧
      ∃ ticks, Ticks clock.world ticks next.world ∧ Drained 16 ticks := by
  have checked : World.opensTo .inMemory ⟨"new", .standard, 1000, fun _ => 0⟩ (fun world =>
      let first := start world .standard
      (first.handle (setRunning false)).any fun stopped =>
        let later := stopped.2.advance 5000
        (later.handle (setRunning true)).any fun going =>
          let soon := going.2.advance 5200
          (soon.handle (setInterval 500)).any fun faster =>
            let due := faster.2.advance 5700
            due.isDue && due.wake.any fun next => decide (next.world.schedule.tick = 1 ∧ due.now = 5700 ∧
              beginnings [⟨.asked, first, stopped.2⟩, ⟨.passed, stopped.2, later⟩, ⟨.asked, later, going.2⟩,
                ⟨.passed, going.2, soon⟩, ⟨.asked, soon, faster.2⟩, ⟨.passed, faster.2, due⟩] = [0, 5000, 5200])) = true := by
    decide +kernel
  obtain ⟨world, opened, checked⟩ := World.opensTo_iff.mp checked
  obtain ⟨⟨_, stopped⟩, stops, checked⟩ := (Option.any_eq_true _ _).mp checked
  obtain ⟨⟨_, going⟩, starts, checked⟩ := (Option.any_eq_true _ _).mp checked
  obtain ⟨⟨_, faster⟩, hurries, checked⟩ := (Option.any_eq_true _ _).mp checked
  obtain ⟨due, checked⟩ := Bool.and_eq_true_iff.mp checked
  obtain ⟨next, wakes, checked⟩ := (Option.any_eq_true _ _).mp checked
  obtain ⟨ticked, now, begun⟩ := of_decide_eq_true checked
  have fresh : Runs (start world .standard) [] (start world .standard) := .nil
  have asleep := (fresh.snoc (.asked stops)).snoc (.passed 5000)
  have awake := ((asleep.snoc (.asked starts)).snoc (.passed 5200)).snoc (.asked hurries)
  have runs := awake.snoc (.passed 5700)
  have woke := Step.woke due wakes
  obtain ⟨_, wakes, _⟩ := wakes_come_after_the_pause runs
  obtain ⟨running, _, ticks⟩ := wakes next woke
  exact ⟨world, _, _, next, opened, runs, begun, now, woke, ticked, running, ticks⟩

end Clock

end ThingWorld
