import ThingWorld.Proofs.Course.Line
import ThingWorld.Proofs.Upkeep.Reached
namespace ThingWorld

-- The flag is written on a thing, and holds.
def Moment.promotes (moment : Moment) : Prop :=
  ∃ id value, moment = .did (.revised id (.write Property.admin value)) ∧ value.holds = true

namespace World

-- Nobody is an admin.
def Level (world : World) : Prop :=
  ∀ id, world.isAdmin id = false

variable {world : World}

theorem flag_owned {id : ThingId} {thing : Thing} {property : String} {value : Datum}
    (found : world.things[id]? = some thing) (owned : thing.own? property = some value) :
    world.flag id property = value.holds := by
  rw [flag, choose?, maxAncestors, chooseFrom, found]
  simp [owned]

theorem level_iff : world.Level ↔
    (∀ (id : ThingId) (listener : Listener), world.listeners[id]? = some listener → listener.admin = false) ∧
      ∀ (id : ThingId) (thing : Thing), world.things[id]? = some thing → thing.ownFlag Property.admin = false := by
  constructor
  · intro level
    refine ⟨?_, ?_⟩
    · intro id listener attached
      have plain := (Bool.or_eq_false_iff.mp (level id)).1
      rw [attached] at plain
      exact plain
    · intro id thing found
      have unflagged := (Bool.or_eq_false_iff.mp (level id)).2
      rw [Thing.ownFlag]
      cases owned : thing.own? Property.admin with
      | none => rfl
      | some value =>
        rw [flag_owned found owned] at unflagged
        exact unflagged
  · rintro ⟨listeners, things⟩ id
    refine Bool.or_eq_false_iff.mpr ⟨?_, ?_⟩
    · cases attached : world.listeners[id]? with
      | none => rfl
      | some listener => exact listeners id listener attached
    · rw [flag]
      cases chosen : world.choose? id [Property.admin] with
      | none => rfl
      | some value =>
        obtain ⟨owner, thing, _, found, owned⟩ :=
          chooseFrom_owner (P := fun _ => True) (fun _ _ _ _ _ _ => trivial) maxAncestors trivial chosen
        have unflagged := things owner thing found
        rw [Thing.ownFlag, owned] at unflagged
        exact unflagged

instance (world : World) : Decidable world.Level :=
  decidable_of_iff ((∀ listener ∈ world.listeners.values, listener.admin = false) ∧
      ∀ thing ∈ world.things.values, thing.ownFlag Property.admin = false) <| by
    rw [level_iff]
    simp only [Index.mem_values, forall_exists_index]
    exact and_congr forall_comm forall_comm

theorem level_congr {world' : World} (level : world.Level) (things : world'.things = world.things)
    (listeners : world'.listeners = world.listeners) : world'.Level := by
  rw [level_iff, things, listeners]
  exact level_iff.mp level

-- What is not the flag itself does not raise it.
theorem ownFlag_apply {change : Change} (other : ∀ value, change = .write Property.admin value → value.holds = false)
    {thing : Thing} (unflagged : thing.ownFlag Property.admin = false) :
    (change.apply thing).ownFlag Property.admin = false := by
  cases change with
  | write property value =>
    rw [Change.apply, Thing.ownFlag_write]
    split
    · rename_i named
      exact other value (named ▸ rfl)
    · exact unflagged
  | erase property =>
    rw [Change.apply, Thing.ownFlag_erase]
    split
    · rfl
    · exact unflagged
  | point relation target multi => cases multi <;> exact unflagged
  | cut keep => exact unflagged
  | inherit prototype => exact unflagged

theorem level_retouch (level : world.Level) (id : ThingId) {f : Thing → Thing}
    (keeps : ∀ thing : Thing, thing.ownFlag Property.admin = false → (f thing).ownFlag Property.admin = false) :
    (world.retouch id f).Level := by
  obtain ⟨listeners, things⟩ := level_iff.mp level
  rw [retouch]
  cases found : world.things[id]? with
  | none => exact level
  | some thing =>
    refine level_iff.mpr ⟨listeners, ?_⟩
    intro other held placed
    have placed : (world.things.insert id (f thing))[other]? = some held := placed
    rw [Std.ExtTreeMap.getElem?_insert] at placed
    split at placed
    · cases placed
      exact keeps thing (things id thing found)
    · exact things other held placed

theorem level_moment (level : world.Level) {moment : Moment} (plain : moment.plain = true)
    (unpromoting : ¬moment.promotes) : (moment.perform world).Level := by
  cases moment with
  | opened => exact level
  | ended keep =>
    have closed : ({ world with inScope := false } : World).Level := level
    exact level_congr closed (commit_things keep _) (commit_listeners keep _)
  | did deed =>
    cases deed with
    | revised id change =>
      have retouched : (world.retouch id change.apply).Level := by
        refine level_retouch level id fun thing => ownFlag_apply ?_
        rintro value rfl
        exact Bool.eq_false_iff.mpr fun holds => unpromoting ⟨id, value, rfl, holds⟩
      obtain ⟨index, same⟩ := reindex_same (world.retouch id change.apply) id
      rw [Moment.perform, Deed.perform, revise, same]
      exact level_congr retouched rfl rfl
    | told id line =>
      obtain ⟨heard, same⟩ := tell_same id line world
      rw [Moment.perform, Deed.perform, same]
      exact level
    | paced pace => exact level
    | versioned => exact level
    | rolled => exact level
    | _ => cases plain

theorem not_ruled (level : world.Level) : ¬world.Ruled := by
  rintro ⟨id, flagged⟩
  rw [(Bool.or_eq_false_iff.mp (level id)).2] at flagged
  cases flagged

-- As long as nobody writes the flag, a lawful run leaves everybody as they are.
theorem level_replay {moments : List Moment} : ∀ {world : World}, world.Level → world.Lawful moments →
    (∀ moment ∈ moments, ¬moment.promotes) → (world.replay moments).Level := by
  induction moments with
  | nil => exact fun level _ _ => level
  | cons moment rest ih =>
    intro world level lawful unpromoting
    obtain ⟨plain, lawful⟩ := lawful.resolve_left (not_ruled level)
    exact ih (level_moment level plain (unpromoting moment List.mem_cons_self)) lawful
      fun other member => unpromoting other (List.mem_cons_of_mem moment member)

-- The thing itself has the flag.
def Flagged (world : World) (id : ThingId) : Prop :=
  ∃ thing : Thing, world.things[id]? = some thing ∧ thing.ownFlag Property.admin = true

theorem flagged_congr {world' : World} {id : ThingId} (flagged : world.Flagged id)
    (same : world'.things = world.things) : world'.Flagged id := by
  rw [Flagged, same]
  exact flagged

theorem isAdmin_of_flagged {id : ThingId} (flagged : world.Flagged id) : world.isAdmin id = true := by
  obtain ⟨thing, found, flagged⟩ := flagged
  rw [Thing.ownFlag] at flagged
  cases owned : thing.own? Property.admin with
  | none =>
    rw [owned] at flagged
    cases flagged
  | some value =>
    rw [owned] at flagged
    rw [isAdmin, flag_owned found owned]
    exact Bool.or_eq_true_iff.mpr (.inr flagged)

theorem flagged_written {id : ThingId} {value : Datum} (held : world.contains id = true) (holds : value.holds = true) :
    (world.revise id (Change.write Property.admin value).apply).Flagged id := by
  obtain ⟨thing, found⟩ := some_of_contains held
  refine ⟨thing.write Property.admin value, ?_, ?_⟩
  · rw [revise, reindex_things, retouch, found]
    exact Std.ExtTreeMap.getElem?_insert_self
  · simp [Thing.ownFlag, Thing.own?, Thing.write, holds]

theorem promoted {moment : Moment} (promotes : moment.promotes) (allowed : moment.allowed world) :
    ¬(moment.perform world).Level := by
  obtain ⟨id, value, rfl, holds⟩ := promotes
  intro level
  have raised := (level id).symm.trans (isAdmin_of_flagged (flagged_written allowed.1 holds))
  cases raised

theorem lawful_before {before after : List Moment} : ∀ {world : World}, world.Lawful (before ++ after) →
    world.Lawful before := by
  induction before with
  | nil => exact fun _ => trivial
  | cons moment before ih =>
    intro world lawful
    exact lawful.imp_right fun step => ⟨step.1, ih step.2⟩

-- On a lawful course nobody is an admin at any moment just if nobody writes the flag.
theorem level_throughout_iff {moments : List Moment} (level : world.Level) (lawful : world.Lawful moments)
    (permitted : world.Permits moments) :
    (∀ before, before <+: moments → (world.replay before).Level) ↔ ∀ moment ∈ moments, ¬moment.promotes := by
  constructor
  · intro throughout moment member promotes
    obtain ⟨before, after, rfl⟩ := List.append_of_mem member
    have allowed := (heeds_append.mp permitted).2.1
    refine promoted promotes allowed ?_
    have last := throughout (before ++ [moment]) ⟨after, by simp⟩
    rwa [replay_append] at last
  · rintro unpromoting before ⟨after, rfl⟩
    exact level_replay level (lawful_before lawful) fun moment member =>
      unpromoting moment (List.mem_append_left after member)

-- Lines that are typed one after the other, whatever becomes of each.
def typed : List (ThingId × String) → Run Unit
  | [] => return
  | (actor, line) :: rest => do
    let _ ← (command actor line).observe
    typed rest

-- Whoever types a line is not an admin when it is typed.
def Outsiders (world : World) : List (ThingId × String) → Prop
  | [] => True
  | (actor, line) :: rest =>
    world.isAdmin actor = false ∧
      ∀ result mid, (command actor line).run world = some (result, mid) → mid.Outsiders rest

theorem course_typed (lines : List (ThingId × String)) : ∀ {start last : World} {result : Except Failure Unit},
    start.Outsiders lines → (typed lines).run start = some (result, last) →
      ∃ moments, Unfolds (typed lines) start moments result last ∧ (Law.rights false).holds start moments ∧
        ∀ earlier later, lines = earlier ++ later → ∃ before, before <+: moments ∧
          (typed earlier).run start = some (.ok (), start.replay before) := by
  induction lines with
  | nil =>
    intro start last result _ ran
    cases ran
    refine ⟨[], .still rfl, (Law.rights false).none _, ?_⟩
    intro earlier later split
    obtain ⟨rfl, _⟩ := List.append_eq_nil_iff.mp split.symm
    exact ⟨[], List.nil_prefix, rfl⟩
  | cons line rest ih =>
    obtain ⟨actor, text⟩ := line
    intro start last result outsiders ran
    rw [typed, Run.run_bind, Run.run_observe] at ran
    cases inner : (command actor text).run start with
    | none =>
      rw [inner] at ran
      cases ran
    | some ended =>
      obtain ⟨result', mid⟩ := ended
      rw [inner] at ran
      have charted := charted_command actor text start
      rw [outsiders.1] at charted
      obtain ⟨before, unfolds, holds⟩ := charted result' mid inner
      obtain ⟨after, unfolds', holds', stops⟩ := ih (outsiders.2 result' mid inner) ran
      have same : mid = start.replay before := (unfolds_replay unfolds).1
      refine ⟨before ++ after, .next (.observed unfolds) unfolds', ?_, ?_⟩
      · exact (Law.rights false).append holds (same ▸ holds')
      · intro earlier later split
        cases earlier with
        | nil => exact ⟨[], List.nil_prefix, rfl⟩
        | cons first earlier =>
          obtain ⟨rfl, others⟩ := List.cons.inj split
          obtain ⟨early, first, ran⟩ := stops earlier later others
          refine ⟨before ++ early, (List.prefix_append_right_inj before).mpr first, ?_⟩
          rw [typed, Run.run_bind, Run.run_observe, inner, replay_append, ← same]
          exact ran

theorem guarded_standard : Registry.standard.Guarded := by
  have every : (Registry.standard.toList.all fun entry => !entry.2.verb.privileged || entry.2.adminOnly) = true := by
    decide +kernel
  intro name spec found privileged
  have listed := List.all_eq_true.mp every (name, spec) (Std.ExtTreeMap.mem_toList_iff_getElem?_eq_some.mpr found)
  simpa [privileged] using listed

-- A line that gives rights to whoever types it.
def raising : String := "@set me admin true"

def raisingLine : Line := ⟨raising, [⟨0, "@set"⟩, ⟨5, "me"⟩, ⟨8, "admin"⟩, ⟨14, "true"⟩]⟩

theorem run_raising {actor : ThingId} (inside : world.inScope = true) (standard : world.registry = .standard)
    (held : world.contains actor = true) (admin : Bool) :
    ∃ mid, (dispatch (Context.of actor admin) raising).run world = some (.ok none, mid) ∧ mid.Flagged actor := by
  have parsed : Line.parse (normalizeLine raising) = raisingLine := by decide +kernel
  have known : world.registry[Text.lower "@set"]? =
      some ⟨"@set", 3, false, "@set THING PROP VALUE - set a property", .setProperty⟩ := by
    rw [standard]
    decide +kernel
  have shallow : (Context.of actor admin).depth ≤ world.limits.substitutionDepth := Nat.zero_le _
  obtain ⟨fuel, ran⟩ := run_dispatch shallow parsed rfl known rfl
  have resolved : world.resolveOne (Context.of actor admin).view (raisingLine.arg 0) = .ok actor := by
    rw [show raisingLine.arg 0 = "me" from rfl, resolveOne, resolve_me]
    rfl
  have controlled : (Context.of actor admin).controls actor = true := by simp [Context.controls, Context.of]
  have value : Datum.parse (raisingLine.arg 1) (raisingLine.restFrom 2) = .flag true := by decide +kernel
  obtain ⟨last, set, same⟩ := run_set inside resolved controlled held
  rw [value] at same
  refine ⟨last, ?_, flagged_congr (flagged_written held rfl) same⟩
  rw [ran, Engine.perform, Run.run_bind, set]
  rfl

-- Whether or not the store takes it, the flag is there when the scope has ended.
theorem raising_raises {actor : ThingId} (outside : world.inScope = false) (standard : world.registry = .standard)
    (held : world.contains actor = true) :
    ∃ result last, (command actor raising).run world = some (result, last) ∧ last.isAdmin actor = true := by
  have inside : (Moment.opened.perform world.nextVersion).inScope = true := rfl
  obtain ⟨mid, ran, flagged⟩ := run_raising inside standard held (world.isAdmin actor)
  have versioned : (Run.versioned (dispatch (Context.of actor (world.isAdmin actor)) raising)).run world =
      some (mid.settle (.ok none)) := by
    have outside : world.nextVersion.inScope = false := outside
    rw [Run.versioned, Run.run_bind, Run.run_modify]
    dsimp only
    rw [Run.run_outermost outside]
    exact congrArg (Option.map _) ran
  obtain ⟨result, last, ran, same⟩ := run_command versioned
  have kept : (mid.settle (.ok (none : Option Script.Value))).2.things = mid.things := by
    rw [settle_world, Moment.perform, commit_things]
  exact ⟨result, last, ran, isAdmin_of_flagged (flagged_congr flagged (same.trans kept))⟩

variable {origin : Origin} {start last : World} {ledger : Ledger} {lines : List (ThingId × String)}
  {result : Except Failure Unit}

-- A world in which nobody is an admin stays so, from moment to moment and therefore from line to line, just if no line
-- has the flag written; and one line of whoever is there has it written.
theorem rights_come_from_writing (reached : Reached origin start ledger) (level : ∀ id, start.isAdmin id = false)
    (outsiders : start.Outsiders lines) (ran : (typed lines).run start = some (result, last)) :
    (∃ moments, Unfolds (typed lines) start moments result last ∧
      (∀ earlier later, lines = earlier ++ later → ∃ before, before <+: moments ∧
        (typed earlier).run start = some (.ok (), start.replay before)) ∧
      ((∀ before, before <+: moments → ∀ id, (start.replay before).isAdmin id = false) ↔
        ∀ id value, .did (.revised id (.write Property.admin value)) ∈ moments → value.holds = false)) ∧
    ∀ actor, start.contains actor = true →
      ∃ result last, (command actor raising).run start = some (result, last) ∧ last.isAdmin actor = true := by
  obtain ⟨outside, standard⟩ := reached_frame reached
  obtain ⟨moments, unfolds, holds, stops⟩ := course_typed lines outsiders ran
  have guarded : start.registry.Guarded := by
    rw [standard]
    exact guarded_standard
  refine ⟨⟨moments, unfolds, stops, ?_⟩, fun actor => raising_raises outside standard⟩
  refine (level_throughout_iff level (holds.2 rfl guarded) (unfolds_replay unfolds).2.1).trans ?_
  constructor
  · exact fun unpromoting id value member =>
      Bool.eq_false_iff.mpr fun holds => unpromoting _ member ⟨id, value, rfl, holds⟩
  · rintro lowered moment member ⟨id, value, rfl, holds⟩
    rw [lowered id value member] at holds
    cases holds

-- Somebody who was just made writes the flag.
theorem newcomer_takes_rights :
    ∃ world player start last moments, openOn .inMemory ⟨"new", .standard, 1000, fun _ => 0⟩ = .ok world ∧
      (create "newcomer" "").run world = (.ok player, start) ∧ start.Level ∧ last.isAdmin player = true ∧
      Unfolds (typed [(player, raising)]) start moments (.ok ()) last ∧
      ∃ id value, .did (.revised id (.write Property.admin value)) ∈ moments ∧ value.holds = true := by
  have checked : (match openOn .inMemory ⟨"new", .standard, 1000, fun _ => 0⟩ with
      | .ok world =>
        match (create "newcomer" "").run world with
        | (.ok player, start) => decide (start.contains player = true ∧ start.Level)
        | (.error _, _) => false
      | .error _ => false) = true := by decide +kernel
  cases opened : openOn .inMemory ⟨"new", .standard, 1000, fun _ => 0⟩ with
  | error failure =>
    rw [opened] at checked
    cases checked
  | ok world =>
    rw [opened] at checked
    dsimp only at checked
    cases made : (create "newcomer" "").run world with
    | mk result start =>
      rw [made] at checked
      cases result with
      | error failure => cases checked
      | ok player =>
        obtain ⟨held, level⟩ := of_decide_eq_true checked
        have fresh := Reached.seeded rfl opened (Store.own_of_empty Store.empty_inMemory _)
        have built : Built false (Operation.create "newcomer" "").run := .calls _ fun byHand => nomatch byHand
        obtain ⟨_, unfolds, within⟩ := charted_built built world _ _ (congrArg some made)
        have reached := Reached.called fresh built unfolds within
        have outsiders : start.Outsiders [(player, raising)] := ⟨level player, fun _ _ _ => trivial⟩
        obtain ⟨outside, standard⟩ := reached_frame reached
        obtain ⟨result, last, ran, raised⟩ := raising_raises outside standard held
        have ran : (typed [(player, raising)]).run start = some (.ok (), last) := by
          rw [typed, Run.run_bind, Run.run_observe, ran]
          rfl
        obtain ⟨⟨moments, unfolds, _, throughout⟩, _⟩ := rights_come_from_writing reached level outsiders ran
        refine ⟨world, player, start, last, moments, rfl, made, level, raised, unfolds, ?_⟩
        by_contra unwritten
        have lowered := throughout.mpr fun id value member =>
          Bool.eq_false_iff.mpr fun holds => unwritten ⟨id, value, member, holds⟩
        have stayed := lowered moments List.prefix_rfl player
        rw [← (unfolds_replay unfolds).1, raised] at stayed
        cases stayed

end World
end ThingWorld
