import ThingWorld.Proofs.Ordinary.Lines
namespace ThingWorld

namespace Engine

variable {actor : ThingId} {limits : Limits}

-- To look around takes no fuel beyond that of the line.
theorem abides_look {engine : Engine} {context : Context} (world : World) :
    Abides (.ordinary actor limits) (engine.dispatchLine context "look") world := by
  let conduct := (Watch.ordinary actor limits).conduct
  have verb : (Line.parse (normalizeLine "look")).verb? = some "look" := by decide +kernel
  have lower : Text.lower "look" = "look" := by decide +kernel
  refine abides_known fun tame => conduct.keeps_read ?_
  dsimp only
  split
  · exact conduct.keeps_throw_bind _ _
  · rw [verb]
    dsimp only
    rw [lower]
    refine conduct.keeps_read ?_
    rw [tame.registry]
    split
    · rename_i spec known
      rw [dispatchVerb]
      split
      · exact conduct.keeps_throw _ world
      · rw [(standard_known known).2.2 rfl]
        exact conduct.keeps_andResult (conduct.keeps_look _)
    · rename_i unknown
      exact absurd unknown (by decide +kernel)

-- The induction is on the fuel, of which a line hands on less to the lines one level deeper.
theorem abides_ofFuel (fuel : Nat) : ∀ (context : Context) (text : String) (world : World),
    Chained actor context text → needed limits.substitutionDepth 0 context.depth ≤ fuel →
      Abides (.ordinary actor limits) ((ofFuel fuel).dispatch context text) world := by
  induction fuel using Nat.strong_induction_on with
  | _ fuel ih =>
    intro context text world chained enough
    obtain ⟨less, rfl⟩ : ∃ less, fuel = less + 3 := Nat.exists_eq_add_of_le' ((Nat.le_add_left 3 _).trans enough)
    have walks : World.walkFuel ≤ (ofFuel (less + 2)).steps := by
      show World.walkFuel ≤ less + 1
      rw [needed] at enough
      omega
    show Abides (.ordinary actor limits) ((ofFuel (less + 2)).dispatchLine context text) world
    rcases Nat.lt_or_ge limits.substitutionDepth context.depth with deep | shallow
    · refine abides_known fun tame => (Watch.ordinary actor limits).conduct.keeps_read ?_
      dsimp only
      rw [tame.limits, if_pos deep]
      exact (Watch.ordinary actor limits).conduct.keeps_throw_bind _ _
    · refine abides_dispatchLine (fun context' text' chained' deeper world => ?_) walks
        (fun world => abides_look world) chained
      refine ih (less + 2) (by omega) context' text' world chained' ?_
      have cost := needed_deeper 0 shallow
      rw [deeper]
      omega

end Engine

namespace World

variable {actor : ThingId} {limits : Limits}

theorem abides_command {world : World} (plain : world.isAdmin actor = false) (text : String) :
    Abides (.ordinary actor limits) (command actor text) world := by
  have typed (mid : World) : Abides (.ordinary actor limits) (dispatch (Context.of actor false) text) mid := by
    refine abides_known fun tame => (Watch.ordinary actor limits).conduct.keeps_read ?_
    have enough : Engine.needed limits.substitutionDepth 0 0 ≤ mid.fuel := by
      rw [Engine.needed, fuel, tame.limits]
      omega
    rw [engine]
    exact Engine.abides_ofFuel mid.fuel (Context.of actor false) text mid ⟨rfl, rfl, rfl, .inl rfl⟩ enough
  refine (Watch.ordinary actor limits).conduct.keeps_read ?_
  rw [plain]
  exact (Watch.ordinary actor limits).conduct.keeps_reporting
    (abides_versioned (fun _ => Ordinary.opened) (fun _ => Ordinary.ended) (fun _ => Ordinary.versioned) typed) actor

-- Whatever a player types who is no admin in a world where the others are unarmed, it comes to an end by ordinary
-- moments. Nobody comes or goes, everybody else has the prototype, the values and the edges it had, but for the place of
-- whatever the player gets or drops, and the player itself has the prototype and the edges it had, but for its place.
-- Whether the index is right is not asked; by it the player finds what there is to get and to drop.
theorem ordinary_lines_spare_others (world : World) (actor : ThingId) (text : String)
    (standard : world.registry = .standard) (plain : world.isAdmin actor = false) (unarmed : world.Unarmed actor) :
    ∃ result last moments, (command actor text).run world = some (result, last) ∧
      Unfolds (command actor text) world moments result last ∧ world.Heeds (Ordinary actor) moments ∧
      Spared actor world last ∧ (∀ id, last.contains id = world.contains id) ∧
      ∀ id : ThingId, id ≠ actor → ¬world.Handles actor id moments → last.things[id]? = world.things[id]? := by
  have tame : world.Tame actor world.limits := ⟨standard, rfl, unarmed⟩
  obtain ⟨result, last, moments, unfolds, ordinary⟩ := abides_command plain text tame
  obtain ⟨rfl, _⟩ := unfolds_replay unfolds
  have spared : Spared actor world (world.replay moments) := spared_replay ordinary
  exact ⟨result, _, moments, unfolds_ran unfolds, unfolds, ordinary, spared, spared.contains,
    fun id other => unhandled_replay other ordinary⟩

-- Somebody among coins, without any rights.
def among : Run Unit :=
  (Operation.create "ann" "").run >>= fun ann => (Operation.create "coin" "").run >>= fun coin =>
    inTurn [.setLocation ann 6, .setLocation coin 6, .attach ann ⟨false, false⟩]

-- A line that gives its actor a command, offers it everywhere, and uses it.
def teaching : String := "!set('me', 'cmd_take', 'get $1'); set('me', 'global', true); cmd('take coin')"

theorem ann_gets_the_coin : ∃ start world, openOn .inMemory ⟨"new", .standard, 1000, fun _ => 0⟩ = .ok start ∧
    among.run start = some (.ok (), world) ∧ world.location? 8 = some 6 ∧
    ∃ result last moments, (command 7 teaching).run world = some (result, last) ∧ last.location? 8 = some 7 ∧
      world.Heeds (Ordinary 7) moments ∧ Spared 7 world last ∧
      ∀ id : ThingId, id ≠ 7 → ¬world.Handles 7 id moments → last.things[id]? = world.things[id]? := by
  have checked : opensTo .inMemory ⟨"new", .standard, 1000, fun _ => 0⟩ (fun start =>
      Run.gives (among.run start) fun _ world =>
        decide (world.location? 8 = some 6 ∧ world.registry = .standard ∧ world.isAdmin 7 = false ∧ world.Unarmed 7) &&
          Run.gives ((command 7 teaching).run world) fun _ last => decide (last.location? 8 = some 7)) = true := by
    decide +kernel
  obtain ⟨start, opened, checked⟩ := opensTo_iff.mp checked
  obtain ⟨_, world, ran, checked⟩ := Run.gives_iff.mp checked
  rw [Bool.and_eq_true, decide_eq_true_eq] at checked
  obtain ⟨⟨place, standard, plain, unarmed⟩, checked⟩ := checked
  obtain ⟨_, last, typed, taken⟩ := Run.gives_iff.mp checked
  obtain ⟨result, after, moments, ran', _, ordinary, spared, _, others⟩ :=
    ordinary_lines_spare_others world 7 teaching standard plain unarmed
  rw [typed] at ran'
  cases ran'
  exact ⟨start, world, opened, ran, place, _, last, moments, typed, of_decide_eq_true taken, ordinary, spared, others⟩

end World
end ThingWorld
