import Mathlib.Order.Bounds.Basic
import ThingWorld.Proofs.Cloning.Clone
import ThingWorld.Proofs.Ends.Walks
namespace ThingWorld.World

-- Sets that have a thing and leave out nothing that a member houses.
def Enclosing (world : World) (id : ThingId) : Set (Set ThingId) :=
  {ids | id ∈ ids ∧ ∀ holder ∈ ids, ∀ held, world.Houses holder held → held ∈ ids}

-- The first that waits is passed over if it was visited before. Else it is visited, and what it holds waits behind the rest
-- unless it was visited too.
inductive Searches (world : World) : IdSet → List ThingId → IdSet → Prop
  | ends {found} : Searches world found [] found
  | passes {found id waiting last} (before : id ∈ found) (later : Searches world found waiting last) :
      Searches world found (id :: waiting) last
  | visits {found id waiting last} (new : id ∉ found)
      (later : Searches world (found.insert id)
        (waiting ++ (world.held id).filter fun held => held ∉ found.insert id) last) :
      Searches world found (id :: waiting) last

variable {world : World} {found last : IdSet} {waiting : List ThingId} {id : ThingId}

section Searching

theorem mem_insert_iff {other : ThingId} : other ∈ found.insert id ↔ other = id ∨ other ∈ found := by
  rw [Std.ExtTreeSet.mem_insert, Std.compare_eq_iff_eq, eq_comm]

theorem searches_end (world : World) (found : IdSet) (waiting : List ThingId) : ∃ last, world.Searches found waiting last := by
  cases waiting with
  | nil => exact ⟨found, .ends⟩
  | cons id waiting =>
    by_cases before : id ∈ found
    · obtain ⟨last, later⟩ := searches_end world found waiting
      exact ⟨last, .passes before later⟩
    · obtain ⟨last, later⟩ := searches_end world (found.insert id)
        (waiting ++ (world.held id).filter fun held => held ∉ found.insert id)
      exact ⟨last, .visits before later⟩
termination_by (Text.wordSize - found.size, waiting.length)
decreasing_by
  · exact Prod.Lex.right _ (by simp)
  · exact Prod.Lex.left _ _ (by rw [left_visit before]; exact Nat.lt_succ_self _)

theorem searches_grows (searches : world.Searches found waiting last) :
    (∀ id ∈ found, id ∈ last) ∧ ∀ id ∈ waiting, id ∈ last := by
  induction searches with
  | ends => exact ⟨fun _ member => member, List.forall_mem_nil _⟩
  | passes before _ ih => exact ⟨ih.1, List.forall_mem_cons.mpr ⟨ih.1 _ before, ih.2⟩⟩
  | visits _ _ ih =>
    obtain ⟨kept, reached⟩ := ih
    refine ⟨fun other member => kept other (mem_insert_iff.mpr (.inr member)), List.forall_mem_cons.mpr ⟨?_, ?_⟩⟩
    · exact kept _ (mem_insert_iff.mpr (.inl rfl))
    · exact fun other member => reached other (List.mem_append_left _ member)

theorem searches_closed (searches : world.Searches found waiting last) :
    ∀ holder ∈ last, holder ∈ found ∨ ∀ held ∈ world.held holder, held ∈ last := by
  induction searches with
  | ends => exact fun _ member => .inl member
  | passes _ _ ih => exact ih
  | @visits found id waiting last _ later ih =>
    obtain ⟨kept, reached⟩ := searches_grows later
    intro holder member
    rcases ih holder member with before | closed
    · rcases mem_insert_iff.mp before with rfl | before
      · refine .inr fun held among => ?_
        by_cases old : held ∈ found.insert holder
        · exact kept held old
        · exact reached held (List.mem_append_right _ (List.mem_filter.mpr ⟨among, decide_eq_true old⟩))
      · exact .inl before
    · exact .inr closed

theorem searches_keeps {P : ThingId → Prop} (spreads : ∀ holder held, P holder → held ∈ world.held holder → P held)
    (searches : world.Searches found waiting last) :
    (∀ id ∈ found, P id) → (∀ id ∈ waiting, P id) → ∀ id ∈ last, P id := by
  induction searches with
  | ends => exact fun holds _ => holds
  | passes _ _ ih => exact fun holds holds' => ih holds (List.forall_mem_cons.mp holds').2
  | visits _ _ ih =>
    intro holds holds'
    obtain ⟨first, others⟩ := List.forall_mem_cons.mp holds'
    refine ih (fun other member => ?_) (List.forall_mem_append.mpr ⟨others, fun other member => ?_⟩)
    · rcases mem_insert_iff.mp member with rfl | before
      · exact first
      · exact holds other before
    · exact spreads _ other first (List.mem_filter.mp member).1

theorem searches_reach (searches : world.Searches ∅ [id] last) {other : ThingId} :
    other ∈ last ↔ Relation.ReflTransGen (fun holder held => held ∈ world.held holder) id other := by
  have closed (holder : ThingId) (member : holder ∈ last) :=
    (searches_closed searches holder member).resolve_left Std.ExtTreeSet.not_mem_empty
  constructor
  · refine searches_keeps (P := Relation.ReflTransGen (fun holder held => held ∈ world.held holder) id)
      (fun holder held reached among => reached.tail among) searches (fun one member => ?_) (fun one member => ?_) other
    · exact absurd member Std.ExtTreeSet.not_mem_empty
    · rw [List.mem_singleton.mp member]
  · intro reached
    induction reached with
    | refl => exact (searches_grows searches).2 id List.mem_cons_self
    | tail _ among ih => exact closed _ ih _ among

end Searching

theorem connected_of_searches {states : ThingId → Indexed} (reflects : Index.Reflects world.index states)
    (there : world.contains id = true) (searches : world.Searches ∅ [id] last) : last = world.connected id := by
  apply Std.ExtTreeSet.ext_mem
  intro other
  rw [searches_reach searches, mem_connected reflects, and_iff_right there]

theorem connected_encloses (tracked : world.Tracked []) (there : world.contains id = true) :
    IsLeast (world.Enclosing id) {other | other ∈ world.connected id} := by
  constructor
  · refine ⟨(connected_iff tracked).mpr ⟨there, .refl⟩, fun holder member held housed => ?_⟩
    obtain ⟨_, reached⟩ := (connected_iff tracked).mp member
    exact (connected_iff tracked).mpr ⟨there, reached.tail housed⟩
  · rintro ids ⟨root, closed⟩ other member
    obtain ⟨_, reached⟩ := (connected_iff tracked).mp member
    induction reached with
    | refl => exact root
    | tail before housed ih => exact closed _ (ih ((connected_iff tracked).mpr ⟨there, before⟩)) _ housed

-- In a world whose index is as built anew; what the things themselves say holds where each is held under its own id.
theorem closures_are_smallest (world : World) (id : ThingId) (indexed : world.checkIndices = true) :
    (world.contains id = false → world.connected id = ∅) ∧
    (world.contains id = true → (∀ last, world.Searches ∅ [id] last ↔ last = world.connected id) ∧
      (Index.Keyed world.things → IsLeast (world.Enclosing id) {other | other ∈ world.connected id})) := by
  refine ⟨fun absent => ?_, fun there => ⟨fun last => ?_, fun keyed => ?_⟩⟩
  · simp [connected, absent]
  · obtain ⟨states, reflects⟩ := Index.rebuild_reflects world.things.values
    have same : world.index = Index.rebuild world.things.values := eq_of_beq indexed
    rw [← same] at reflects
    constructor
    · exact connected_of_searches reflects there
    · rintro rfl
      obtain ⟨last, searches⟩ := searches_end world ∅ [id]
      rwa [← connected_of_searches reflects there searches]
  · exact connected_encloses (tracked_of_checked keyed indexed) there

-- A box and a chest in each other, and a door that is a link of the chest and of itself and is in two places.
def knot : Run Unit :=
  (Operation.create "box" "").run >>= fun box => (Operation.create "chest" "").run >>= fun chest =>
    (Operation.create "door" "").run >>= fun door =>
      inTurn [.setLocation box chest, .setLocation chest box, .setAssociation door Relation.linkOwner chest true,
        .setAssociation door Relation.linkOwner door true, .setAssociation door Relation.location 6 true]

theorem built_knot : Built false knot :=
  .follows (.calls _ fun byHand => nomatch byHand) fun _ => .follows (.calls _ fun byHand => nomatch byHand) fun _ =>
    .follows (.calls _ fun byHand => nomatch byHand) fun _ => built_inTurn _ (by simp [Operation.byHand])

theorem knots_are_closed :
    ∃ start world, openOn .inMemory ⟨"new", .standard, 1000, fun _ => 0⟩ = .ok start ∧
      knot.run start = some (.ok (), world) ∧ world.checkIndices = true ∧ Index.Keyed world.things ∧
      (world.connected 7).toList = [7, 8, 9] ∧ IsLeast (world.Enclosing 7) {other | other ∈ world.connected 7} ∧
      world.Searches ∅ [7] (world.connected 7) ∧ world.contains 10 = false ∧ world.connected 10 = ∅ := by
  have checked : opensTo .inMemory ⟨"new", .standard, 1000, fun _ => 0⟩ (fun start =>
      Run.gives (knot.run start) fun _ world => decide (
        world.contains 7 = true ∧ world.contains 10 = false ∧ (world.connected 7).toList = [7, 8, 9])) = true := by
    decide +kernel
  obtain ⟨start, opened, checked⟩ := opensTo_iff.mp checked
  obtain ⟨_, world, ran, checked⟩ := Run.gives_iff.mp checked
  obtain ⟨there, absent, members⟩ := of_decide_eq_true checked
  obtain ⟨_, tracked, _⟩ := settled_after opened built_knot ran
  have indexed := checked_of_tracked tracked
  obtain ⟨searches, smallest⟩ := (closures_are_smallest world 7 indexed).2 there
  exact ⟨start, world, opened, ran, indexed, tracked.keyed, members, smallest tracked.keyed, (searches _).mpr rfl, absent,
    (closures_are_smallest world 10 indexed).1 absent⟩

-- A thing that lies under another id and is in the lobby: its own id is found there, and the one it lies under is not.
theorem misplaced_things_are_not_connected :
    ∃ start world, openOn .inMemory ⟨"new", .standard, 1000, fun _ => 0⟩ = .ok start ∧
      openOn (start.store.perform (.put 8 (rock 6).toBytes)) ⟨"new", .standard, 1000, fun _ => 0⟩ = .ok world ∧
      world.checkIndices = true ∧ world.contains 6 = true ∧ world.contains 7 = false ∧ world.Houses 6 8 ∧
      (world.connected 6).toList = [6, 7] ∧ ¬IsLeast (world.Enclosing 6) {other | other ∈ world.connected 6} := by
  have checked : opensTo .inMemory ⟨"new", .standard, 1000, fun _ => 0⟩ (fun start =>
      opensTo (start.store.perform (.put 8 (rock 6).toBytes)) ⟨"new", .standard, 1000, fun _ => 0⟩ fun world => decide (
        world.checkIndices = true ∧ world.contains 6 = true ∧ world.contains 7 = false ∧
          world.things[(8 : ThingId)]? = some (rock 6) ∧ (world.connected 6).toList = [6, 7])) = true := by
    decide +kernel
  obtain ⟨start, opened, checked⟩ := opensTo_iff.mp checked
  obtain ⟨world, reopened, checked⟩ := opensTo_iff.mp checked
  obtain ⟨indexed, there, absent, found, members⟩ := of_decide_eq_true checked
  have housed : world.Houses 6 8 := ⟨rock 6, found, .inl (by simp [rock])⟩
  refine ⟨start, world, opened, reopened, indexed, there, absent, housed, members, fun least => ?_⟩
  obtain ⟨⟨root, closed⟩, _⟩ := least
  have member : (8 : ThingId) ∈ world.connected 6 := closed 6 root 8 housed
  rw [← Std.ExtTreeSet.mem_toList, members] at member
  revert member
  decide

end ThingWorld.World
