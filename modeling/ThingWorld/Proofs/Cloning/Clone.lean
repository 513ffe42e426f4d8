import ThingWorld.Proofs.Cloning.Closure
import ThingWorld.Proofs.Course.Copying
import ThingWorld.Proofs.Turns.Playing
import ThingWorld.Proofs.Upkeep.Reached
import ThingWorld.Proofs.Upkeep.Scopes
namespace ThingWorld.World

variable {world mid last : World}

section Copies

-- Where every original is there, all copies are entered and nothing else happens.
theorem run_copyEach (numbers : Renumbering) (pairs : List (ThingId × ThingId)) : ∀ world : World, world.Tracked [] →
    (∀ pair ∈ pairs, world.contains pair.1 = true) →
      ∃ last, (copyEach numbers pairs).run world = (.ok (), last) ∧ last.Tracked [] ∧
        (∃ things index dirty, last = { world with things := things, index := index, dirty := dirty }) ∧
        ∀ id, id ∈ last.dirty ↔ id ∈ world.dirty ∨ ∃ pair ∈ pairs, pair.2 = id := by
  induction pairs with
  | nil => exact fun world tracked _ => ⟨world, rfl, tracked, ⟨_, _, _, rfl⟩, fun id => by simp⟩
  | cons pair rest ih =>
    intro world tracked held
    obtain ⟨old, new⟩ := pair
    obtain ⟨thing, found⟩ := some_of_contains (held (old, new) List.mem_cons_self)
    have ran := run_copyOne numbers old new world
    rw [found] at ran
    dsimp only at ran
    have tracked' : ((Deed.entered new (numbers.thing new thing)).perform world).Tracked [] := tracked_enter tracked rfl
    obtain ⟨index, same⟩ := reindex_same ((world.place new (numbers.thing new thing)).touch new) new
    have entered : (Deed.entered new (numbers.thing new thing)).perform world =
        { (world.place new (numbers.thing new thing)).touch new with index := index } := same
    have held' (pair : ThingId × ThingId) (member : pair ∈ rest) :
        ((Deed.entered new (numbers.thing new thing)).perform world).contains pair.1 = true := by
      rw [entered]
      show (world.things.insert new _).contains pair.1 = true
      rw [Std.ExtTreeMap.contains_insert]
      exact Bool.or_eq_true_iff.mpr (.inr (held pair (List.mem_cons_of_mem _ member)))
    obtain ⟨last, ran', tracked'', ⟨_, _, _, same'⟩, touched⟩ := ih _ tracked' held'
    refine ⟨last, ?_, tracked'', ?_, fun id => ?_⟩
    · show (copyOne numbers old new >>= fun _ => copyEach numbers rest).run world = _
      rw [Act.run_bind, ran]
      exact ran'
    · rw [same', entered]
      exact ⟨_, _, _, rfl⟩
    · have first : id ∈ ((Deed.entered new (numbers.thing new thing)).perform world).dirty ↔
          new = id ∨ id ∈ world.dirty := by
        rw [entered]
        show id ∈ world.dirty.insert new ↔ _
        rw [Std.ExtTreeSet.mem_insert, Std.compare_eq_iff_eq]
      rw [touched, first]
      simp only [List.mem_cons, exists_eq_or_imp]
      tauto

-- Copies that do not meet each other or their originals may be entered in any order.
theorem copyEach_order (numbers : Renumbering) {pairs order : List (ThingId × ThingId)} (permuted : order.Perm pairs)
    (tracked : world.Tracked []) (held : ∀ pair ∈ pairs, world.contains pair.1 = true)
    (differ : pairs.Pairwise fun one other => one.2 ≠ other.2)
    (apart : ∀ one ∈ pairs, ∀ other ∈ pairs, one.1 ≠ other.2) :
    (copyEach numbers order).run world = (copyEach numbers pairs).run world := by
  have differ' : order.Pairwise fun one other => one.2 ≠ other.2 :=
    (permuted.pairwise_iff fun differs => Ne.symm differs).mpr differ
  obtain ⟨last, ran, tracked₁, ⟨things, index, dirty, rfl⟩, touched⟩ := run_copyEach numbers pairs world tracked held
  obtain ⟨last', ran', tracked₂, ⟨things', index', dirty', rfl⟩, touched'⟩ := run_copyEach numbers order world tracked
    fun pair member => held pair (permuted.mem_iff.mp member)
  obtain ⟨copies, others, _⟩ := copied numbers pairs differ apart ran
  obtain ⟨copies', others', _⟩ := copied numbers order differ' (fun one member other member' =>
    apart one (permuted.mem_iff.mp member) other (permuted.mem_iff.mp member')) ran'
  have sameThings : things' = things := by
    refine Std.ExtTreeMap.ext_getElem? fun id => ?_
    by_cases copy : ∃ pair ∈ pairs, pair.2 = id
    · obtain ⟨pair, member, rfl⟩ := copy
      obtain ⟨thing, found⟩ := some_of_contains (held pair member)
      exact (copies' pair (permuted.mem_iff.mpr member) thing found).trans (copies pair member thing found).symm
    · have free (pair : ThingId × ThingId) (member : pair ∈ pairs) : pair.2 ≠ id :=
        fun same => copy ⟨pair, member, same⟩
      exact (others' id fun pair member => free pair (permuted.mem_iff.mp member)).trans (others id free).symm
  have sameDirty : dirty' = dirty := by
    refine Std.ExtTreeSet.ext_mem fun id => ?_
    rw [touched', touched]
    simp only [permuted.mem_iff]
  have sameIndex : index' = index := by
    have one := (tracked_current tracked₁).rebuilt _ (List.Perm.refl _)
    have other := (tracked_current tracked₂).rebuilt _ (List.Perm.refl _)
    subst sameThings
    exact other.symm.trans one
  rw [ran, ran', sameThings, sameDirty, sameIndex]

-- Copying a set where somebody else decides in which order the copies are entered.
def copySetIn (arrange : Renumbering → List (ThingId × ThingId)) (id : ThingId) (members : IdSet) : Act ThingId := do
  if !members.contains id || !(← get).contains id then
    throw (missing id)
  Act.scope (copyBody arrange id members)

def copyIn (arrange : Renumbering → List (ThingId × ThingId)) (id : ThingId) : Act ThingId := do
  copySetIn arrange id ((← get).connected id)

-- What copying made of a world, before the scope ends.
structure Entered (world last : World) (members : IdSet) (numbers : Renumbering) : Prop where
  copies : ∀ (old new : ThingId) (thing : Thing), numbers[old]? = some new → world.things[old]? = some thing →
    last.things[new]? = some (numbers.thing new thing)
  others : ∀ id : ThingId, (∀ old : ThingId, numbers[old]? ≠ some id) → last.things[id]? = world.things[id]?
  tracked : last.Tracked []
  same : ∃ next things index dirty, next.toNat = world.info.nextId.toNat + members.size ∧ last =
    { world with
      info := { world.info with nextId := next }, infoDirty := true, things := things, index := index, dirty := dirty }

theorem present_all {members : IdSet} (held : ∀ old ∈ members, world.contains old = true) :
    world.present members = members := by
  refine Std.ExtTreeSet.ext_mem fun old => ?_
  rw [mem_present]
  exact ⟨And.left, fun member => ⟨member, held old member⟩⟩

theorem run_copyBody {id root : ThingId} {members : IdSet} (tracked : world.Tracked []) (below : world.Below)
    (left : world.info.nextId.toNat + members.size < Text.wordSize)
    (held : ∀ old ∈ members, world.contains old = true)
    (found : (numberFrom ∅ world.info.nextId members.toList)[id]? = some root) :
    ∃ last, Entered world last members (numberFrom ∅ world.info.nextId members.toList) ∧
      ∀ arrange : Renumbering → List (ThingId × ThingId), (∀ numbers, (arrange numbers).Perm numbers.toList) →
        (copyBody arrange id members).run world = (.ok root, last) := by
  have counts := counts_numberFrom left
  have hands := run_renumbering members world
  have counted := toNat_allot members.size world left
  obtain ⟨next, noted, handed⟩ := allot_same members.size world
  rw [present_all held, handed] at hands
  rw [handed] at counted
  generalize numberFrom ∅ world.info.nextId members.toList = numbers at counts hands found
  have listed (pair : ThingId × ThingId) (member : pair ∈ numbers.toList) : numbers[pair.1]? = some pair.2 :=
    Std.ExtTreeMap.mem_toList_iff_getElem?_eq_some.mp member
  have differ := numbers_differ counts
  have apart := numbers_apart counts fun old member => below old (held old member)
  -- The world in which the numbers are handed out and nothing is entered yet.
  generalize same : note { world with info := { world.info with nextId := next }, infoDirty := noted } = mid
  have tracked' : mid.Tracked [] := by
    rw [← same]
    exact tracked_congr tracked rfl rfl rfl
  have things : mid.things = world.things := by rw [← same]; rfl
  have held' (pair : ThingId × ThingId) (member : pair ∈ numbers.toList) : mid.contains pair.1 = true :=
    (contains_congr things _).trans (held _ (counts.only _ _ (listed pair member)))
  obtain ⟨last, enters, tracked'', ⟨things', index, dirty, same'⟩, _⟩ := run_copyEach numbers numbers.toList mid tracked' held'
  obtain ⟨copies, others, _⟩ := copied numbers numbers.toList differ apart enters
  refine ⟨last, ⟨fun old new thing found there => ?_, fun other free => ?_, tracked'',
    next, things', index, dirty, counted, by rw [same', ← same]; rfl⟩, fun arrange permuted => ?_⟩
  · refine copies (old, new) (Std.ExtTreeMap.mem_toList_iff_getElem?_eq_some.mpr found) thing ?_
    rw [things]
    exact there
  · rw [others other fun pair member named => free pair.1 (named ▸ listed pair member), things]
  · rw [← copyEach_order numbers (permuted numbers) tracked' held' differ apart, ← same] at enters
    rw [run_copying arrange id hands enters, rootOf, found]

end Copies

section Clones

-- The world after a thing was copied, where `f` says which copy a member has become.
structure Cloned (world last : World) (id : ThingId) (f : ThingId → ThingId) : Prop where
  there : ∀ old ∈ world.connected id, world.contains old = true
  numbered : ∀ (k : Nat) (old : ThingId), (world.connected id).toList[k]? = some old →
    (f old).toNat = world.info.nextId.toNat + k
  injective : ∀ one ∈ world.connected id, ∀ other ∈ world.connected id, f one = f other → one = other
  outside : ∀ other : ThingId, other ∉ world.connected id → f other = other
  copies : ∀ (old : ThingId) (thing : Thing), old ∈ world.connected id → world.things[old]? = some thing →
    last.things[f old]? = some
      ⟨f old, thing.prototype.map f, thing.properties, thing.edges.map fun edge => ⟨edge.property, f edge.target⟩,
        thing.schema⟩
  originals : ∀ old : ThingId, world.contains old = true → last.things[old]? = world.things[old]?
  others : ∀ other : ThingId, (∀ old ∈ world.connected id, f old ≠ other) → last.things[other]? = world.things[other]?
  connected : ∀ other : ThingId, other ∈ last.connected (f id) ↔ ∃ old ∈ world.connected id, f old = other
  indexed : last.checkIndices = true
  same : ∃ next things index persisted dirty infoDirty store,
    next.toNat = world.info.nextId.toNat + (world.connected id).size ∧ last =
      { world with
        info := { world.info with nextId := next }
        things := things, index := index, persisted := persisted, dirty := dirty, infoDirty := infoDirty, store := store }

-- No edge leads to an id that is still to be handed out.
def Inward (world : World) : Prop :=
  ∀ (id : ThingId) (thing : Thing), world.things[id]? = some thing →
    ∀ edge ∈ thing.edges, edge.target < world.info.nextId

variable {id : ThingId} {numbers : Renumbering}

theorem apply_of_found {old new : ThingId} (found : numbers[old]? = some new) : numbers.apply old = new := by
  rw [Renumbering.apply, found]
  rfl

theorem apply_outside {members : IdSet} (counts : Counts world.info.nextId members numbers) {other : ThingId}
    (outside : other ∉ members) : numbers.apply other = other := by
  cases found : numbers[other]? with
  | none => rw [Renumbering.apply, found]; rfl
  | some new => exact absurd (counts.only other new found) outside

theorem houses_copy (tracked : world.Tracked []) (inward : world.Inward)
    (counts : Counts world.info.nextId (world.connected id) numbers)
    (copies : ∀ (old new : ThingId) (thing : Thing), numbers[old]? = some new → world.things[old]? = some thing →
      last.things[new]? = some (numbers.thing new thing))
    (others : ∀ id : ThingId, (∀ old : ThingId, numbers[old]? ≠ some id) → last.things[id]? = world.things[id]?)
    {holder : ThingId} (member : holder ∈ world.connected id) (other : ThingId) :
    last.Houses (numbers.apply holder) other ↔
      ∃ held ∈ world.connected id, world.Houses holder held ∧ numbers.apply held = other := by
  obtain ⟨copy, number⟩ := counts.numbered member
  have high := counts.high number
  rw [apply_of_found number]
  constructor
  · rintro ⟨thing, found, edge⟩
    by_cases new : ∃ old : ThingId, numbers[old]? = some other
    · obtain ⟨old, number'⟩ := new
      have member' := counts.only old other number'
      obtain ⟨original, found'⟩ := some_of_contains (contains_of_connected tracked member')
      rw [copies old other original number' found'] at found
      cases found
      have back {relation : String} (edge : ⟨relation, copy⟩ ∈ (numbers.thing other original).edges) :
          ⟨relation, holder⟩ ∈ original.edges := by
        obtain ⟨⟨name, target⟩, owned, same⟩ := List.mem_map.mp edge
        obtain ⟨rfl, aimed⟩ := Edge.mk.inj same
        cases number'' : numbers[target]? with
        | none =>
          rw [Renumbering.apply, number''] at aimed
          obtain rfl : target = copy := aimed
          exact absurd high (UInt64.not_le.mpr (inward old original found' _ owned))
        | some copy' =>
          rw [Renumbering.apply, number''] at aimed
          obtain rfl : copy' = copy := aimed
          rwa [counts.distinct holder target copy' number number'']
      exact ⟨old, member', ⟨original, found', edge.imp back back⟩, apply_of_found number'⟩
    · rw [others other fun old number' => new ⟨old, number'⟩] at found
      have low {relation : String} (edge : ⟨relation, copy⟩ ∈ thing.edges) : False :=
        absurd high (UInt64.not_le.mpr (inward other thing found _ edge))
      exact (edge.elim low low).elim
  · rintro ⟨held, member', ⟨thing, found, edge⟩, rfl⟩
    obtain ⟨copy', number'⟩ := counts.numbered member'
    have forth {relation : String} (edge : ⟨relation, holder⟩ ∈ thing.edges) :
        ⟨relation, copy⟩ ∈ (numbers.thing copy' thing).edges :=
      List.mem_map.mpr ⟨⟨relation, holder⟩, edge, congrArg (Edge.mk relation) (apply_of_found number)⟩
    rw [apply_of_found number']
    exact ⟨_, copies held copy' thing number' found, edge.imp forth forth⟩

theorem connected_copy (tracked : world.Tracked []) (tracked' : last.Tracked []) (inward : world.Inward)
    (there : world.contains id = true) (counts : Counts world.info.nextId (world.connected id) numbers)
    (copies : ∀ (old new : ThingId) (thing : Thing), numbers[old]? = some new → world.things[old]? = some thing →
      last.things[new]? = some (numbers.thing new thing))
    (others : ∀ id : ThingId, (∀ old : ThingId, numbers[old]? ≠ some id) → last.things[id]? = world.things[id]?)
    (other : ThingId) :
    other ∈ last.connected (numbers.apply id) ↔ ∃ old ∈ world.connected id, numbers.apply old = other := by
  have root : id ∈ world.connected id := (connected_iff tracked).mpr ⟨there, .refl⟩
  have houses {holder : ThingId} (member : holder ∈ world.connected id) (other : ThingId) :=
    houses_copy tracked inward counts copies others member other
  rw [connected_iff tracked']
  constructor
  · rintro ⟨_, reached⟩
    induction reached with
    | refl => exact ⟨id, root, rfl⟩
    | tail _ housed ih =>
      obtain ⟨holder, member, rfl⟩ := ih
      obtain ⟨held, member', _, same⟩ := (houses member _).mp housed
      exact ⟨held, member', same⟩
  · rintro ⟨old, member, rfl⟩
    obtain ⟨copy, number⟩ := counts.numbered root
    obtain ⟨thing, found⟩ := some_of_contains there
    have held : last.contains (numbers.apply id) = true := by
      rw [apply_of_found number]
      exact contains_of_some (copies id copy thing number found)
    refine ⟨held, ?_⟩
    obtain ⟨_, reached⟩ := (connected_iff tracked).mp member
    clear member
    induction reached with
    | refl => exact .refl
    | tail before housed ih =>
      have member := (connected_iff tracked).mpr ⟨there, before⟩
      have member' := (connected_iff tracked).mpr ⟨there, before.tail housed⟩
      exact ih.tail ((houses member _).mpr ⟨_, member', housed, rfl⟩)

theorem cloned (tracked : world.Tracked []) (below : world.Below) (inward : world.Inward)
    (there : world.contains id = true) (counts : Counts world.info.nextId (world.connected id) numbers)
    (tracked' : last.Tracked [])
    (copies : ∀ (old new : ThingId) (thing : Thing), numbers[old]? = some new → world.things[old]? = some thing →
      last.things[new]? = some (numbers.thing new thing))
    (others : ∀ id : ThingId, (∀ old : ThingId, numbers[old]? ≠ some id) → last.things[id]? = world.things[id]?)
    (same : ∃ next things index persisted dirty infoDirty store,
      next.toNat = world.info.nextId.toNat + (world.connected id).size ∧ last =
        { world with
          info := { world.info with nextId := next }
          things := things, index := index, persisted := persisted, dirty := dirty, infoDirty := infoDirty,
          store := store }) :
    Cloned world last id numbers.apply := by
  refine ⟨fun old member => contains_of_connected tracked member, fun k old listed => ?_, ?_,
    fun other outside => apply_outside counts outside, ?_, fun old held => ?_, fun other free => ?_,
    connected_copy tracked tracked' inward there counts copies others, checked_of_tracked tracked', same⟩
  · obtain ⟨new, number, place⟩ := counts.inOrder k old listed
    rw [apply_of_found number, place]
  · intro one member other member' same
    obtain ⟨new, number⟩ := counts.numbered member
    obtain ⟨new', number'⟩ := counts.numbered member'
    rw [apply_of_found number, apply_of_found number'] at same
    exact counts.distinct one other new number (same ▸ number')
  · intro old thing member found
    obtain ⟨new, number⟩ := counts.numbered member
    rw [apply_of_found number]
    exact copies old new thing number found
  · exact others old fun older number => UInt64.not_lt.mpr (counts.high number) (below old held)
  · exact others other fun old number => free old (counts.only old other number) (apply_of_found number)

end Clones

theorem copySetIn_missing (arrange : Renumbering → List (ThingId × ThingId)) {id : ThingId} {members : IdSet}
    (absent : world.contains id = false) : (copySetIn arrange id members).run world = (.error (missing id), world) := by
  rw [copySetIn, Act.run_bind, Act.run_get]
  dsimp only
  rw [absent, Bool.not_false, Bool.or_true]
  rfl

theorem run_copySetIn (arrange : Renumbering → List (ThingId × ThingId)) {id : ThingId} {members : IdSet}
    (member : id ∈ members) (there : world.contains id = true) :
    (copySetIn arrange id members).run world = (Act.scope (copyBody arrange id members)).run world := by
  rw [copySetIn, Act.run_bind, Act.run_get]
  dsimp only
  rw [there, Std.ExtTreeSet.contains_iff_mem.mpr member]
  rfl

theorem run_copyIn (arrange : Renumbering → List (ThingId × ThingId)) (id : ThingId) (world : World) :
    (copyIn arrange id).run world = (copySetIn arrange id (world.connected id)).run world := by
  rw [copyIn, Act.run_bind, Act.run_get]

-- The copy is entered in the order of the originals.
theorem copy_in_order (id : ThingId) (world : World) :
    (copy id).run world = (copyIn Std.ExtTreeMap.toList id).run world := by
  rw [run_copy, run_copyIn]
  rfl

-- In a world in which every thing is held under its own id, while there are ids left; whether the scope can be written
-- in the end is for the store to say.
theorem copies_are_clones (world : World) (id : ThingId) (keyed : Index.Keyed world.things)
    (indexed : world.checkIndices = true) (below : world.Below) (inward : world.Inward)
    (left : world.info.nextId.toNat + (world.connected id).size < Text.wordSize) :
    (world.contains id = false → (copy id).run world = (.error (.notFound (showId id)), world)) ∧
    (world.contains id = true → ∃ f result last, (copy id).run world = (result, last) ∧ Cloned world last id f ∧
      (result = .ok (f id) ∨ result = .error Store.refusal) ∧
      (world.inScope = true ∨ (∀ asked call, world.store.refuses asked call = false) → result = .ok (f id)) ∧
      ∀ arrange : Renumbering → List (ThingId × ThingId), (∀ numbers, (arrange numbers).Perm numbers.toList) →
        (copyIn arrange id).run world = (result, last)) := by
  refine ⟨fun absent => ?_, fun there => ?_⟩
  · rw [copy_in_order, run_copyIn]
    exact copySetIn_missing _ absent
  · have tracked := tracked_of_checked keyed indexed
    have counts := counts_numberFrom left
    have root : id ∈ world.connected id := (connected_iff tracked).mpr ⟨there, .refl⟩
    obtain ⟨copied, found⟩ := counts.numbered root
    have held (old : ThingId) (member : old ∈ world.connected id) := contains_of_connected tracked member
    have given := apply_of_found found
    have runs (arrange : Renumbering → List (ThingId × ThingId)) :
        (copyIn arrange id).run world = (Act.scope (copyBody arrange id (world.connected id))).run world :=
      (run_copyIn arrange id world).trans (run_copySetIn arrange root there)
    have inside : ({ world with inScope := true } : World).Tracked [] := tracked_congr tracked rfl rfl rfl
    obtain ⟨mid, entered, ran⟩ := run_copyBody inside below left held found
    obtain ⟨next, _, _, _, counted, same⟩ := entered.same
    have accepts' (accepts : ∀ asked call, world.store.refuses asked call = false) :
        ∀ asked call, mid.store.refuses asked call = false := by
      rw [same]
      exact accepts
    have inOrder := ran Std.ExtTreeMap.toList fun _ => .refl _
    obtain ⟨result, last, closed, tracked', gives, well, _, _, _, _, _, same'⟩ :=
      scope_ends inOrder (by rw [same]) entered.tracked
    have things : last.things = mid.things := by rw [same']
    refine ⟨_, result, last, ?_, cloned tracked below inward there counts tracked' ?_ ?_ ?_, by rwa [given],
      fun ends => ?_, fun arrange permuted => ?_⟩
    · rw [copy_in_order, runs, closed]
    · rw [things]
      exact entered.copies
    · rw [things]
      exact entered.others
    · rw [same', same]
      exact ⟨next, _, _, _, _, _, _, counted, rfl⟩
    · rw [well (ends.imp_right accepts'), given]
    · rw [runs, ← closed]
      exact scope_congr ((ran arrange permuted).trans inOrder.symm)

-- Two things in each other, the second of which inherits from the first and points at it and out of the set.
def twins : Run Unit :=
  (Operation.create "box" "").run >>= fun box => (Operation.createFrom (some box) "chest" "").run >>= fun chest =>
    inTurn [.setLocation box chest, .setLocation chest box, .setAssociation chest "hinge" box true,
      .setAssociation chest "hinge" 6 true]

theorem built_twins : Built false twins :=
  .follows (.calls _ fun byHand => nomatch byHand) fun _ => .follows (.calls _ fun byHand => nomatch byHand) fun _ =>
    built_inTurn _ (by simp [Operation.byHand])

theorem inward_of_all (all : (world.things.toList.all fun entry =>
    entry.2.edges.all fun edge => edge.target < world.info.nextId) = true) : world.Inward := by
  intro id thing found edge member
  have each := List.all_eq_true.mp all (id, thing) (Std.ExtTreeMap.mem_toList_iff_getElem?_eq_some.mpr found)
  exact of_decide_eq_true (List.all_eq_true.mp each edge member)

theorem below_of_all (all : (world.things.keys.all fun id => id < world.info.nextId) = true) : world.Below :=
  fun id held => of_decide_eq_true (List.all_eq_true.mp all id (Std.ExtTreeMap.mem_keys.mpr held))

theorem twins_are_copied_as_twins :
    ∃ start before last f, openOn .inMemory ⟨"new", .standard, 1000, fun _ => 0⟩ = .ok start ∧
      twins.run start = some (.ok (), before) ∧ (copy 7).run before = (.ok 9, last) ∧ Cloned before last 7 f ∧
      (∀ other, other ∈ last.connected 9 ↔ other = 9 ∨ other = 10) ∧
      (last.things[(10 : ThingId)]?.map fun chest => (chest.prototype, chest.edges)) =
        some (some 9, [⟨Relation.location, 9⟩, ⟨"hinge", 9⟩, ⟨"hinge", 6⟩]) := by
  have checked : opensTo .inMemory ⟨"new", .standard, 1000, fun _ => 0⟩ (fun start =>
      Run.gives (twins.run start) fun _ before => decide (
        (before.connected 7).toList = [7, 8] ∧ before.info.nextId = 9 ∧
          (before.things[(8 : ThingId)]?.map fun chest => (chest.prototype, chest.edges)) =
            some (some 7, [⟨Relation.location, 7⟩, ⟨"hinge", 7⟩, ⟨"hinge", 6⟩]) ∧
          (before.things.keys.all fun id => id < before.info.nextId) = true ∧
          (before.things.toList.all fun entry => entry.2.edges.all fun edge => edge.target < before.info.nextId) =
            true)) = true := by
    decide +kernel
  obtain ⟨start, opened, checked⟩ := opensTo_iff.mp checked
  obtain ⟨_, before, ran, checked⟩ := Run.gives_iff.mp checked
  obtain ⟨members, next, chest, below, inward⟩ := of_decide_eq_true checked
  have below := below_of_all below
  obtain ⟨_, tracked, mirrored⟩ := settled_after opened built_twins ran
  have member (id : ThingId) : id ∈ before.connected 7 ↔ id = 7 ∨ id = 8 := by
    rw [← Std.ExtTreeSet.mem_toList, members]
    simp
  have left : before.info.nextId.toNat + (before.connected 7).size < Text.wordSize := by
    rw [← Std.ExtTreeSet.length_toList, members, next]
    decide
  obtain ⟨thing, found, seen⟩ := Option.map_eq_some_iff.mp chest
  have there : before.contains 7 = true :=
    contains_of_connected tracked ((member 7).mpr (.inl rfl))
  obtain ⟨f, result, last, copies, clone, _, well, _⟩ := (copies_are_clones before 7 tracked.keyed
    (checked_of_tracked tracked) below (inward_of_all inward) left).2 there
  have box : f 7 = 9 := UInt64.toNat_inj.mp ((clone.numbered 0 7 (by rw [members]; rfl)).trans (by rw [next]; rfl))
  have lid : f 8 = 10 := UInt64.toNat_inj.mp ((clone.numbered 1 8 (by rw [members]; rfl)).trans (by rw [next]; rfl))
  have lobby : f 6 = 6 := clone.outside 6 (by rw [member]; decide)
  refine ⟨start, before, last, f, opened, ran, ?_, clone, fun other => ?_, ?_⟩
  · rw [copies, well (.inr mirrored.accepts), box]
  · rw [← box, clone.connected other]
    simp only [member, exists_eq_or_imp, exists_eq_left, box, lid, @eq_comm _ other]
  · obtain ⟨prototype, edges⟩ := Prod.mk.inj seen
    have copy := clone.copies 8 thing ((member 8).mpr (.inr rfl)) found
    rw [lid] at copy
    rw [copy, Option.map_some, prototype, edges]
    simp [box, lobby]

def threeThings : Run Unit :=
  (Operation.create "one" "").run >>= fun _ => (Operation.create "two" "").run >>= fun _ =>
    (Operation.create "three" "").run >>= fun _ => pure ()

-- A thing that lies under another id and is in the third of them: the index finds it under its own id, where there is
-- nothing to copy.
theorem misplaced_members_are_not_copied :
    ∃ start made world last, openOn .inMemory ⟨"new", .standard, 1000, fun _ => 0⟩ = .ok start ∧
      threeThings.run start = some (.ok (), made) ∧
      openOn ((made.store.perform (.put 8 (rock 9).toBytes)).perform (.delete 7)) ⟨"new", .standard, 1000, fun _ => 0⟩ =
        .ok world ∧
      world.checkIndices = true ∧ world.Below ∧ world.Inward ∧ (world.connected 9).toList = [7, 9] ∧
      world.info.nextId = 10 ∧ (copy 9).run world = (.ok 10, last) ∧ last.info.nextId = 11 := by
  have checked : opensTo .inMemory ⟨"new", .standard, 1000, fun _ => 0⟩ (fun start =>
      Run.gives (threeThings.run start) fun _ made =>
        opensTo ((made.store.perform (.put 8 (rock 9).toBytes)).perform (.delete 7)) ⟨"new", .standard, 1000, fun _ => 0⟩
          fun world => Run.gives ((Operation.copy 9).run.run world) fun root last => decide (
            world.checkIndices = true ∧ (world.things.keys.all fun id => id < world.info.nextId) = true ∧
              (world.things.toList.all fun entry => entry.2.edges.all fun edge => edge.target < world.info.nextId) = true ∧
              (world.connected 9).toList = [7, 9] ∧ world.info.nextId = 10 ∧ root = 10 ∧ last.info.nextId = 11)) =
        true := by
    decide +kernel
  obtain ⟨start, opened, checked⟩ := opensTo_iff.mp checked
  obtain ⟨_, made, ran, checked⟩ := Run.gives_iff.mp checked
  obtain ⟨world, reopened, checked⟩ := opensTo_iff.mp checked
  obtain ⟨root, last, ran', checked⟩ := Run.gives_iff.mp checked
  obtain ⟨indexed, below, inward, members, next, rfl, later⟩ := of_decide_eq_true checked
  exact ⟨start, made, world, last, opened, ran, reopened, indexed, below_of_all below, inward_of_all inward, members, next,
    Option.some.inj ran', later⟩

end ThingWorld.World
