import ThingWorld.Proofs.Course.Seed
namespace ThingWorld

namespace World

variable {α β : Type} {floor : ThingId} {count : Nat}

-- The next id went up by so many at most, what came has an id that was handed out, all below the floor stays, and what
-- is given is good.
structure Raised (floor : ThingId) (count : Nat) (world : World) (good : α → Prop) (ended : Except Failure α × World) :
    Prop where
  climbs : world.info.nextId ≤ ended.2.info.nextId
  most : ended.2.info.nextId.toNat ≤ world.info.nextId.toNat + count
  came : ∀ id, ended.2.contains id = true → world.contains id = true ∨ id < ended.2.info.nextId
  things : ∀ id : ThingId, id < floor → ended.2.things[id]? = world.things[id]?
  gives : ∀ a, ended.1 = .ok a → good a

-- While ids are left, no more than so many are handed out.
def Builds (floor : ThingId) (count : Nat) (act : Act α) (good : α → Prop) : Prop :=
  ∀ world : World, floor ≤ world.info.nextId → world.Affords count → Raised floor count world good (act.run world)

section Steps

variable {good : α → Prop} {better : β → Prop}

theorem raised_same {world : World} {ended : Except Failure α × World} (info : ended.2.info.nextId = world.info.nextId)
    (held : ∀ id, ended.2.contains id = world.contains id)
    (things : ∀ id : ThingId, id < floor → ended.2.things[id]? = world.things[id]?)
    (gives : ∀ a, ended.1 = .ok a → good a) : Raised floor count world good ended where
  climbs := UInt64.le_of_eq info.symm
  most := by rw [info]; exact Nat.le_add_right _ _
  came id here := .inl (by rwa [held] at here)
  things := things
  gives := gives

theorem raised_mono {world : World} {ended : Except Failure α × World} {good' : α → Prop}
    (raised : Raised floor count world good ended) (implies : ∀ a, good a → good' a) :
    Raised floor count world good' ended :=
  { raised with gives := fun a gave => implies a (raised.gives a gave) }

theorem affords_after {used : Nat} {world : World} {ended : Except Failure α × World} (left : world.Affords (used + count))
    (raised : Raised floor used world good ended) : ended.2.Affords count := by
  have most := raised.most
  unfold Affords at *
  omega

theorem raised_trans {used : Nat} {world mid : World} {a : α} {last : Except Failure β × World}
    (first : Raised floor used world good (.ok a, mid)) (rest : Raised floor count mid better last) :
    Raised floor (used + count) world better last where
  climbs := UInt64.le_trans first.climbs rest.climbs
  most := by
    have before := first.most
    have after := rest.most
    dsimp only at before
    omega
  came id here := by
    rcases rest.came id here with here | low
    · exact (first.came id here).imp_right fun low => UInt64.lt_of_lt_of_le low rest.climbs
    · exact .inr low
  things id low := (rest.things id low).trans (first.things id low)
  gives := rest.gives

theorem builds_pure {a : α} (holds : good a) : Builds floor count (pure a) good :=
  fun _ _ _ => raised_same rfl (fun _ => rfl) (fun _ _ => rfl) fun _ gives => Except.ok.inj gives ▸ holds

theorem builds_throw (failure : Failure) : Builds floor count (throw failure : Act α) good :=
  fun _ _ _ => raised_same rfl (fun _ => rfl) (fun _ _ => rfl) fun _ gives => nomatch gives

theorem builds_bind (used count : Nat) {x : Act α} {f : α → Act β} (first : Builds floor used x good)
    (rest : ∀ a, good a → Builds floor count (f a) better) : Builds floor (used + count) (x >>= f) better := by
  intro world high left
  have one := first world high (affords_less left (Nat.le_add_right used count))
  have left' := affords_after left one
  rw [Act.run_bind]
  cases ran : x.run world with
  | mk result mid =>
    rw [ran] at one left'
    cases result with
    | ok a => exact raised_trans one (rest a (one.gives a rfl) mid (UInt64.le_trans high one.climbs) left')
    | error failure =>
      exact ⟨one.climbs, Nat.le_trans one.most (by omega), one.came, one.things, fun _ gives => nomatch gives⟩

theorem builds_read {f : World → Act β} (rest : ∀ world, Builds floor count (f world) better) :
    Builds floor count (get >>= f) better :=
  fun world high left => rest world world high left

theorem builds_modify (f : World → World) (things : ∀ world, (f world).things = world.things)
    (next : ∀ world, (f world).info.nextId = world.info.nextId) :
    Builds floor count (modify f : Act Unit) fun _ => True := by
  intro world _ _
  rw [Act.run_modify]
  exact raised_same (next world) (contains_congr (things world)) (fun id _ => by rw [things]) fun _ _ => trivial

theorem builds_forM {items : List β} {each : β → Act Unit}
    (one : ∀ item ∈ items, Builds floor 0 (each item) fun _ => True) :
    Builds floor 0 (items.forM each) fun _ => True := by
  induction items with
  | nil => exact builds_pure trivial
  | cons item rest ih =>
    refine builds_bind 0 0 (one item List.mem_cons_self) fun _ _ => ?_
    exact ih fun other member => one other (List.mem_cons_of_mem item member)

theorem raised_scope {body : Act α} {world : World}
    (inner : Raised floor count { world with inScope := true } good (body.run { world with inScope := true })) :
    Raised floor count world good (body.scope.run world) := by
  obtain ⟨_, _, _, _, _, _, same, gives'⟩ := scope_leaves body world
  obtain ⟨climbs, most, came, things, gives⟩ := inner
  generalize (body.scope.run world) = ended at same gives'
  obtain ⟨result, last⟩ := ended
  cases same
  exact ⟨climbs, most, came, things, fun a gave => gives a (gives' a gave)⟩

theorem builds_scope {body : Act α} (inner : Builds floor count body good) : Builds floor count body.scope good :=
  fun world high left => raised_scope (inner { world with inScope := true } high left)

theorem raised_enter {id : ThingId} (high : floor ≤ id) (thing : Thing) {world : World} (low : id < world.info.nextId) :
    Raised floor 0 world (fun _ : Unit => True) (.ok (), (Deed.entered id thing).perform world) where
  climbs := UInt64.le_of_eq (congrArg Info.nextId (reindex_info ((world.place id thing).touch id) id)).symm
  most := Nat.le_of_eq (congrArg (fun info => info.nextId.toNat) (reindex_info ((world.place id thing).touch id) id))
  came other here := by
    have placed : (world.things.insert id thing).contains other = true :=
      (contains_congr (reindex_things _ id) other).symm.trans here
    rw [Std.ExtTreeMap.contains_insert] at placed
    rcases Bool.or_eq_true_iff.mp placed with same | held
    · rw [← Std.LawfulEqOrd.eq_of_compare (beq_iff_eq.mp same)]
      refine .inr (UInt64.lt_of_lt_of_le low (UInt64.le_of_eq ?_))
      exact (congrArg Info.nextId (reindex_info ((world.place id thing).touch id) id)).symm
    · exact .inl held
  things other below := by
    have differs : id ≠ other := fun same => UInt64.not_lt.mpr high (same ▸ below)
    show ((Deed.entered id thing).perform world).things[other]? = _
    rw [Deed.perform, reindex_things]
    show (world.things.insert id thing)[other]? = _
    rw [Std.ExtTreeMap.getElem?_insert]
    simp [differs]
  gives _ _ := trivial

theorem builds_edit {id : ThingId} (high : floor ≤ id) (f : Thing → Thing) :
    Builds floor 0 (edit id f) fun _ => True := by
  intro world _ _
  rw [run_edit]
  split
  · refine raised_same ?_ (retouch_contains id f world) (fun other low => ?_) fun _ _ => trivial
    · rw [retouch_info]
    · have differs : id ≠ other := fun same => UInt64.not_lt.mpr high (same ▸ low)
      rw [retouch]
      split
      · show (world.things.insert id _)[other]? = _
        rw [Std.ExtTreeMap.getElem?_insert]
        simp [differs]
      · rfl
  · exact raised_same rfl (fun _ => rfl) (fun _ _ => rfl) fun _ _ => trivial

theorem builds_setAssociation {id : ThingId} (high : floor ≤ id) (relation : String) (target : ThingId) (multi : Bool) :
    Builds floor 0 (setAssociation id relation target multi) fun _ => True := by
  refine builds_scope (builds_bind 0 0 (builds_edit high _) fun _ _ world _ _ => ?_)
  rw [Act.run_modify]
  refine raised_same ?_ (fun other => ?_) (fun other _ => ?_) fun _ _ => trivial
  · rw [reindex_info]
  · exact contains_congr (reindex_things _ _) other
  · rw [reindex_things]

end Steps

theorem raised_allot {world : World} (left : world.Affords count) :
    Raised floor count world (fun _ : Unit => True) (.ok (), allot count world) := by
  have counts := toNat_allot count world left
  obtain ⟨next, noted, same⟩ := allot_same count world
  rw [same] at counts ⊢
  refine ⟨?_, Nat.le_of_eq counts, fun id here => .inl here, fun _ _ => rfl, fun _ _ => trivial⟩
  rw [UInt64.le_iff_toNat_le, counts]
  exact Nat.le_add_right _ _

theorem builds_createBare (prototype place : Option ThingId) :
    Builds floor 1 (createBare prototype place) fun id => floor ≤ id := by
  refine builds_scope fun world high left => ?_
  have allotted : Raised floor 1 world (fun _ : Unit => True) (.ok (), allot 1 world) := raised_allot left
  have counts := toNat_allot 1 world left
  have low : world.info.nextId < (allot 1 world).info.nextId := by
    rw [UInt64.lt_iff_toNat_lt, counts]
    exact Nat.lt_succ_self _
  obtain ⟨climbs, most, came, things, _⟩ := raised_trans allotted (raised_enter high _ low)
  exact ⟨climbs, most, came, things, fun id gives => Except.ok.inj gives ▸ high⟩

theorem builds_createFrom (prototype : Option ThingId) (name description : String) :
    Builds floor 1 (createFrom prototype name description) fun id => floor ≤ id := by
  refine builds_read fun _ => builds_scope (builds_bind 1 0 (builds_createBare prototype _) fun id high => ?_)
  exact builds_bind 0 0 (builds_edit high _) fun _ _ => builds_pure high

theorem builds_linkRooms (room : ThingId) (thereName : String) (other : ThingId) (backName : String) :
    Builds floor 2 (linkRooms room thereName other backName) fun pair => floor ≤ pair.1 ∧ floor ≤ pair.2 := by
  refine builds_read fun _ => builds_scope ?_
  refine builds_bind 1 1 (builds_createFrom _ thereName "") fun there high => ?_
  refine builds_bind 1 0 (builds_createFrom _ backName "") fun back high' => ?_
  refine builds_bind 0 0 (builds_setAssociation high Relation.linkOwner room false) fun _ _ => ?_
  refine builds_bind 0 0 (builds_setAssociation high' Relation.linkOwner other false) fun _ _ => ?_
  refine builds_bind 0 0 (builds_setAssociation high Relation.otherLink back false) fun _ _ => ?_
  refine builds_bind 0 0 (builds_setAssociation high' Relation.otherLink there false) fun _ _ => ?_
  exact builds_pure ⟨high, high'⟩

theorem builds_plant (prototype place : Option ThingId) (properties : List (String × Datum)) :
    Builds floor 1 (plant prototype place properties) fun id => floor ≤ id := by
  refine builds_bind 1 0 (builds_createBare prototype place) fun id high => ?_
  exact builds_bind 0 0 (builds_edit high _) fun _ _ => builds_pure high

theorem builds_plantAll : Builds floor 7 plantAll fun _ => True := by
  refine builds_bind 1 6 (builds_plant _ _ _) fun limbo _ => ?_
  refine builds_bind 0 6 (builds_modify (setLimbo limbo) (fun _ => rfl) fun _ => rfl) fun _ _ => ?_
  refine builds_bind 1 5 (builds_plant _ _ _) fun thing thing_high => ?_
  refine builds_bind 1 4 (builds_plant _ _ _) fun room room_high => ?_
  refine builds_bind 1 3 (builds_plant _ _ _) fun link link_high => ?_
  refine builds_bind 1 2 (builds_plant _ _ _) fun person person_high => ?_
  refine builds_bind 1 1 (builds_plant _ _ _) fun hall _ => ?_
  refine builds_bind 1 0 (builds_plant _ _ _) fun lobby _ => ?_
  refine builds_bind 0 0 (builds_forM fun prototype among => ?_) fun _ _ => ?_
  · refine builds_setAssociation ?_ Relation.location hall false
    simp only [List.mem_cons, List.not_mem_nil, or_false] at among
    rcases among with rfl | rfl | rfl | rfl <;> assumption
  · exact builds_modify (setFoundation hall lobby _) (fun _ => rfl) fun _ => rfl

theorem raised_copyEach (numbers : Renumbering) (pairs : List (ThingId × ThingId)) : ∀ world : World,
    (∀ pair ∈ pairs, floor ≤ pair.2 ∧ pair.2 < world.info.nextId) →
      Raised floor 0 world (fun _ => True) ((copyEach numbers pairs).run world) := by
  induction pairs with
  | nil => exact fun world _ => raised_same rfl (fun _ => rfl) (fun _ _ => rfl) fun _ _ => trivial
  | cons pair rest ih =>
    intro world among
    obtain ⟨old, new⟩ := pair
    obtain ⟨high, low⟩ := among (old, new) List.mem_cons_self
    have first := run_copyOne numbers old new world
    have later (mid : World) (climbs : world.info.nextId ≤ mid.info.nextId) (pair : ThingId × ThingId)
        (member : pair ∈ rest) : floor ≤ pair.2 ∧ pair.2 < mid.info.nextId :=
      (among pair (List.mem_cons_of_mem _ member)).imp_right fun low => UInt64.lt_of_lt_of_le low climbs
    show Raised floor 0 world _ ((copyOne numbers old new >>= fun _ => copyEach numbers rest).run world)
    rw [Act.run_bind]
    cases found : world.things[old]? with
    | none =>
      rw [found] at first
      rw [first]
      exact ih world (later world (UInt64.le_refl _))
    | some thing =>
      rw [found] at first
      rw [first]
      have entered := raised_enter high (numbers.thing new thing) low
      exact raised_trans entered (ih _ (later _ entered.climbs))

theorem raised_copySet (id : ThingId) (members : IdSet) {world : World} (high : floor ≤ world.info.nextId)
    (left : world.Affords (world.present members).size) :
    Raised floor (world.present members).size world (floor ≤ ·) ((copySet id members).run world) := by
  rw [copySet, Act.run_bind, Act.run_get]
  dsimp only
  split
  · exact builds_throw (missing id) world high left
  · refine raised_scope ?_
    let numbers := numberFrom ∅ world.info.nextId (world.present members).toList
    let mid := allot (world.present members).size { world with inScope := true }
    have counts : Counts world.info.nextId (world.present members) numbers := counts_numberFrom left
    have after : mid.info.nextId.toNat = world.info.nextId.toNat + (world.present members).size :=
      toNat_allot _ { world with inScope := true } left
    have hands : (renumberAll ∅ members.toList).run { world with inScope := true } = (.ok numbers, mid) :=
      run_renumbering members { world with inScope := true }
    have copies : Raised floor 0 mid.note (fun _ => True) ((copyEach numbers numbers.toList).run mid.note) := by
      refine raised_copyEach numbers numbers.toList mid.note fun pair member => ?_
      have number := Std.ExtTreeMap.mem_toList_iff_getElem?_eq_some.mp member
      exact ⟨UInt64.le_trans high (counts.high number), counts.low number after⟩
    obtain ⟨_, enters, _⟩ := copying_enters numbers numbers.toList mid.note
    rw [enters] at copies
    have handed : Raised floor (world.present members).size { world with inScope := true } (fun _ : Unit => True)
        (.ok (), mid) := raised_allot left
    have noted : Raised floor (world.present members).size { world with inScope := true } (fun _ : Unit => True)
        (.ok (), mid.note) := { handed with }
    obtain ⟨climbs, most, came, things, _⟩ := raised_trans noted copies
    have ran := run_copying Std.ExtTreeMap.toList id hands enters
    show Raised floor _ _ _ ((copyBody Std.ExtTreeMap.toList id members).run _)
    rw [ran]
    refine ⟨climbs, most, came, things, fun root gives => ?_⟩
    rw [rootOf] at gives
    split at gives
    · rename_i number
      cases gives
      exact UInt64.le_trans high (counts.high number)
    · cases gives

end World
end ThingWorld
