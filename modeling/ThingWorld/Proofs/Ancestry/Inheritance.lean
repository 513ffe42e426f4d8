import ThingWorld.Proofs.Ancestry.Circles
namespace ThingWorld.World

-- Upwards from a thing: so many things at most, and none that is missing or was met before.
def climb (world : World) (met : List ThingId) : Nat → ThingId → List ThingId
  | 0, _ => []
  | left + 1, id =>
    if id ∈ met then []
    else
      match world.things[id]? with
      | none => []
      | some thing => id :: thing.prototype.elim [] fun prototype => climb world (id :: met) left prototype

def visible (world : World) (id : ThingId) : List ThingId := world.climb [] maxAncestors id

-- A missing thing owns nothing.
def owned? (world : World) (id : ThingId) (property : String) : Option Datum :=
  (world.things[id]?).bind fun thing => thing.own? property

-- None of the things owns any of the values.
def Bare (world : World) (ids : List ThingId) (properties : List String) : Prop :=
  ∀ id ∈ ids, ∀ property ∈ properties, world.owned? id property = none

-- `source` is in sight, and nothing nearer owns a value of that name.
def Faces (world : World) (id source : ThingId) (property : String) : Prop :=
  ∃ nearer further, world.visible id = nearer ++ source :: further ∧ world.Bare nearer [property]

-- Of all properties of all things one was written.
def Inscribed (world last : World) (id : ThingId) (property : String) (value : Datum) : Prop :=
  ∀ other, last.things[other]? = (world.things[other]?).map fun thing =>
    if other = id then thing.write property value else thing

variable {world last : World} {id source : ThingId} {property : String} {properties : List String} {value : Datum}

section Sight

theorem prototypeOf_some {thing : Thing} (found : world.things[id]? = some thing) :
    world.prototypeOf? id = thing.prototype := by
  simp [prototypeOf?, found]

-- So far up nothing comes a second time, and nothing was met before.
def Unlooped (world : World) (met : List ThingId) (n : Nat) (id : ThingId) : Prop :=
  (∀ j k, j < k → k ≤ n → world.ancestor? j id ≠ world.ancestor? k id) ∧
    ∀ k ≤ n, ∀ other ∈ met, world.ancestor? k id ≠ some other

theorem unlooped_zero (met : List ThingId) : world.Unlooped met 0 id ↔ id ∉ met := by
  constructor
  · exact fun ⟨_, fresh⟩ member => fresh 0 (Nat.le_refl 0) id member rfl
  · refine fun fresh => ⟨fun j k lower bound => by omega, fun k bound other member same => fresh ?_⟩
    obtain rfl := Nat.le_zero.mp bound
    exact Option.some.inj same ▸ member

theorem unlooped_succ {prototype : ThingId} (inherits : world.prototypeOf? id = some prototype) (met : List ThingId)
    (n : Nat) : world.Unlooped met (n + 1) id ↔ id ∉ met ∧ world.Unlooped (id :: met) n prototype := by
  have up (k : Nat) : world.ancestor? (k + 1) id = world.ancestor? k prototype := by
    simp [ancestor?, inherits]
  constructor
  · rintro ⟨apart, fresh⟩
    refine ⟨fun member => fresh 0 (Nat.zero_le _) id member rfl, fun j k lower bound => ?_, fun k bound other member => ?_⟩
    · rw [← up, ← up]
      exact apart (j + 1) (k + 1) (Nat.succ_lt_succ lower) (Nat.succ_le_succ bound)
    · rw [← up]
      rcases List.mem_cons.mp member with rfl | member
      · exact fun same => apart 0 (k + 1) k.succ_pos (Nat.succ_le_succ bound) same.symm
      · exact fresh (k + 1) (Nat.succ_le_succ bound) other member
  · rintro ⟨first, apart, fresh⟩
    refine ⟨fun j k lower bound => ?_, fun k bound other member => ?_⟩
    · obtain ⟨k, rfl⟩ := Nat.exists_eq_succ_of_ne_zero (Nat.ne_of_gt (Nat.zero_lt_of_lt lower))
      have bound := Nat.le_of_succ_le_succ bound
      cases j with
      | zero => exact fun same => fresh k bound id List.mem_cons_self ((up k).symm.trans same.symm)
      | succ j =>
        simp only [Nat.succ_eq_add_one, up]
        exact apart j k (Nat.lt_of_succ_lt_succ lower) bound
    · cases k with
      | zero => exact fun same => first (Option.some.inj same ▸ member)
      | succ k =>
        rw [up]
        exact fresh k (Nat.le_of_succ_le_succ bound) other (List.mem_cons_of_mem id member)

theorem climb_iff (left : Nat) : ∀ (met : List ThingId) (id : ThingId) (n : Nat) (ancestor : ThingId),
    (world.climb met left id)[n]? = some ancestor ↔ n < left ∧ world.ancestor? n id = some ancestor ∧
      world.contains ancestor = true ∧ world.Unlooped met n id := by
  induction left with
  | zero => simp [climb]
  | succ left ih =>
    intro met id n ancestor
    unfold climb
    by_cases again : id ∈ met
    · simp only [again, if_true, List.getElem?_nil, reduceCtorEq, false_iff]
      rintro ⟨_, _, _, _, fresh⟩
      exact fresh 0 n.zero_le id again rfl
    simp only [again, if_false]
    cases found : world.things[id]? with
    | none =>
      simp only [List.getElem?_nil, reduceCtorEq, false_iff]
      rintro ⟨_, above, there, _⟩
      cases n with
      | zero =>
        obtain rfl := Option.some.inj above
        obtain ⟨thing, found'⟩ := some_of_contains there
        simp [found] at found'
      | succ n => simp [ancestor?, prototypeOf?, found] at above
    | some thing =>
      have inherits := prototypeOf_some found
      cases n with
      | zero =>
        simp only [List.getElem?_cons_zero, ancestor?, unlooped_zero]
        constructor
        · intro same
          obtain rfl := Option.some.inj same
          exact ⟨left.succ_pos, rfl, contains_of_some found, again⟩
        · exact fun whole => whole.2.1
      | succ n =>
        rw [List.getElem?_cons_succ]
        cases next : thing.prototype with
        | none => simp [ancestor?, inherits, next]
        | some prototype => simp [ih, unlooped_succ (inherits.trans next), again, ancestor?, inherits, next]

end Sight

section Choice

theorem findSome_own (found : world.things[id]? = some thing) (properties : List String) :
    properties.findSome? thing.own? = properties.findSome? (world.owned? id) := by
  have same : thing.own? = world.owned? id := by
    funext property
    simp [owned?, found]
  rw [same]

-- Where all prototypes lead back and nothing has a value, the search goes round in vain.
theorem chooseFrom_circle {met : List ThingId} (bare : world.Bare met properties)
    (closed : ∀ other ∈ met, ∀ prototype, world.prototypeOf? other = some prototype → prototype ∈ met) (left : Nat) :
    ∀ id ∈ met, world.chooseFrom properties left id = none := by
  induction left with
  | zero => exact fun _ _ => rfl
  | succ left ih =>
    intro id member
    unfold chooseFrom
    cases found : world.things[id]? with
    | none => rfl
    | some thing =>
      have silent : properties.findSome? thing.own? = none := by
        rw [findSome_own found]
        exact List.findSome?_eq_none_iff.mpr (bare id member)
      simp only [silent, Option.bind_eq_none_iff]
      intro prototype inherits
      exact ih prototype (closed id member prototype ((prototypeOf_some found).trans inherits))

-- Whatever was met has no value, and its prototype was met too or comes next.
theorem chooseFrom_climb (left : Nat) : ∀ (met : List ThingId) (id : ThingId), world.Bare met properties →
    (∀ other ∈ met, ∀ prototype, world.prototypeOf? other = some prototype → prototype ∈ id :: met) →
    world.chooseFrom properties left id =
      (world.climb met left id).findSome? fun owner => properties.findSome? (world.owned? owner) := by
  induction left with
  | zero => exact fun _ _ _ _ => rfl
  | succ left ih =>
    intro met id bare onward
    by_cases again : id ∈ met
    · have closed (other : ThingId) (member : other ∈ met) (prototype : ThingId)
          (inherits : world.prototypeOf? other = some prototype) : prototype ∈ met := by
        rcases List.mem_cons.mp (onward other member prototype inherits) with rfl | member
        · exact again
        · exact member
      rw [chooseFrom_circle bare closed (left + 1) id again]
      simp [climb, again]
    unfold chooseFrom climb
    simp only [again, if_false]
    cases found : world.things[id]? with
    | none => rfl
    | some thing =>
      simp only [List.findSome?_cons, findSome_own found]
      cases silent : properties.findSome? (world.owned? id) with
      | some value => rfl
      | none =>
        cases inherits : thing.prototype with
        | none => rfl
        | some prototype =>
          refine ih (id :: met) prototype ?_ ?_
          · intro other member
            rcases List.mem_cons.mp member with rfl | member
            · exact List.findSome?_eq_none_iff.mp silent
            · exact bare other member
          · intro other member next inherits'
            rcases List.mem_cons.mp member with rfl | member
            · rw [prototypeOf_some found, inherits] at inherits'
              obtain rfl := Option.some.inj inherits'
              exact List.mem_cons_self
            · exact List.mem_cons_of_mem prototype (onward other member next inherits')

theorem choose_visible (world : World) (id : ThingId) (properties : List String) :
    world.choose? id properties =
      (world.visible id).findSome? fun owner => properties.findSome? (world.owned? owner) :=
  chooseFrom_climb maxAncestors [] id (fun _ member => nomatch member) fun _ member => nomatch member

theorem choose_single (world : World) (id : ThingId) (property : String) :
    world.choose? id [property] = (world.visible id).findSome? fun owner => world.owned? owner property := by
  simp [choose_visible]

theorem choose_some_iff : world.choose? id properties = some value ↔
    ∃ nearer owner further, world.visible id = nearer ++ owner :: further ∧ world.Bare nearer properties ∧
      ∃ before property after, properties = before ++ property :: after ∧ world.Bare [owner] before ∧
        world.owned? owner property = some value := by
  simp only [choose_visible, List.findSome?_eq_some_iff, List.findSome?_eq_none_iff, Bare, List.mem_singleton, forall_eq]
  constructor
  · rintro ⟨nearer, owner, further, split, ⟨before, property, after, split', owned, earlier⟩, bare⟩
    exact ⟨nearer, owner, further, split, bare, before, property, after, split', earlier, owned⟩
  · rintro ⟨nearer, owner, further, split, bare, before, property, after, split', earlier, owned⟩
    exact ⟨nearer, owner, further, split, ⟨before, property, after, split', owned, earlier⟩, bare⟩

theorem choose_none_iff : world.choose? id properties = none ↔ world.Bare (world.visible id) properties := by
  simp only [choose_visible, List.findSome?_eq_none_iff, Bare]

end Choice

section Written

variable {β : Type} {f g : ThingId → Option β} {a : β}

theorem findSome_faced (changed : g source = some a) (kept : ∀ id, id ≠ source → g id = f id)
    {nearer : List ThingId} (bare : ∀ id ∈ nearer, f id = none) (further : List ThingId) :
    (nearer ++ source :: further).findSome? g = some a := by
  induction nearer with
  | nil => simp [changed]
  | cons id nearer ih =>
    have rest := ih fun other member => bare other (List.mem_cons_of_mem id member)
    by_cases same : id = source
    · simp [same, changed]
    · simp [kept id same, bare id List.mem_cons_self, rest]

theorem findSome_unfaced (kept : ∀ id, id ≠ source → g id = f id) {ids : List ThingId}
    (hidden : ∀ nearer further, ids = nearer ++ source :: further → ∃ id ∈ nearer, f id ≠ none) :
    ids.findSome? g = ids.findSome? f := by
  induction ids with
  | nil => rfl
  | cons id ids ih =>
    have apart : id ≠ source := by
      rintro rfl
      obtain ⟨_, member, _⟩ := hidden [] ids rfl
      cases member
    cases first : f id with
    | some b => simp [kept id apart, first]
    | none =>
      simp only [List.findSome?_cons, kept id apart, first]
      refine ih fun nearer further split => ?_
      obtain ⟨other, member, owns⟩ := hidden (id :: nearer) further (congrArg (id :: ·) split)
      rcases List.mem_cons.mp member with rfl | member
      · exact absurd first owns
      · exact ⟨other, member, owns⟩

variable (writes : Inscribed world last source property value)

include writes

theorem climb_inscribed (left : Nat) : ∀ (met : List ThingId) (id : ThingId),
    last.climb met left id = world.climb met left id := by
  induction left with
  | zero => exact fun _ _ => rfl
  | succ left ih =>
    intro met id
    have inherits (thing : Thing) : (if id = source then thing.write property value else thing).prototype =
        thing.prototype := by
      split <;> rfl
    unfold climb
    rw [writes id]
    cases world.things[id]? with
    | none => rfl
    | some thing => simp [inherits, funext (ih (id :: met))]

theorem visible_inscribed (id : ThingId) : last.visible id = world.visible id :=
  climb_inscribed writes maxAncestors [] id

theorem owned_apart {other : ThingId} {asked : String} (apart : other ≠ source ∨ asked ≠ property) :
    last.owned? other asked = world.owned? other asked := by
  unfold owned?
  rw [writes other]
  cases world.things[other]? with
  | none => rfl
  | some thing =>
    rcases apart with apart | apart
    · simp [apart]
    · by_cases same : other = source
      · simp [same, Thing.own?, Thing.write, Std.ExtTreeMap.getElem?_insert, apart.symm]
      · simp [same]

theorem choose_apart (apart : property ∉ properties) (id : ThingId) :
    last.choose? id properties = world.choose? id properties := by
  have same (owner : ThingId) : properties.findSome? (last.owned? owner) = properties.findSome? (world.owned? owner) := by
    rw [← List.head?_filterMap, ← List.head?_filterMap]
    refine congrArg List.head? (List.filterMap_congr fun asked member => owned_apart writes (.inr ?_))
    rintro rfl
    exact apart member
  rw [choose_visible, choose_visible, visible_inscribed writes, funext same]

theorem choose_unfaced (hidden : ¬world.Faces id source property) :
    last.choose? id [property] = world.choose? id [property] := by
  rw [choose_single, choose_single, visible_inscribed writes]
  refine findSome_unfaced (fun other apart => owned_apart writes (.inl apart)) fun nearer further split => ?_
  by_contra bare
  push Not at bare
  exact hidden ⟨nearer, further, split, by simpa [Bare] using bare⟩

theorem choose_faced (held : world.contains source = true) (faces : world.Faces id source property) :
    last.choose? id [property] = some value := by
  obtain ⟨thing, found⟩ := some_of_contains held
  obtain ⟨nearer, further, split, bare⟩ := faces
  have wrote : last.owned? source property = some value := by
    simp [owned?, writes source, found, Thing.own?, Thing.write]
  rw [choose_single, visible_inscribed writes, split]
  exact findSome_faced wrote (fun other apart => owned_apart writes (.inl apart)) (by simpa [Bare] using bare) further

end Written

-- A write that ends well has written, whatever scope it was in; it fails where the thing is missing or the store refuses.
theorem inscribed_of_set (ran : (setProperty source property value).run world = (.ok (), last)) :
    world.contains source = true ∧ Inscribed world last source property value := by
  have ran : (amend source (Change.write property value).apply).run world = (.ok (), last) := ran
  cases held : world.contains source with
  | false =>
    have failed := amend_fails (Change.write property value).apply held
    simp [ran] at failed
  | true =>
    obtain ⟨result, last', ended, things, _⟩ := amend_ends (Change.write property value).apply held
    obtain ⟨rfl, rfl⟩ := Prod.mk.inj (ran.symm.trans ended)
    refine ⟨rfl, fun other => ?_⟩
    rw [things, revise_things]
    rfl

theorem values_are_inherited_live (world : World) :
    (∀ id n ancestor, (world.visible id)[n]? = some ancestor ↔
      n < maxAncestors ∧ world.ancestor? n id = some ancestor ∧ world.contains ancestor = true ∧
        ∀ j k, j < k → k ≤ n → world.ancestor? j id ≠ world.ancestor? k id) ∧
    (∀ id properties value, world.choose? id properties = some value ↔
      ∃ nearer owner further, world.visible id = nearer ++ owner :: further ∧ world.Bare nearer properties ∧
        ∃ before property after, properties = before ++ property :: after ∧ world.Bare [owner] before ∧
          world.owned? owner property = some value) ∧
    (∀ id properties, world.choose? id properties = none ↔ world.Bare (world.visible id) properties) ∧
    ∀ source property value,
      (∀ last, (setProperty source property value).run world = (.ok (), last) → ∀ id,
        (world.Faces id source property → last.choose? id [property] = some value) ∧
        (¬world.Faces id source property → last.choose? id [property] = world.choose? id [property]) ∧
        (∀ properties, property ∉ properties → last.choose? id properties = world.choose? id properties) ∧
        last.visible id = world.visible id) ∧
      (world.contains source = true → (∀ asked call, world.store.refuses asked call = false) →
        ∃ last, (setProperty source property value).run world = (.ok (), last)) := by
  refine ⟨fun id n ancestor => ?_, fun id properties value => choose_some_iff, fun id properties => choose_none_iff, ?_⟩
  · simp [visible, climb_iff, Unlooped]
  · refine fun source property value => ⟨fun last ran id => ?_, fun held accepts => ?_⟩
    · obtain ⟨held, writes⟩ := inscribed_of_set ran
      exact ⟨choose_faced writes held, choose_unfaced writes, fun _ apart => choose_apart writes apart id,
        visible_inscribed writes id⟩
    · obtain ⟨result, last, ran, _, _, done⟩ := amend_ends (Change.write property value).apply held
      exact ⟨last, (done accepts) ▸ ran⟩

end ThingWorld.World
