import ThingWorld.Proofs.Ancestry.Pointers
import ThingWorld.Proofs.Upkeep.Scopes
namespace ThingWorld.World

-- `prototype` is what `heir` inherits from first.
def Inherits (world : World) (heir prototype : ThingId) : Prop :=
  world.prototypeOf? heir = some prototype

def Acyclic (world : World) : Prop :=
  ∀ id, ¬Relation.TransGen world.Inherits id id

-- What is found that many prototypes further up.
def ancestor? (world : World) : Nat → ThingId → Option ThingId
  | 0, start => some start
  | n + 1, start => (world.prototypeOf? start).bind (world.ancestor? n)

-- `heir` has another prototype in `last`, and nothing else has.
def Reparented (world last : World) (heir prototype : ThingId) : Prop :=
  ∀ id, last.prototypeOf? id = if id = heir then some prototype else world.prototypeOf? id

variable {world last : World} {heir prototype : ThingId}

section Circles

theorem ancestor_iff {start ancestor : ThingId} :
    Relation.ReflTransGen world.Inherits start ancestor ↔ ∃ n, world.ancestor? n start = some ancestor := by
  constructor
  · intro leads
    induction leads using Relation.ReflTransGen.head_induction_on with
    | refl => exact ⟨0, rfl⟩
    | head inherits _ ih =>
      obtain ⟨n, found⟩ := ih
      refine ⟨n + 1, ?_⟩
      rw [ancestor?, inherits]
      exact found
  · rintro ⟨n, found⟩
    induction n generalizing start with
    | zero =>
      obtain rfl := Option.some.inj found
      exact .refl
    | succ n ih =>
      obtain ⟨next, inherits, found⟩ := Option.bind_eq_some_iff.mp found
      exact .head inherits (ih found)

-- What a chain has among its first things is so many prototypes above the first of them.
theorem chainHas_iff (ancestor : ThingId) (left : Nat) : ∀ start : ThingId,
    world.chainHas ancestor left (some start) = true ↔ ∃ n < left, world.ancestor? n start = some ancestor := by
  induction left with
  | zero => simp [chainHas]
  | succ left ih =>
    intro start
    have further : world.chainHas ancestor left (world.prototypeOf? start) = true ↔
        ∃ n < left, world.ancestor? (n + 1) start = some ancestor := by
      cases inherits : world.prototypeOf? start with
      | none => cases left <;> simp [chainHas, ancestor?, inherits]
      | some next => simp [ih next, ancestor?, inherits]
    rw [chainHas, Bool.or_eq_true, beq_iff_eq, further]
    constructor
    · rintro (rfl | ⟨n, near, found⟩)
      · exact ⟨0, left.succ_pos, rfl⟩
      · exact ⟨n + 1, Nat.succ_lt_succ near, found⟩
    · rintro ⟨n, near, found⟩
      cases n with
      | zero => exact .inl (Option.some.inj found)
      | succ n => exact .inr ⟨n, Nat.lt_of_succ_lt_succ near, found⟩

theorem acyclic_reparented (acyclic : world.Acyclic) (reparented : Reparented world last heir prototype) :
    last.Acyclic ↔ ¬Relation.ReflTransGen world.Inherits prototype heir := by
  refine uncircled_redirected acyclic ⟨fun next => ?_, fun one next other => ?_⟩
  · rw [Inherits, reparented, if_pos rfl, Option.some_inj, eq_comm]
  · rw [Inherits, reparented, if_neg other]
    rfl

-- Whatever is ranked above its prototype never comes back to itself.
theorem acyclic_of_ranked (rank : ThingId → Nat)
    (ranked : ∀ id ∈ world.ids, ∀ prototype, world.prototypeOf? id = some prototype → rank prototype < rank id) :
    world.Acyclic := by
  refine uncircled_of_ranked rank fun id prototype inherits => ?_
  obtain ⟨thing, found, _⟩ := Option.bind_eq_some_iff.mp inherits
  exact ranked id (Std.ExtTreeMap.mem_keys.mpr (Std.ExtTreeMap.mem_iff_isSome_getElem?.mpr (by rw [found]; rfl)))
    prototype inherits

end Circles

section Amending

-- A body that ends well ends its scope well, unless the store refuses a call.
theorem scope_result {α : Type} {body : Act α} {a : α} {mid : World}
    (ran : body.run { world with inScope := true } = (.ok a, mid)) :
    ∃ result last, body.scope.run world = (result, last) ∧ last.things = mid.things ∧
      (result = .ok a ∨ result = .error Store.refusal) ∧
      ((∀ asked call, mid.store.refuses asked call = false) → result = .ok a) := by
  cases scope : world.inScope with
  | true =>
    have met : { world with inScope := true } = world := by rw [← scope]
    rw [met] at ran
    exact ⟨_, _, (Act.run_joined scope body).trans ran, rfl, .inl rfl, fun _ => rfl⟩
  | false =>
    have things : (mid.settle (.ok a)).2.things = mid.things := by
      rw [settle_world]
      exact commit_things true _
    refine ⟨_, _, by rw [Act.run_outermost scope, ran], things, settle_gives mid a, fun accepts => ?_⟩
    rw [settle_accepted accepts]

theorem amend_ends {id : ThingId} (f : Thing → Thing) (held : world.contains id = true) :
    ∃ result last, (amend id f).run world = (result, last) ∧ last.things = (world.revise id f).things ∧
      (result = .ok () ∨ result = .error Store.refusal) ∧
      ((∀ asked call, world.store.refuses asked call = false) → result = .ok ()) := by
  have ran : (do edit id f; modify (reindex · id) : Act Unit).run { world with inScope := true } =
      (.ok (), ({ world with inScope := true } : World).revise id f) :=
    (run_revise id f () _).trans (if_pos held)
  obtain ⟨result, last, ended, things, done, accepted⟩ := scope_result ran
  refine ⟨result, last, ended, ?_, done, fun accepts => accepted ?_⟩
  · refine things.trans (Std.ExtTreeMap.ext_getElem? fun other => ?_)
    rw [revise_things, revise_things]
  · obtain ⟨_, _, _, same⟩ := revise_same id f { world with inScope := true }
    rw [same]
    exact accepts

theorem amend_fails {id : ThingId} (f : Thing → Thing) (absent : world.contains id = false) :
    ((amend id f).run world).1 = .error (missing id) := by
  have ran (world : World) (absent : world.contains id = false) :
      (do edit id f; modify (reindex · id) : Act Unit).run world = (.error (missing id), world) :=
    (run_revise id f () world).trans (if_neg (by simp [absent]))
  rw [amend]
  cases scope : world.inScope with
  | true => rw [Act.run_joined scope, ran world absent]
  | false =>
    rw [Act.run_outermost scope, ran { world with inScope := true } absent]
    rfl

end Amending

theorem reparented_of_things (held : world.contains heir = true)
    (things : last.things = (world.revise heir (Change.inherit (some prototype)).apply).things) :
    Reparented world last heir prototype := by
  intro id
  rw [prototypeOf?, prototypeOf?, things, revise_things]
  by_cases same : id = heir
  · subst same
    obtain ⟨thing, found⟩ := some_of_contains held
    simp [found, Change.apply]
  · simp [same]

theorem run_setPrototype (world : World) (id prototype : ThingId) :
    (setPrototype id (some prototype)).run world =
      match world.prototypeRefusal id prototype with
      | some failure => (.error failure, world)
      | none => (amend id (Change.inherit (some prototype)).apply).run world := by
  rw [setPrototype, Act.run_bind, Act.run_get]
  dsimp only [Option.bind_some]
  cases world.prototypeRefusal id prototype <;> rfl

-- Whatever is refused is near enough to be found, and what is not found there closes its circle.
theorem wide_circles_are_closed (acyclic : world.Acyclic) (id prototype : ThingId) :
    ∃ result last, (setPrototype id (some prototype)).run world = (result, last) ∧
      ((∃ why, result = .error (.invalidCommand why)) ↔
        world.contains prototype = true ∧ ∃ n ≤ maxAncestors, world.ancestor? n prototype = some id) ∧
      (∀ why, result = .error (.invalidCommand why) →
        why = showId id ++ " would inherit from itself" ∧ last = world) ∧
      (result = .ok () → world.contains id = true ∧ world.contains prototype = true ∧
        (∀ heir, last.prototypeOf? heir = if heir = id then some prototype else world.prototypeOf? heir) ∧
        (¬last.Acyclic ↔ ∃ n, maxAncestors < n ∧ world.ancestor? n prototype = some id)) ∧
      (world.contains id = true → world.contains prototype = true →
        (∀ n ≤ maxAncestors, world.ancestor? n prototype ≠ some id) →
        (∀ asked call, world.store.refuses asked call = false) → result = .ok ()) := by
  have near : world.chainHas id (maxAncestors + 1) (some prototype) = true ↔
      ∃ n ≤ maxAncestors, world.ancestor? n prototype = some id := by
    simp only [chainHas_iff, Nat.lt_succ_iff]
  rw [run_setPrototype, prototypeRefusal]
  cases known : world.contains prototype with
  | false =>
    refine ⟨_, _, rfl, ?_, ?_, ?_, ?_⟩ <;> simp [missing]
  | true =>
    cases met : world.chainHas id (maxAncestors + 1) (some prototype) with
    | true =>
      obtain ⟨n, close, found⟩ := near.mp met
      refine ⟨_, _, rfl, ?_, ?_, ?_, ?_⟩
      · simpa using ⟨n, close, found⟩
      · simp
      · simp
      · exact fun _ _ apart => absurd found (apart n close)
    | false =>
      have apart (n : Nat) (close : n ≤ maxAncestors) : world.ancestor? n prototype ≠ some id := by
        intro found
        rw [near.mpr ⟨n, close, found⟩] at met
        cases met
      cases held : world.contains id with
      | false =>
        have failed := amend_fails (Change.inherit (some prototype)).apply held
        refine ⟨.error (missing id), _, Prod.ext failed rfl, ?_, ?_, ?_, ?_⟩
        · simpa [missing] using apart
        · simp [missing]
        · simp
        · simp
      | true =>
        obtain ⟨result, last, ran, things, done, accepted⟩ :=
          amend_ends (Change.inherit (some prototype)).apply held
        refine ⟨result, last, ran, ?_, ?_, ?_, fun _ _ _ => accepted⟩
        · rcases done with rfl | rfl <;> simpa [Store.refusal] using apart
        · rcases done with rfl | rfl <;> simp [Store.refusal]
        · intro _
          have reparented := reparented_of_things held things
          refine ⟨rfl, rfl, reparented, ?_⟩
          rw [acyclic_reparented acyclic reparented, not_not, ancestor_iff]
          refine exists_congr fun n => ⟨fun found => ⟨?_, found⟩, And.right⟩
          exact Nat.lt_of_not_le fun close => apart n close found

-- What inherits from a thing, so many times removed.
def lineage (elder : ThingId) : Nat → Act ThingId
  | 0 => return elder
  | n + 1 => do
    let prototype ← lineage elder n
    createFrom (some prototype) "heir" ""

-- A thing and the nearest of its heirs from which it is too far away to be found.
def dynasty : Act (ThingId × ThingId) := do
  let elder ← createFrom none "elder" ""
  let heir ← lineage elder (maxAncestors + 1)
  return (elder, heir)

theorem elders_inherit_from_far_heirs :
    ∃ start elder heir world last, openOn .inMemory ⟨"new", .standard, 1000, fun _ => 0⟩ = .ok start ∧
      dynasty.run start = (.ok (elder, heir), world) ∧ world.Acyclic ∧
      (setPrototype elder (some heir)).run world = (.ok (), last) ∧ ¬last.Acyclic := by
  have checked : opensTo .inMemory ⟨"new", .standard, 1000, fun _ => 0⟩ (fun start =>
      Run.gives ((Run.ofAct dynasty).run start) fun made world =>
        (world.ids.all fun id => (world.prototypeOf? id).all fun prototype => decide (prototype < id)) &&
          decide (world.ancestor? (maxAncestors + 1) made.2 = some made.1) &&
          Run.gives ((Run.ofAct (setPrototype made.1 (some made.2))).run world) fun _ _ => true) = true := by
    decide +kernel
  obtain ⟨start, opened, checked⟩ := opensTo_iff.mp checked
  obtain ⟨⟨elder, heir⟩, world, built, checked⟩ := Run.gives_iff.mp checked
  obtain ⟨checked, done⟩ := Bool.and_eq_true_iff.mp checked
  obtain ⟨ordered, far⟩ := Bool.and_eq_true_iff.mp checked
  obtain ⟨_, last, ran, _⟩ := Run.gives_iff.mp done
  have acyclic : world.Acyclic := by
    refine acyclic_of_ranked UInt64.toNat fun id member prototype inherits => ?_
    have older := List.all_eq_true.mp ordered id member
    rw [inherits] at older
    exact UInt64.lt_iff_toNat_lt.mp (of_decide_eq_true older)
  obtain ⟨result, last', ran', _, _, closes, _⟩ := wide_circles_are_closed acyclic elder heir
  obtain ⟨rfl, rfl⟩ := Prod.mk.inj ((Option.some.inj ran).symm.trans ran')
  have circle := (closes rfl).2.2.2.mpr ⟨_, Nat.lt_succ_self _, of_decide_eq_true far⟩
  exact ⟨start, elder, heir, world, last, opened, Option.some.inj built, acyclic, Option.some.inj ran, circle⟩

end ThingWorld.World
