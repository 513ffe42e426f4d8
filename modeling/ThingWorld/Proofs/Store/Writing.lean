import ThingWorld.Proofs.Course.Operations
import ThingWorld.Proofs.Index.Rebuild
import ThingWorld.Proofs.Store.Medium
namespace ThingWorld

-- What lies in the store are things, each under its own id.
def Store.Owns (store : Store) : Prop :=
  ∀ id blob, store.get? id = some blob → ∃ thing : Thing, thing.id = id ∧ thing.toBytes = blob

-- All ids that lie in the store were handed out before `next`.
def Store.Under (store : Store) (next : ThingId) : Prop :=
  ∀ id blob, store.get? id = some blob → id < next

structure Store.Own (store : Store) (next : ThingId) : Prop where
  owned : store.Owns
  below : store.Under next

-- With this world record beside them they are a world.
structure Store.Sound (store : Store) (info : Info) : Prop where
  owned : store.Owns
  recorded : store.info = some info.toBytes

namespace World

-- What the world knows of its store is so.
def Kept (world : World) : Prop :=
  ∀ (id : ThingId) (blob : Bytes), world.persisted[id]? = some blob → world.store.get? id = some blob

-- And what lies there is its own.
structure Backed (world : World) : Prop where
  owned : world.store.Owns
  kept : world.Kept

-- All ids were handed out.
def Below (world : World) : Prop :=
  ∀ id, world.contains id = true → id < world.info.nextId

-- Those that lie in the store were handed out, too.
structure Ahead (world : World) : Prop where
  below : world.Below
  under : world.store.Under world.info.nextId

-- Unless it waits for the next commit, the world record is written as it is.
def Recorded (world : World) : Prop :=
  world.infoDirty = false → world.store.info = some world.info.toBytes

-- Things that are not touched were last written as they are.
def Faithful (world : World) : Prop :=
  ∀ id : ThingId, id ∉ world.dirty → world.persisted[id]? = world.things[id]?.map Thing.toBytes

-- Something lies in the store for a thing that is there.
def Stored (world : World) (id : ThingId) : Prop :=
  world.contains id = true ∧ ∃ blob, world.store.get? id = some blob

-- The store refuses nothing, and the world knows all that lies there.
structure Mirrored (world : World) : Prop where
  accepts : ∀ asked call, world.store.refuses asked call = false
  known : ∀ id : ThingId, world.persisted[id]? = world.store.get? id

section Calls

variable {store : Store} {call : StoreCall}

theorem medium_accepted (accepted : (store.issue call).1 = .ok ()) :
    (store.issue call).2.medium = store.medium.apply call := by
  rcases store.issue_cases call with ⟨_, _, same⟩ | ⟨_, refused, _⟩
  · exact same
  · rw [refused] at accepted
    cases accepted

theorem get_accepted (accepted : (store.issue call).1 = .ok ()) (id : ThingId) :
    (store.issue call).2.get? id = (store.medium.apply call).get? id :=
  congrArg (fun medium => medium.get? id) (medium_accepted accepted)

theorem info_accepted (accepted : (store.issue call).1 = .ok ()) :
    (store.issue call).2.info = (store.medium.apply call).info :=
  congrArg Medium.info (medium_accepted accepted)

theorem get_deleted (store : Store) (id other : ThingId) :
    (store.issue (.delete id)).2.get? other = store.get? other ∨
      id = other ∧ (store.issue (.delete id)).2.get? other = none := by
  rcases store.issue_cases (.delete id) with ⟨_, _, same⟩ | ⟨_, _, same⟩
  · have got : (store.issue (.delete id)).2.get? other = if id = other then none else store.get? other :=
      (congrArg (fun medium => medium.get? other) same).trans (Medium.get_delete _ _ _)
    by_cases named : id = other
    · exact .inr ⟨named, got.trans (if_pos named)⟩
    · exact .inl (got.trans (if_neg named))
  · exact .inl (congrArg (fun medium => medium.get? other) same)

theorem info_deleted (store : Store) (id : ThingId) : (store.issue (.delete id)).2.info = store.info := by
  rcases store.issue_cases (.delete id) with ⟨_, _, same⟩ | ⟨_, _, same⟩
  · exact (congrArg Medium.info same).trans (Medium.info_delete _ _)
  · exact congrArg Medium.info same

theorem get_recorded (store : Store) (blob : Bytes) (id : ThingId) :
    (store.issue (.putInfo blob)).2.get? id = store.get? id := by
  rcases store.issue_cases (.putInfo blob) with ⟨_, _, same⟩ | ⟨_, _, same⟩
  · exact (congrArg (fun medium => medium.get? id) same).trans (Medium.get_putInfo _ _ _)
  · exact congrArg (fun medium => medium.get? id) same

end Calls

variable {world world' : World}

theorem below_congr (below : world.Below) (things : world'.things = world.things)
    (nextId : world'.info.nextId = world.info.nextId) : world'.Below := by
  intro id held
  rw [nextId]
  exact below id ((contains_congr things id).symm.trans held)

theorem owns_congr {store store' : Store} (owns : store.Owns) (got : ∀ id, store'.get? id = store.get? id) :
    store'.Owns :=
  fun id blob lies => owns id blob ((got id).symm.trans lies)

theorem kept_congr (kept : world.Kept) (persisted : world'.persisted = world.persisted)
    (got : ∀ id, world'.store.get? id = world.store.get? id) : world'.Kept := by
  rw [Kept, persisted]
  exact fun id blob known => (got id).trans (kept id blob known)

theorem backed_congr (backed : world.Backed) (persisted : world'.persisted = world.persisted)
    (got : ∀ id, world'.store.get? id = world.store.get? id) : world'.Backed :=
  ⟨owns_congr backed.owned got, kept_congr backed.kept persisted got⟩

theorem wrote_things (wrote : Wrote world world') : world'.things = world.things := by
  cases wrote <;> rfl

theorem wrote_info (wrote : Wrote world world') : world'.info = world.info := by
  cases wrote <;> rfl

theorem wrote_get (wrote : Wrote world world') (id : ThingId) :
    world'.store.get? id = world.store.get? id ∨ world'.store.get? id = world.things[id]?.map Thing.toBytes := by
  cases wrote with
  | @deleted gone absent known =>
    rcases get_deleted world.store gone id with same | ⟨rfl, none⟩
    · exact .inl same
    · exact .inr (none.trans (by rw [absent]; rfl))
  | @put other thing present accepted =>
    have got := (get_accepted accepted id).trans (Medium.get_put _ _ _ _)
    by_cases same : other = id
    · subst same
      exact .inr ((got.trans (if_pos rfl)).trans (by rw [present]; rfl))
    · exact .inl (got.trans (if_neg same))
  | recorded accepted => exact .inl ((get_accepted accepted id).trans (Medium.get_putInfo _ _ _))
  | asked unheard idle => exact .inl (congrArg (fun medium => medium.get? id) unheard)
  | returned ids => exact .inl rfl

theorem wrote_origin (wrote : Wrote world world') {id : ThingId} {blob : Bytes}
    (lies : world'.store.get? id = some blob) :
    world.store.get? id = some blob ∨ ∃ thing, world.things[id]? = some thing ∧ thing.toBytes = blob := by
  rcases wrote_get wrote id with same | now
  · exact .inl (same.symm.trans lies)
  · exact .inr (Option.map_eq_some_iff.mp (now.symm.trans lies))

theorem owns_wrote (keyed : Index.Keyed world.things) (owns : world.store.Owns) (wrote : Wrote world world') :
    world'.store.Owns := by
  intro id blob lies
  rcases wrote_origin wrote lies with before | ⟨thing, found, written⟩
  · exact owns id blob before
  · exact ⟨thing, keyed id thing found, written⟩

theorem ahead_wrote (ahead : world.Ahead) (wrote : Wrote world world') : world'.Ahead := by
  refine ⟨below_congr ahead.below (wrote_things wrote) (congrArg Info.nextId (wrote_info wrote)), ?_⟩
  intro id blob lies
  rw [wrote_info wrote]
  rcases wrote_origin wrote lies with before | ⟨thing, found, _⟩
  · exact ahead.under id blob before
  · exact ahead.below id (contains_of_some found)

-- The world forgets what it deletes before the store is asked, so it never remembers too much.
theorem kept_wrote (kept : world.Kept) (wrote : Wrote world world') : world'.Kept := by
  cases wrote with
  | @deleted id absent known =>
    intro other blob remembered
    have remembered : (world.persisted.erase id)[other]? = some blob := remembered
    rw [Std.ExtTreeMap.getElem?_erase] at remembered
    split at remembered
    · cases remembered
    · rename_i differs
      rcases get_deleted world.store id other with same | ⟨rfl, _⟩
      · exact same.trans (kept other blob remembered)
      · exact absurd Std.compare_self differs
  | @put id thing present accepted =>
    intro other blob remembered
    have remembered : (world.persisted.insert id thing.toBytes)[other]? = some blob := remembered
    refine ((get_accepted accepted other).trans (Medium.get_put _ _ _ _)).trans ?_
    rw [Std.ExtTreeMap.getElem?_insert] at remembered
    by_cases same : id = other
    · simpa [same] using remembered
    · simp only [Std.compare_eq_iff_eq, same, ↓reduceIte] at remembered ⊢
      exact kept other blob remembered
  | recorded accepted =>
    exact kept_congr kept rfl fun other => (get_accepted accepted other).trans (Medium.get_putInfo _ _ _)
  | asked unheard idle => exact kept_congr kept rfl fun other => congrArg (fun medium => medium.get? other) unheard
  | returned ids => exact kept_congr kept rfl fun _ => rfl

theorem backed_wrote (keyed : Index.Keyed world.things) (backed : world.Backed) (wrote : Wrote world world') :
    world'.Backed :=
  ⟨owns_wrote keyed backed.owned wrote, kept_wrote backed.kept wrote⟩

theorem recorded_wrote (recorded : world.Recorded) (wrote : Wrote world world') : world'.Recorded := by
  cases wrote with
  | deleted absent known => exact fun clean => (info_deleted _ _).trans (recorded clean)
  | put present accepted =>
    exact fun clean => (info_accepted accepted).trans ((Medium.info_put _ _ _).trans (recorded clean))
  | recorded accepted => exact fun _ => (info_accepted accepted).trans (Medium.info_putInfo _ _)
  | asked unheard idle => exact fun clean => (congrArg Medium.info unheard).trans (recorded clean)
  | returned ids => exact recorded

theorem stored_wrote {id : ThingId} (stored : world.Stored id) (wrote : Wrote world world') : world'.Stored id := by
  obtain ⟨held, blob, lies⟩ := stored
  have held' : world'.contains id = true := (contains_congr (wrote_things wrote) id).trans held
  rcases wrote_get wrote id with same | now
  · exact ⟨held', blob, same.trans lies⟩
  · obtain ⟨thing, found⟩ := some_of_contains held
    exact ⟨held', thing.toBytes, now.trans (by rw [found]; rfl)⟩

theorem accepted_of_accepts (accepts : ∀ asked call, world.store.refuses asked call = false) (call : StoreCall) :
    (world.store.issue call).1 = .ok () := by
  rcases world.store.issue_cases call with ⟨_, accepted, _⟩ | ⟨refused, _, _⟩
  · exact accepted
  · rw [accepts] at refused
    cases refused

theorem mirrored_wrote (mirrored : world.Mirrored) (wrote : Wrote world world') : world'.Mirrored := by
  have accepted (call : StoreCall) := accepted_of_accepts mirrored.accepts call
  have accepts (call : StoreCall) (asked : List StoreCall) (other : StoreCall) :
      (world.store.issue call).2.refuses asked other = false := by
    rw [Store.issue_refuses]
    exact mirrored.accepts asked other
  cases wrote with
  | @deleted id absent known =>
    refine ⟨accepts _, fun other => ?_⟩
    have got := (get_accepted (accepted (.delete id)) other).trans (Medium.get_delete _ _ _)
    refine Eq.trans ?_ got.symm
    show (world.persisted.erase id)[other]? = _
    rw [Std.ExtTreeMap.getElem?_erase, mirrored.known other]
    simp only [Std.compare_eq_iff_eq]
    rfl
  | @put id thing present done =>
    refine ⟨accepts _, fun other => ?_⟩
    have got := (get_accepted (accepted (.put id thing.toBytes)) other).trans (Medium.get_put _ _ _ _)
    refine Eq.trans ?_ got.symm
    show (world.persisted.insert id thing.toBytes)[other]? = _
    rw [Std.ExtTreeMap.getElem?_insert, mirrored.known other]
    simp only [Std.compare_eq_iff_eq]
    rfl
  | recorded done =>
    refine ⟨accepts _, fun other => (mirrored.known other).trans ?_⟩
    exact ((get_accepted done other).trans (Medium.get_putInfo _ _ _)).symm
  | asked unheard idle =>
    refine ⟨accepts _, fun other => (mirrored.known other).trans ?_⟩
    exact (congrArg (fun medium => medium.get? other) unheard).symm
  | returned ids => exact ⟨mirrored.accepts, mirrored.known⟩

-- What each write keeps, all writes keep, and while they go on things and world record stay.
theorem writing_keeps {P : World → Prop}
    (step : ∀ mid last, mid.things = world.things → mid.info = world.info → P mid → Wrote mid last → P last)
    (writing : Writing world world') (start : P world) : P world' := by
  have both : (world'.things = world.things ∧ world'.info = world.info) ∧ P world' := by
    induction writing with
    | refl => exact ⟨⟨rfl, rfl⟩, start⟩
    | tail _ wrote ih =>
      obtain ⟨⟨things, info⟩, kept⟩ := ih
      exact ⟨⟨(wrote_things wrote).trans things, (wrote_info wrote).trans info⟩, step _ _ things info kept wrote⟩
  exact both.2

theorem backed_writing (keyed : Index.Keyed world.things) (backed : world.Backed) (writing : Writing world world') :
    world'.Backed :=
  writing_keeps (fun _ _ things _ backed wrote => backed_wrote (things ▸ keyed) backed wrote) writing backed

theorem ahead_writing (ahead : world.Ahead) (writing : Writing world world') : world'.Ahead :=
  writing_keeps (fun _ _ _ _ ahead wrote => ahead_wrote ahead wrote) writing ahead

theorem kept_writing (kept : world.Kept) (writing : Writing world world') : world'.Kept :=
  writing_keeps (fun _ _ _ _ kept wrote => kept_wrote kept wrote) writing kept

theorem recorded_writing (recorded : world.Recorded) (writing : Writing world world') : world'.Recorded :=
  writing_keeps (fun _ _ _ _ recorded wrote => recorded_wrote recorded wrote) writing recorded

theorem stored_writing {id : ThingId} (stored : world.Stored id) (writing : Writing world world') : world'.Stored id :=
  writing_keeps (fun _ _ _ _ stored wrote => stored_wrote stored wrote) writing stored

theorem mirrored_writing (mirrored : world.Mirrored) (writing : Writing world world') : world'.Mirrored :=
  writing_keeps (fun _ _ _ _ mirrored wrote => mirrored_wrote mirrored wrote) writing mirrored

end World
end ThingWorld
