import ThingWorld.Proofs.Store.Calls
namespace ThingWorld

-- Ids under which something was put since the world record was written. The latest call stands first.
def unrecorded : List StoreCall → List ThingId
  | [] => []
  | .put id _ :: before => id :: unrecorded before
  | .putInfo _ :: _ => []
  | _ :: before => unrecorded before

-- Of what lies there the world record has handed out all ids but these.
def Medium.Guarded (medium : Medium) (but : List ThingId) : Prop :=
  ∀ bytes info, medium.info = some bytes → Info.ofBytes bytes = .ok info →
    ∀ id blob, medium.get? id = some blob → id < info.nextId ∨ id ∈ but

section Calls

variable {medium : Medium} {but : List ThingId}

theorem guarded_put (guarded : medium.Guarded but) (id : ThingId) (blob : Bytes) :
    (medium.apply (.put id blob)).Guarded (id :: but) := by
  intro bytes info recorded read other lies found
  rw [Medium.info_put] at recorded
  rw [Medium.get_put] at found
  by_cases same : id = other
  · exact .inr (same ▸ List.mem_cons_self)
  · rw [if_neg same] at found
    exact (guarded bytes info recorded read other lies found).imp_right (List.mem_cons_of_mem id)

theorem guarded_delete (guarded : medium.Guarded but) (id : ThingId) : (medium.apply (.delete id)).Guarded but := by
  intro bytes info recorded read other lies found
  rw [Medium.info_delete] at recorded
  rw [Medium.get_delete] at found
  split at found
  · cases found
  · exact guarded bytes info recorded read other lies found

-- When the record is written nothing is newer.
theorem guarded_putInfo {info : Info} (fits : info.Fits)
    (below : ∀ id blob, medium.get? id = some blob → id < info.nextId) :
    (medium.apply (.putInfo info.toBytes)).Guarded [] := by
  intro bytes again recorded read id blob found
  rw [Medium.info_putInfo] at recorded
  obtain rfl := Option.some.inj recorded
  obtain rfl := Info.eq_of_ofBytes fits read
  rw [Medium.get_putInfo] at found
  exact .inl (below id blob found)

theorem guarded_recorded {store : Store} {info : Info} (recorded : store.info = some info.toBytes)
    (under : store.Under info.nextId) (fits : info.Fits) : store.medium.Guarded [] := by
  intro bytes again recorded' read id blob found
  obtain rfl := Option.some.inj (recorded.symm.trans recorded')
  obtain rfl := Info.eq_of_ofBytes fits read
  exact .inl (under id blob found)

end Calls

namespace Store

variable {base store store' : Store} {left : Bool}

-- All that a store did since a while ago; and while the next id never went back, at whatever call it had been cut off, it
-- would have been guarded.
def Trail (base : Store) (left : Bool) (store : Store) : Prop :=
  ∃ calls, store.log = calls ++ base.log ∧ store.medium = base.medium.after calls ∧
    (left = true →
      ∀ later before, calls = later ++ before → (base.medium.after before).Guarded (unrecorded before))

theorem trail_refl (guarded : base.medium.Guarded []) : base.Trail left base := by
  refine ⟨[], rfl, rfl, ?_⟩
  intro _ later before split
  obtain ⟨-, rfl⟩ := List.append_eq_nil_iff.mp split.symm
  exact guarded

theorem trail_congr (trail : base.Trail left store) (log : store'.log = store.log)
    (medium : store'.medium = store.medium) : base.Trail left store' := by
  rw [Trail, log, medium]
  exact trail

theorem trail_mono {less : Bool} (trail : base.Trail left store) (fewer : less = true → left = true) :
    base.Trail less store := by
  obtain ⟨calls, logged, reached, cuts⟩ := trail
  exact ⟨calls, logged, reached, fun kept => cuts (fewer kept)⟩

theorem issue_cases_log (store : Store) (call : StoreCall) :
    ((store.issue call).1 = .ok () ∧ (store.issue call).2.log = call :: store.log ∧
        (store.issue call).2.medium = store.medium.apply call) ∨
      ((store.issue call).1 = .error refusal ∧ (store.issue call).2.log = store.log ∧
        (store.issue call).2.medium = store.medium) := by
  rw [issue]
  split
  · exact .inr ⟨rfl, rfl, rfl⟩
  · exact .inl ⟨rfl, rfl, rfl⟩

theorem trail_issue (trail : base.Trail left store) (call : StoreCall)
    (guards : ∀ before, left = true → store.medium.Guarded (unrecorded before) →
      (store.medium.apply call).Guarded (unrecorded (call :: before))) : base.Trail left (store.issue call).2 := by
  rcases issue_cases_log store call with ⟨_, log, medium⟩ | ⟨_, log, medium⟩
  · obtain ⟨calls, logged, reached, cuts⟩ := trail
    refine ⟨call :: calls, ?_, ?_, ?_⟩
    · rw [log, logged, List.cons_append]
    · rw [medium, reached]
      rfl
    · intro kept later before split
      cases later with
      | nil =>
        have all : call :: calls = before := split
        subst all
        have now : store.medium.Guarded (unrecorded calls) := by
          rw [reached]
          exact cuts kept [] calls rfl
        rw [show base.medium.after (call :: calls) = (base.medium.after calls).apply call from rfl, ← reached]
        exact guards calls kept now
      | cons latest later => exact cuts kept later before (List.cons.inj split).2
  · exact trail_congr trail log medium

end Store

namespace World

variable {base : Store} {left : Bool} {world world' : World}

theorem trail_wrote (ahead : left = true → world.Ahead) (fits : world.info.Fits) (trail : base.Trail left world.store)
    (wrote : Wrote world world') : base.Trail left world'.store := by
  cases wrote with
  | @deleted id absent known =>
    exact Store.trail_issue trail (.delete id) fun before _ guarded => guarded_delete guarded id
  | @put id thing present accepted =>
    exact Store.trail_issue trail (.put id thing.toBytes) fun before _ guarded => guarded_put guarded id thing.toBytes
  | recorded accepted => exact Store.trail_issue trail _ fun before kept _ => guarded_putInfo fits (ahead kept).under
  | @asked call unheard idle =>
    rcases idle with rfl | ⟨failed, _⟩
    · refine Store.trail_issue trail .flush fun before _ guarded => ?_
      cases same : world.store.medium <;> rw [same] at guarded <;> exact guarded
    · rcases Store.issue_cases_log world.store call with ⟨accepted, _, _⟩ | ⟨_, log, medium⟩
      · cases accepted.symm.trans failed
      · exact Store.trail_congr trail log medium
  | returned ids => exact trail

theorem trail_writing (ahead : left = true → world.Ahead) (fits : world.info.Fits)
    (trail : base.Trail left world.store) (writing : Writing world world') : base.Trail left world'.store := by
  have both : (left = true → world'.Ahead) ∧ base.Trail left world'.store := by
    refine @writing_keeps _ _ (fun mid => (left = true → mid.Ahead) ∧ base.Trail left mid.store) ?_ writing ⟨ahead, trail⟩
    rintro mid last things info ⟨ahead, trail⟩ wrote
    exact ⟨fun kept => ahead_wrote (ahead kept) wrote, trail_wrote ahead (info ▸ fits) trail wrote⟩
  exact both.2

end World
end ThingWorld
