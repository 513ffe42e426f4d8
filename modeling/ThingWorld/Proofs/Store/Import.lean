import ThingWorld.Dump
import ThingWorld.Proofs.Course.Seed
import ThingWorld.Proofs.Store.Reload
namespace ThingWorld.Dump

variable {store store' : Store}

theorem issue_ok {call : StoreCall} (issued : store.issue call = (.ok (), store')) :
    store'.medium = store.medium.apply call := by
  have accepted : (store.issue call).1 = .ok () := by rw [issued]
  have medium := World.medium_accepted accepted
  rwa [issued] at medium

theorem putThings_spec (things : List Thing) : ∀ {store store' : Store}, putThings store things = (.ok (), store') →
    (∀ id blob, store'.get? id = some blob →
      store.get? id = some blob ∨ ∃ thing ∈ things, thing.id = id ∧ thing.toBytes = blob) ∧
    (∀ id, (∃ blob, store.get? id = some blob) → ∃ blob, store'.get? id = some blob) ∧
    ∀ thing ∈ things, ∃ blob, store'.get? thing.id = some blob := by
  induction things with
  | nil =>
    intro store store' ran
    cases ran
    exact ⟨fun id blob lies => .inl lies, fun id lies => lies, fun thing member => nomatch member⟩
  | cons thing rest ih =>
    intro store store' ran
    rw [putThings, Thing.checkSchema] at ran
    split at ran
    · cases ran
    · rename_i checked
      split at checked
      · cases checked
        split at ran
        · rename_i mid issued
          obtain ⟨known, stays, comes⟩ := ih ran
          have got (id : ThingId) : mid.get? id = if thing.id = id then some thing.toBytes else store.get? id :=
            (congrArg (fun medium => medium.get? id) (issue_ok issued)).trans (Medium.get_put _ _ _ _)
          refine ⟨?_, ?_, ?_⟩
          · intro id blob lies
            rcases known id blob lies with lay | ⟨other, member, named, written⟩
            · rw [got] at lay
              split at lay
              · rename_i named
                exact .inr ⟨thing, List.mem_cons_self, named, Option.some.inj lay⟩
              · exact .inl lay
            · exact .inr ⟨other, List.mem_cons_of_mem thing member, named, written⟩
          · rintro id ⟨blob, lies⟩
            refine stays id ?_
            rw [got]
            split
            · exact ⟨_, rfl⟩
            · exact ⟨blob, lies⟩
          · intro other member
            rcases List.mem_cons.mp member with rfl | member
            · exact stays other.id ⟨_, (got other.id).trans (if_pos rfl)⟩
            · exact comes other member
        · cases ran
      · cases checked

variable {dump : Dump}

section Raising

-- Whether there is an id after each of the dump's.
def climbs (dump : Dump) : Bool :=
  dump.ids.all fun id => decide (id < id + 1)

instance : Std.LawfulOrderMax ThingId where
  max_eq_or first second := by
    show (if first ≤ second then second else first) = first ∨ (if first ≤ second then second else first) = second
    split <;> simp
  max_le_iff first second bound := by
    show (if first ≤ second then second else first) ≤ bound ↔ first ≤ bound ∧ second ≤ bound
    simp only [UInt64.le_iff_toNat_le]
    split <;> omega

theorem raised_same (dump : Dump) : ∃ next, dump.raisedInfo = { dump.info with nextId := next } := by
  unfold raisedInfo
  split
  · exact ⟨dump.info.nextId, rfl⟩
  · exact ⟨_, rfl⟩

theorem raised_least : dump.info.nextId ≤ dump.raisedInfo.nextId := by
  unfold raisedInfo
  split
  · exact UInt64.le_refl _
  · exact Std.left_le_max

-- The id after the highest is above all, unless it is the first one again.
theorem raised_above (climbs : dump.climbs = true) {id : ThingId} (member : id ∈ dump.ids) :
    id < dump.raisedInfo.nextId := by
  unfold raisedInfo
  cases found : dump.ids.max? with
  | none =>
    rw [List.max?_eq_none_iff.mp found] at member
    cases member
  | some highest =>
    obtain ⟨among, above⟩ := List.max?_eq_some_iff.mp found
    have after : highest < highest + 1 := of_decide_eq_true (List.all_eq_true.mp climbs highest among)
    exact UInt64.lt_of_le_of_lt (above id member) (UInt64.lt_of_lt_of_le after Std.right_le_max)

-- Where all are below, nothing is raised.
theorem raised_unmoved (below : ∀ id ∈ dump.ids, id < dump.info.nextId) : dump.raisedInfo = dump.info := by
  unfold raisedInfo
  cases found : dump.ids.max? with
  | none => rfl
  | some highest =>
    have low := below highest (List.max?_mem found)
    have after : highest + 1 ≤ dump.info.nextId := by
      rw [UInt64.le_iff_toNat_le, UInt64.toNat_add]
      have := UInt64.lt_iff_toNat_lt.mp low
      exact Nat.le_trans (Nat.mod_le _ _) this
    have same : max dump.info.nextId (highest + 1) = dump.info.nextId :=
      UInt64.le_antisymm ((Std.LawfulOrderSup.max_le_iff _ _ _).mpr ⟨UInt64.le_refl _, after⟩) Std.left_le_max
    simp only [same]

end Raising

-- What a dump that is not refused has.
theorem unrefused (unrefused : dump.refusal? store = none) :
    store.Empty ∧ dump.info.limbo ∈ dump.ids ∧ dump.info.lobby ∈ dump.ids ∧ dump.info.hall ∈ dump.ids := by
  rw [refusal?] at unrefused
  split at unrefused
  · cases unrefused
  · split at unrefused
    · cases unrefused
    · rename_i empty
      split at unrefused
      · cases unrefused
      · rename_i complete
        have present := List.find?_eq_none.mp complete
        have empty : store.info.isNone = true ∧ store.ids.isEmpty = true := by
          simpa [isEmptyStore] using empty
        refine ⟨⟨Option.isNone_iff_eq_none.mp empty.1, ?_⟩, ?_, ?_, ?_⟩
        · intro id
          cases lies : store.get? id with
          | none => rfl
          | some blob =>
            have listed := (Store.mem_ids store id).mpr ⟨blob, lies⟩
            rw [List.isEmpty_iff.mp empty.2] at listed
            cases listed
        · simpa using present dump.info.limbo (by simp)
        · simpa using present dump.info.lobby (by simp)
        · simpa using present dump.info.hall (by simp)

theorem write_sound (written : dump.write store = (.ok (), store')) :
    store'.Sound dump.raisedInfo ∧ (∀ id, id ∈ dump.ids ↔ ∃ blob, store'.get? id = some blob) ∧
      dump.info.limbo ∈ dump.ids ∧ dump.info.lobby ∈ dump.ids ∧ dump.info.hall ∈ dump.ids := by
  rw [write] at written
  cases refusal : dump.refusal? store with
  | some failure =>
    rw [refusal] at written
    cases written
  | none =>
    obtain ⟨empty, roots⟩ := unrefused refusal
    rw [refusal] at written
    dsimp only at written
    split at written
    · cases written
    · rename_i mid put
      obtain ⟨known, _, comes⟩ := putThings_spec dump.things put
      rw [issueAll] at written
      split at written
      · rename_i noted recorded
        rw [issueAll] at written
        split at written
        · rename_i last flushed
          cases written
          have medium : store'.medium = noted.medium := by
            rw [issue_ok flushed]
            cases noted.medium <;> rfl
          have info : store'.info = some dump.raisedInfo.toBytes := by
            rw [Store.info, medium, issue_ok recorded]
            exact Medium.info_putInfo _ _
          have got (id : ThingId) : store'.get? id = mid.get? id := by
            rw [Store.get?, medium, issue_ok recorded]
            exact Medium.get_putInfo _ _ _
          have own (id : ThingId) (blob : Bytes) (lies : store'.get? id = some blob) :
              ∃ thing ∈ dump.things, thing.id = id ∧ thing.toBytes = blob := by
            rw [got] at lies
            rcases known id blob lies with lay | came
            · cases (empty.2 id).symm.trans lay
            · exact came
          refine ⟨⟨?_, info⟩, ?_, roots⟩
          · intro id blob lies
            obtain ⟨thing, _, named, written⟩ := own id blob lies
            exact ⟨thing, named, written⟩
          · intro id
            constructor
            · intro member
              obtain ⟨thing, member, named⟩ := List.mem_map.mp member
              rw [got, ← named]
              exact comes thing member
            · rintro ⟨blob, lies⟩
              obtain ⟨thing, member, named, _⟩ := own id blob lies
              exact List.mem_map.mpr ⟨thing, member, named⟩
        · cases written
      · cases written

end ThingWorld.Dump
