import ThingWorld.Proofs.Store.Writing
namespace ThingWorld

-- A call that decides what lies there of a thing.
def StoreCall.reaches (id : ThingId) : StoreCall → Bool
  | .put other _ => other == id
  | .delete other => other == id
  | .deleteAll => true
  | .putInfo _ => false
  | .flush => false

-- After `since`, a deletion of the thing was refused, and no call that reaches the thing has taken effect after that. The
-- latest call stands first.
inductive Spurned (refuses : List StoreCall → StoreCall → Bool) (since : List StoreCall) (id : ThingId) :
    List StoreCall → Prop where
  | refused {before : List StoreCall} (refused : refuses (before ++ since) (.delete id) = true) :
      Spurned refuses since id (.delete id :: before)
  | passed {call : StoreCall} {before : List StoreCall} (spurned : Spurned refuses since id before)
      (unreached : refuses (before ++ since) call = true ∨ call.reaches id = false) :
      Spurned refuses since id (call :: before)

section

variable {refuses : List StoreCall → StoreCall → Bool} {since before : List StoreCall} {id : ThingId} {call : StoreCall}

theorem spurned_reached (accepted : refuses (before ++ since) call = false) (reached : call.reaches id = true) :
    ¬Spurned refuses since id (call :: before) := by
  intro spurned
  cases spurned with
  | refused refused =>
    rw [accepted] at refused
    cases refused
  | passed _ unreached =>
    rcases unreached with refused | unreached
    · rw [accepted] at refused
      cases refused
    · rw [reached] at unreached
      cases unreached

theorem spurned_passed (unreached : refuses (before ++ since) call = true ∨ call.reaches id = false)
    (apart : call ≠ .delete id) : Spurned refuses since id (call :: before) ↔ Spurned refuses since id before := by
  refine ⟨fun spurned => ?_, fun spurned => .passed spurned unreached⟩
  cases spurned with
  | refused _ => exact absurd rfl apart
  | passed spurned _ => exact spurned

end

namespace World

-- What lies there of a thing when these calls were issued since: what the world remembers, unless it was spurned.
def Matches (world : World) (refuses : List StoreCall → StoreCall → Bool) (since recent : List StoreCall)
    (id : ThingId) : Prop :=
  (¬Spurned refuses since id recent → world.persisted[id]? = world.store.get? id) ∧
    (Spurned refuses since id recent → world.persisted[id]? = none ∧ ∃ blob, world.store.get? id = some blob)

def Accounted (world : World) (refuses : List StoreCall → StoreCall → Bool) (since : List StoreCall) : Prop :=
  world.store.refuses = refuses ∧ ∃ recent, world.store.asked = recent ++ since ∧
    ∀ id, world.Matches refuses since recent id

variable {world world' : World} {refuses : List StoreCall → StoreCall → Bool} {since recent : List StoreCall}
  {id : ThingId}

theorem matches_congr {recent' : List StoreCall} (known : world.Matches refuses since recent id)
    (persisted : world'.persisted[id]? = world.persisted[id]?) (got : world'.store.get? id = world.store.get? id)
    (same : Spurned refuses since id recent' ↔ Spurned refuses since id recent) :
    world'.Matches refuses since recent' id := by
  rw [Matches, persisted, got, same]
  exact known

theorem accounted_congr (accounted : world.Accounted refuses since) (persisted : world'.persisted = world.persisted)
    (store : world'.store = world.store) : world'.Accounted refuses since := by
  obtain ⟨rule, recent, asked, known⟩ := accounted
  rw [Accounted, store]
  refine ⟨rule, recent, asked, fun id => matches_congr (known id) ?_ ?_ Iff.rfl⟩
  · rw [persisted]
  · rw [store]

theorem asked_issue (store : Store) (call : StoreCall) : (store.issue call).2.asked = call :: store.asked := by
  rw [Store.issue]
  split <;> rfl

-- A call that changes neither what lies there of things nor what is remembered, and is no deletion.
theorem matches_idle {call : StoreCall} (known : world.Matches refuses since recent id)
    (got : (world.store.issue call).2.get? id = world.store.get? id)
    (unreached : refuses (recent ++ since) call = true ∨ call.reaches id = false) (apart : call ≠ .delete id)
    {infoDirty : Bool} : ({ world with infoDirty := infoDirty, store := (world.store.issue call).2 } : World).Matches
      refuses since (call :: recent) id :=
  matches_congr known rfl got (spurned_passed unreached apart)

theorem matches_deleted (rule : world.store.refuses = refuses) (asked : world.store.asked = recent ++ since)
    (known : ∀ id, world.Matches refuses since recent id) {gone : ThingId}
    (remembered : world.persisted.contains gone = true) (id : ThingId) : ({ world with
      persisted := world.persisted.erase gone, store := (world.store.issue (.delete gone)).2 } : World).Matches
        refuses since (.delete gone :: recent) id := by
  by_cases same : gone = id
  · subst same
    have forgotten : (world.persisted.erase gone)[gone]? = none := Std.ExtTreeMap.getElem?_erase_self
    rcases world.store.issue_cases (.delete gone) with ⟨accepted, _, medium⟩ | ⟨refused, _, medium⟩
    · have unspurned : ¬Spurned refuses since gone (.delete gone :: recent) := by
        refine spurned_reached ?_ (by simp [StoreCall.reaches])
        rw [← rule, ← asked]
        exact accepted
      refine ⟨fun _ => forgotten.trans ?_, fun spurned => absurd spurned unspurned⟩
      exact ((congrArg (fun medium => medium.get? gone) medium).trans
        ((Medium.get_delete _ _ _).trans (if_pos rfl))).symm
    · have spurned : Spurned refuses since gone (.delete gone :: recent) := by
        refine .refused ?_
        rw [← rule, ← asked]
        exact refused
      refine ⟨fun unspurned => absurd spurned unspurned, fun _ => ⟨forgotten, ?_⟩⟩
      obtain ⟨blob, found⟩ := Option.isSome_iff_exists.mp (Std.ExtTreeMap.contains_eq_isSome_getElem?.symm.trans remembered)
      -- What is remembered was not spurned before.
      have before : ¬Spurned refuses since gone recent := by
        intro spurned
        rw [((known gone).2 spurned).1] at found
        cases found
      refine ⟨blob, (congrArg (fun medium => medium.get? gone) medium).trans ?_⟩
      exact ((known gone).1 before).symm.trans found
  · refine matches_congr (known id) ?_ ?_ (spurned_passed (.inr ?_) ?_)
    · show (world.persisted.erase gone)[id]? = _
      rw [Std.ExtTreeMap.getElem?_erase]
      simp [same]
    · exact (get_deleted world.store gone id).resolve_right fun found => same found.1
    · simp [StoreCall.reaches, same]
    · exact fun named => same (StoreCall.delete.inj named)

theorem matches_put (rule : world.store.refuses = refuses) (asked : world.store.asked = recent ++ since)
    (known : ∀ id, world.Matches refuses since recent id) {named : ThingId} {blob : Bytes}
    (accepted : (world.store.issue (.put named blob)).1 = .ok ()) (id : ThingId) : ({ world with
      persisted := world.persisted.insert named blob, store := (world.store.issue (.put named blob)).2 } : World).Matches
        refuses since (.put named blob :: recent) id := by
  have got := (get_accepted accepted id).trans (Medium.get_put _ _ _ _)
  by_cases same : named = id
  · subst same
    have unspurned : ¬Spurned refuses since named (.put named blob :: recent) := by
      refine spurned_reached ?_ (by simp [StoreCall.reaches])
      rcases world.store.issue_cases (.put named blob) with ⟨heard, _, _⟩ | ⟨_, refused, _⟩
      · rw [← rule, ← asked]
        exact heard
      · rw [refused] at accepted
        cases accepted
    refine ⟨fun _ => ?_, fun spurned => absurd spurned unspurned⟩
    exact Std.ExtTreeMap.getElem?_insert_self.trans (got.trans (if_pos rfl)).symm
  · refine matches_congr (known id) ?_ (got.trans (if_neg same)) (spurned_passed (.inr ?_) StoreCall.noConfusion)
    · show (world.persisted.insert named blob)[id]? = _
      rw [Std.ExtTreeMap.getElem?_insert]
      simp [same]
    · simp [StoreCall.reaches, same]

theorem accounted_wrote (accounted : world.Accounted refuses since) (wrote : Wrote world world') :
    world'.Accounted refuses since := by
  obtain ⟨rule, recent, asked, known⟩ := accounted
  have kept (call : StoreCall) : (world.store.issue call).2.refuses = refuses :=
    (Store.issue_refuses world.store call).trans rule
  have noted (call : StoreCall) : (world.store.issue call).2.asked = call :: recent ++ since :=
    (asked_issue world.store call).trans (congrArg (call :: ·) asked)
  cases wrote with
  | @deleted gone absent remembered =>
    exact ⟨kept _, _, noted _, matches_deleted rule asked known remembered⟩
  | @put named thing present accepted => exact ⟨kept _, _, noted _, matches_put rule asked known accepted⟩
  | recorded accepted =>
    refine ⟨kept _, _, noted _, fun id => matches_idle (known id) (get_recorded _ _ id) (.inr rfl) ?_⟩
    exact StoreCall.noConfusion
  | @asked call unheard idle =>
    refine ⟨kept _, _, noted _, fun id => ?_⟩
    have got : (world.store.issue call).2.get? id = world.store.get? id :=
      congrArg (fun medium => medium.get? id) unheard
    rcases idle with rfl | ⟨failed, undeleted⟩
    · exact matches_idle (known id) got (.inr rfl) StoreCall.noConfusion
    · refine matches_idle (known id) got (.inl ?_) (undeleted id)
      rcases world.store.issue_cases call with ⟨_, heard, _⟩ | ⟨refused, _, _⟩
      · rw [heard] at failed
        cases failed
      · rw [← rule, ← asked]
        exact refused
  | returned ids => exact ⟨rule, recent, asked, fun id => matches_congr (known id) rfl rfl Iff.rfl⟩

theorem accounted_writing (accounted : world.Accounted refuses since) (writing : Writing world world') :
    world'.Accounted refuses since :=
  writing_keeps (fun _ _ _ _ accounted wrote => accounted_wrote accounted wrote) writing accounted

end World
end ThingWorld
