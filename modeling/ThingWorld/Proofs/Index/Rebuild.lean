import Mathlib.Data.List.Dedup
import Mathlib.Data.List.Perm.Basic
import ThingWorld.Proofs.Index.Reflection
namespace ThingWorld.Index

-- An answer of the index: every id that stands is given once, ascending.
structure Lists (ids : List ThingId) (stands : ThingId → Prop) : Prop where
  ascending : ids.Pairwise (· < ·)
  members : ∀ id, id ∈ ids ↔ stands id

-- The names under which a thing points at a target, each once.
def namesTo (thing : Thing) (target : ThingId) : List String :=
  ((thing.edges.filter fun edge => edge.target == target).map Edge.property).dedup

-- What a scan of the things answers, the index answers; and building it anew in any order gives the same index.
structure Current (index : Index) (things : Std.ExtTreeMap ThingId Thing) : Prop where
  rebuilt : ∀ order : List Thing, order.Perm things.values → rebuild order = index
  associated : ∀ property target, Lists (index.associated property target)
    fun id => ∃ thing, things[id]? = some thing ∧ ⟨property, target⟩ ∈ thing.edges
  allAssociated : ∀ target, Lists (index.allAssociated target)
    fun id => ∃ thing, things[id]? = some thing ∧ ∃ edge ∈ thing.edges, edge.target = target
  counted : ∀ target id,
    stored? index.sources target id =
      present ((things[id]?.map fun thing => (namesTo thing target).length).getD 0)
  instancesOf : ∀ prototype, Lists (index.instancesOf prototype)
    fun id => ∃ thing, things[id]? = some thing ∧ thing.prototype = some prototype
  offeredEverywhere : Lists index.offeredEverywhere
    fun id => ∃ thing, things[id]? = some thing ∧ thing.ownFlag Property.everywhere = true

-- What the index is to show for an id.
def stateAmong (things : Std.ExtTreeMap ThingId Thing) (id : ThingId) : Indexed :=
  (things[id]?.map Indexed.of).getD .nothing

def Keyed (things : Std.ExtTreeMap ThingId Thing) : Prop :=
  ∀ (id : ThingId) (thing : Thing), things[id]? = some thing → thing.id = id

theorem ascending_keys {β : Type} (table : Std.ExtTreeMap ThingId β) : table.keys.Pairwise (· < ·) := by
  refine (Std.ExtTreeMap.ordered_keys (t := table)).imp ?_
  intro a b before
  exact Std.compare_eq_lt.mp before

theorem lists_bucket {κ : Type} [Ord κ] [Std.TransOrd κ] {table : Std.ExtTreeMap κ IdSet}
    {stands : κ → ThingId → Prop} (shows : Buckets table stands) (key : κ) :
    Lists (bucket key table) (stands key) :=
  ⟨ascending_toList _, fun id => mem_bucket shows key id⟩

theorem values_map {κ β : Type} [Ord κ] [Std.TransOrd κ] (table : Std.ExtTreeMap κ β) :
    table.values = table.toList.map Prod.snd := by
  have folded : table.values = table.foldr (fun _ value rest => value :: rest) [] := by
    obtain ⟨inner⟩ := table
    induction inner using Std.ExtDTreeMap.inductionOn with
    | _ t => rfl
  rw [folded, Std.ExtTreeMap.foldr_eq_foldr_toList]
  induction table.toList with
  | nil => rfl
  | cons entry rest ih => simp [ih]

theorem mem_values {κ β : Type} [Ord κ] [Std.TransOrd κ] [Std.LawfulEqOrd κ] (table : Std.ExtTreeMap κ β)
    (value : β) : value ∈ table.values ↔ ∃ key : κ, table[key]? = some value := by
  rw [values_map]
  simp [Std.ExtTreeMap.mem_toList_iff_getElem?_eq_some]

theorem keyed_values {things : Std.ExtTreeMap ThingId Thing} (keyed : Keyed things) :
    (things.values.map Thing.id).Nodup := by
  have keys : things.values.map Thing.id = things.toList.map Prod.fst := by
    rw [values_map, List.map_map]
    refine List.map_congr_left ?_
    rintro ⟨id, thing⟩ member
    exact keyed id thing (Std.ExtTreeMap.mem_toList_iff_getElem?_eq_some.mp member)
  rw [keys, Std.ExtTreeMap.map_fst_toList_eq_keys]
  exact (ascending_keys things).imp fun before => UInt64.ne_of_lt before

theorem distinct_edges (edges : Std.ExtTreeSet Edge) : edges.toList.Nodup :=
  List.Pairwise.imp (fun {_ _} differ same => differ (by simp [same])) (Std.ExtTreeSet.distinct_toList)

theorem linkCount_edgeSet (thing : Thing) (target : ThingId) :
    linkCount thing.edgeSet target = (namesTo thing target).length := by
  have aimed (edge : Edge) : edge ∈ (thing.edgeSet.filter fun edge => edge.target == target).toList ↔
      edge ∈ thing.edges ∧ edge.target = target := by
    simp [Thing.edgeSet, Std.ExtTreeSet.mem_filter]
  have distinct : ((thing.edgeSet.filter fun edge => edge.target == target).toList.map Edge.property).Nodup := by
    refine List.Nodup.map_on ?_ (distinct_edges _)
    rintro ⟨property, aim⟩ member ⟨property', aim'⟩ member' same
    have one := ((aimed _).mp member).2
    have other := ((aimed _).mp member').2
    simp_all
  rw [linkCount, ← Std.ExtTreeSet.length_toList, ← List.length_map Edge.property]
  refine ((List.perm_ext_iff_of_nodup distinct (List.nodup_dedup _)).mpr ?_).length_eq
  intro property
  simp [aimed]

-- A rebuilt index is right for some states, whatever ids the things carry.
theorem rebuild_reflects (things : List Thing) : ∃ states, Reflects (rebuild things) states := by
  have run (rest : List Thing) : ∀ (index : Index) (states : ThingId → Indexed), Reflects index states →
      ∃ states, Reflects (rest.foldl reindex index) states := by
    induction rest with
    | nil => exact fun index states reflects => ⟨states, reflects⟩
    | cons thing rest ih => exact fun index states reflects => ih _ _ (reflects_apply reflects thing.id (.of thing))
  exact run things .empty _ reflects_empty

-- A list of things with different ids says at most one thing about an id.
def stateIn (things : List Thing) (id : ThingId) : Indexed :=
  ((things.find? fun thing => thing.id == id).map Indexed.of).getD .nothing

theorem reflects_rebuild (things : List Thing) (distinct : (things.map Thing.id).Nodup) :
    Reflects (rebuild things) (stateIn things) := by
  have run (rest : List Thing) : ∀ (index : Index) (states : ThingId → Indexed), (rest.map Thing.id).Nodup →
      Reflects index states → Reflects (rest.foldl reindex index)
        fun id => ((rest.find? fun thing => thing.id == id).map Indexed.of).getD (states id) := by
    induction rest with
    | nil =>
      intro index states _ reflects
      exact reflects
    | cons thing rest ih =>
      intro index states distinct reflects
      obtain ⟨new, distinct⟩ := List.nodup_cons.mp distinct
      have step := ih _ _ distinct (reflects_apply reflects thing.id (.of thing))
      refine cast ?_ step
      congr 1
      funext id
      by_cases owner : thing.id = id
      · subst owner
        have absent : rest.find? (fun other => other.id == thing.id) = none := by
          rw [List.find?_eq_none]
          intro other member same
          exact new (List.mem_map.mpr ⟨other, member, by simpa using same⟩)
        simp [absent]
      · simp [owner, Ne.symm owner]
  exact run things .empty (fun _ => .nothing) distinct reflects_empty

theorem stateIn_values {things : Std.ExtTreeMap ThingId Thing} (keyed : Keyed things) {order : List Thing}
    (permuted : order.Perm things.values) : stateIn order = stateAmong things := by
  funext id
  have distinct : (order.map Thing.id).Nodup := (permuted.map Thing.id).nodup_iff.mpr (keyed_values keyed)
  have members (thing : Thing) : thing ∈ order ↔ things[thing.id]? = some thing := by
    rw [permuted.mem_iff, mem_values]
    refine ⟨?_, fun found => ⟨thing.id, found⟩⟩
    rintro ⟨key, found⟩
    rwa [keyed key thing found]
  rw [stateIn, stateAmong]
  cases found : things[id]? with
  | none =>
    have absent : order.find? (fun thing => thing.id == id) = none := by
      rw [List.find?_eq_none]
      intro thing member same
      have held := (members thing).mp member
      rw [beq_iff_eq.mp same, found] at held
      cases held
    rw [absent]
  | some thing =>
    obtain rfl := keyed id thing found
    have present : order.find? (fun other => other.id == thing.id) = some thing := by
      cases first : order.find? (fun other => other.id == thing.id) with
      | none =>
        have never := List.find?_eq_none.mp first thing ((members thing).mpr found)
        simp at never
      | some other =>
        have held := (members other).mp (List.mem_of_find?_eq_some first)
        have same : other.id = thing.id := by simpa using List.find?_some first
        rw [same, found] at held
        exact held.symm
    rw [present]

theorem current_of_reflects {index : Index} {things : Std.ExtTreeMap ThingId Thing} (keyed : Keyed things)
    (reflects : Reflects index (stateAmong things)) : Current index things := by
  refine ⟨?_, ?_, ?_, ?_, ?_, ?_⟩
  · intro order permuted
    have distinct : (order.map Thing.id).Nodup := (permuted.map Thing.id).nodup_iff.mpr (keyed_values keyed)
    have built := reflects_rebuild order distinct
    rw [stateIn_values keyed permuted] at built
    exact reflects_unique built reflects
  · intro property target
    refine ⟨(lists_bucket (reflects.edges.holders.shown property) target).ascending, ?_⟩
    intro id
    rw [mem_associated reflects.edges.holders, stateAmong]
    cases things[id]? with
    | none => simp [Indexed.nothing]
    | some thing => simp [Indexed.of, Thing.edgeSet]
  · intro target
    refine ⟨ascending_keys _, ?_⟩
    intro id
    rw [allAssociated, mem_sources reflects.edges.sources, stateAmong]
    cases things[id]? with
    | none =>
      have none : linkCount Indexed.nothing.edges target = 0 := rfl
      simp [none]
    | some thing =>
      simp only [Option.map_some, Option.getD_some, Indexed.of, linkCount_edgeSet, List.length_pos_iff_exists_mem]
      simp [namesTo]
  · intro target id
    rw [reflects.edges.sources.shown, stateAmong]
    cases things[id]? with
    | none => rfl
    | some thing => simp [Indexed.of, linkCount_edgeSet]
  · intro prototype
    refine ⟨(lists_bucket reflects.instances _).ascending, ?_⟩
    intro id
    rw [instancesOf, mem_bucket reflects.instances, stateAmong]
    cases things[id]? with
    | none => simp [Indexed.nothing]
    | some thing => simp [Indexed.of]
  · refine ⟨ascending_toList _, ?_⟩
    intro id
    rw [offeredEverywhere, Std.ExtTreeSet.mem_toList, reflects.everywhere, stateAmong]
    cases things[id]? with
    | none => simp [Indexed.nothing]
    | some thing => simp [Indexed.of]

inductive Call where
  | reindex (thing : Thing)
  | remove (id : ThingId)

namespace Call

def id : Call → ThingId
  | reindex thing => thing.id
  | remove id => id

def next : Call → Indexed
  | reindex thing => .of thing
  | remove _ => .nothing

def run (index : Index) : Call → Index
  | reindex thing => index.reindex thing
  | remove id => index.remove id

-- What was last reindexed and not removed since.
def note (things : Std.ExtTreeMap ThingId Thing) : Call → Std.ExtTreeMap ThingId Thing
  | reindex thing => things.insert thing.id thing
  | remove id => things.erase id

-- The edges the call takes away, in the order in which it does.
def taken (index : Index) (call : Call) : List Edge :=
  ((index.stateOf call.id).edges \ call.next.edges).toList

theorem run_apply (index : Index) (call : Call) : run index call = index.apply call.id call.next := by
  cases call <;> rfl

theorem keyed_note {things : Std.ExtTreeMap ThingId Thing} (keyed : Keyed things) (call : Call) :
    Keyed (note things call) := by
  intro id thing found
  cases call with
  | reindex other =>
    rw [note, Std.ExtTreeMap.getElem?_insert] at found
    by_cases same : other.id = id
    · simp only [same, Std.compare_self, ↓reduceIte, Option.some.injEq] at found
      rw [← found, same]
    · simp [same] at found
      exact keyed id thing found
  | remove gone =>
    rw [note, Std.ExtTreeMap.getElem?_erase] at found
    by_cases same : gone = id
    · simp [same] at found
    · simp [same] at found
      exact keyed id thing found

theorem stateAmong_note (things : Std.ExtTreeMap ThingId Thing) (call : Call) :
    stateAmong (note things call) = Function.update (stateAmong things) call.id call.next := by
  funext id
  rw [Function.update_apply]
  cases call with
  | reindex thing =>
    by_cases same : thing.id = id
    · simp [stateAmong, note, next, Call.id, same]
    · simp [stateAmong, note, Call.id, same, Ne.symm same, Std.ExtTreeMap.getElem?_insert]
  | remove gone =>
    by_cases same : gone = id
    · simp [stateAmong, note, next, Call.id, same]
    · simp [stateAmong, note, Call.id, same, Ne.symm same, Std.ExtTreeMap.getElem?_erase]

theorem reflects_run {index : Index} {things : Std.ExtTreeMap ThingId Thing}
    (reflects : Reflects index (stateAmong things)) (call : Call) :
    Reflects (run index call) (stateAmong (note things call)) := by
  rw [run_apply, stateAmong_note]
  exact reflects_apply reflects call.id call.next

theorem reflects_calls (calls : List Call) : ∀ {index : Index} {things : Std.ExtTreeMap ThingId Thing},
    Keyed things → Reflects index (stateAmong things) →
      Keyed (calls.foldl note things) ∧ Reflects (calls.foldl run index) (stateAmong (calls.foldl note things)) := by
  induction calls with
  | nil =>
    intro index things keyed reflects
    exact ⟨keyed, reflects⟩
  | cons call rest ih =>
    intro index things keyed reflects
    exact ih (keyed_note keyed call) (reflects_run reflects call)

-- A count is looked up only while the edge it counts is still there, so it never runs below zero.
theorem counted_taken {index : Index} {states : ThingId → Indexed} (reflects : Reflects index states) {call : Call}
    {before after : List Edge} {edge : Edge} (order : taken index call = before ++ edge :: after) :
    ∃ n, stored? (before.foldl (removeEdge call.id) index).sources edge.target call.id = some (n + 1) := by
  have distinct : (before ++ edge :: after).Nodup := order ▸ distinct_edges _
  obtain ⟨distinctBefore, _, apart⟩ := List.nodup_append.mp distinct
  have held (other : Edge) (member : other ∈ before ++ edge :: after) : other ∈ (states call.id).edges := by
    rw [← order, taken, stateOf_reflected reflects, Std.ExtTreeSet.mem_toList, Std.ExtTreeSet.mem_diff_iff] at member
    exact member.1
  let rest := (states call.id).edges.filter fun other => !before.contains other
  have shows := shows_removeEdges distinctBefore rest reflects.edges
    (fun other member => held other (List.mem_append_left _ member))
    (fun other => by simp [rest, Std.ExtTreeSet.mem_filter])
  have left : edge ∈ rest := by
    have new : edge ∉ before := fun member => apart edge member edge List.mem_cons_self rfl
    simp [rest, Std.ExtTreeSet.mem_filter, new, held edge (by simp)]
  have number := linkCount_erase left edge.target
  simp only [↓reduceIte] at number
  refine ⟨linkCount (rest.erase edge) edge.target, ?_⟩
  rw [shows.sources.shown, Function.update_self, number]
  simp [present]

theorem changes_iff {index : Index} {things : Std.ExtTreeMap ThingId Thing}
    (reflects : Reflects index (stateAmong things)) (call : Call) :
    index.changes call.id call.next = true ↔ stateAmong (note things call) call.id ≠ stateAmong things call.id := by
  rw [changes, stateOf_reflected reflects, stateAmong_note, Function.update_self, bne_iff_ne, ne_comm]

theorem run_unchanged {index : Index} {call : Call} (unchanged : index.changes call.id call.next = false) :
    run index call = index := by
  have same : index.stateOf call.id = call.next := by simpa [changes] using unchanged
  simp [run_apply, apply, same]

end Call

theorem calls_keep_index_current (calls : List Call) :
    Current (calls.foldl Call.run .empty) (calls.foldl Call.note ∅) ∧
    ∀ call : Call,
      ((calls.foldl Call.run .empty).changes call.id call.next = true ↔
        stateAmong ((calls ++ [call]).foldl Call.note ∅) call.id ≠ stateAmong (calls.foldl Call.note ∅) call.id) ∧
      ((calls.foldl Call.run .empty).changes call.id call.next = false →
        (calls ++ [call]).foldl Call.run .empty = calls.foldl Call.run .empty) ∧
      ∀ before edge after, Call.taken (calls.foldl Call.run .empty) call = before ++ edge :: after →
        ∃ n, stored? (before.foldl (removeEdge call.id) (calls.foldl Call.run .empty)).sources edge.target call.id =
          some (n + 1) := by
  have start : Reflects .empty (stateAmong ∅) := by
    refine cast ?_ reflects_empty
    congr 1
  have unfilled : Keyed ∅ := by
    intro id thing found
    simp at found
  obtain ⟨keyed, reflects⟩ := Call.reflects_calls calls unfilled start
  refine ⟨current_of_reflects keyed reflects, ?_⟩
  intro call
  refine ⟨?_, ?_, ?_⟩
  · rw [List.foldl_append]
    exact Call.changes_iff reflects call
  · intro unchanged
    rw [List.foldl_append]
    exact Call.run_unchanged unchanged
  · intro before edge after order
    exact Call.counted_taken reflects order

end ThingWorld.Index
