import Mathlib.Logic.Function.Basic
import ThingWorld.Proofs.Index.Tables
namespace ThingWorld.Index

-- The number of distinct edges to a target.
def linkCount (edges : Std.ExtTreeSet Edge) (target : ThingId) : Nat :=
  (edges.filter fun edge => edge.target == target).size

theorem linkCount_insert {edges : Std.ExtTreeSet Edge} {edge : Edge} (fresh : edge ∉ edges) (target : ThingId) :
    linkCount (edges.insert edge) target = linkCount edges target + if edge.target = target then 1 else 0 := by
  have split : (edges.insert edge).filter (fun e => e.target == target) =
      if edge.target = target then (edges.filter fun e => e.target == target).insert edge
      else edges.filter fun e => e.target == target := by
    apply Std.ExtTreeSet.ext_mem
    intro e
    by_cases aimed : edge.target = target
    · by_cases same : edge = e
      · subst same
        simp [aimed, Std.ExtTreeSet.mem_insert, Std.ExtTreeSet.mem_filter]
      · simp [aimed, same, Std.ExtTreeSet.mem_insert, Std.ExtTreeSet.mem_filter]
    · by_cases same : edge = e
      · subst same
        simp [aimed, Std.ExtTreeSet.mem_insert, Std.ExtTreeSet.mem_filter]
      · simp [aimed, same, Std.ExtTreeSet.mem_insert, Std.ExtTreeSet.mem_filter]
  rw [linkCount, linkCount, split]
  by_cases aimed : edge.target = target
  · have absent : edge ∉ edges.filter fun e => e.target == target := by
      simp [Std.ExtTreeSet.mem_filter, fresh]
    simp [aimed, Std.ExtTreeSet.size_insert, absent]
  · simp [aimed]

theorem linkCount_erase {edges : Std.ExtTreeSet Edge} {edge : Edge} (held : edge ∈ edges) (target : ThingId) :
    linkCount edges target = linkCount (edges.erase edge) target + if edge.target = target then 1 else 0 := by
  have whole : (edges.erase edge).insert edge = edges := by
    apply Std.ExtTreeSet.ext_mem
    intro e
    by_cases same : edge = e
    · subst same
      simp [held]
    · simp [Std.ExtTreeSet.mem_insert, Std.ExtTreeSet.mem_erase, same]
  have gone : edge ∉ edges.erase edge := by simp [Std.ExtTreeSet.mem_erase]
  rw [← linkCount_insert gone, whole]

-- The two tables of edges, apart from the rest of the index.
structure ShowsEdges (index : Index) (edges : ThingId → Std.ExtTreeSet Edge) : Prop where
  holders : Holders index.holders fun edge id => edge ∈ edges id
  sources : Tallies index.sources fun target source => linkCount (edges source) target

theorem shows_removeEdge {index : Index} {edges : ThingId → Std.ExtTreeSet Edge} {id : ThingId} {edge : Edge}
    (shows : ShowsEdges index edges) (held : edge ∈ edges id) :
    ShowsEdges (removeEdge id index edge) (Function.update edges id ((edges id).erase edge)) := by
  refine ⟨?_, ?_⟩
  · refine holders_congr (holders_leave edge id shows.holders) ?_
    intro e i
    by_cases owner : i = id
    · subst owner
      simp [Std.ExtTreeSet.mem_erase, @eq_comm _ e edge]
    · simp [owner]
  · have counted := linkCount_erase held edge.target
    refine tallies_down edge.target id shows.sources (by simp at counted; omega) ?_
    intro t s
    by_cases owner : s = id
    · subst owner
      have fewer := linkCount_erase held t
      by_cases aimed : t = edge.target
      · subst aimed
        simp at fewer ⊢
        omega
      · simp [Ne.symm aimed] at fewer
        simp [aimed, fewer]
    · simp [owner]

theorem shows_addEdge {index : Index} {edges : ThingId → Std.ExtTreeSet Edge} {id : ThingId} {edge : Edge}
    (shows : ShowsEdges index edges) (fresh : edge ∉ edges id) :
    ShowsEdges (addEdge id index edge) (Function.update edges id ((edges id).insert edge)) := by
  refine ⟨?_, ?_⟩
  · refine holders_congr (holders_join edge id shows.holders) ?_
    intro e i
    by_cases owner : i = id
    · subst owner
      simp [Std.ExtTreeSet.mem_insert, @eq_comm _ e edge]
    · simp [owner]
  · refine tallies_up edge.target id shows.sources ?_
    intro t s
    by_cases owner : s = id
    · subst owner
      have more := linkCount_insert fresh t
      by_cases aimed : t = edge.target
      · subst aimed
        simpa using more
      · simp [Ne.symm aimed] at more
        simp [aimed, more]
    · simp [owner]

theorem shows_removeEdges {id : ThingId} {removed : List Edge} (distinct : removed.Nodup) :
    ∀ {index : Index} {edges : ThingId → Std.ExtTreeSet Edge} (rest : Std.ExtTreeSet Edge),
      ShowsEdges index edges → (∀ edge ∈ removed, edge ∈ edges id) →
      (∀ edge, edge ∈ rest ↔ edge ∈ edges id ∧ edge ∉ removed) →
      ShowsEdges (removed.foldl (removeEdge id) index) (Function.update edges id rest) := by
  induction removed with
  | nil =>
    intro index edges rest shows _ kept
    have same : rest = edges id := by
      apply Std.ExtTreeSet.ext_mem
      intro edge
      simp [kept]
    rw [same, Function.update_eq_self]
    exact shows
  | cons first others ih =>
    intro index edges rest shows held kept
    obtain ⟨new, distinct⟩ := List.nodup_cons.mp distinct
    have step := shows_removeEdge shows (held first List.mem_cons_self)
    have tail := ih distinct rest step ?_ ?_
    · simpa using tail
    · intro edge member
      have other : first ≠ edge := by
        rintro rfl
        exact new member
      simp [Std.ExtTreeSet.mem_erase, other, held edge (List.mem_cons_of_mem _ member)]
    · intro edge
      rw [kept]
      by_cases same : first = edge
      · subst same
        simp [Std.ExtTreeSet.mem_erase]
      · simp [Std.ExtTreeSet.mem_erase, same, Ne.symm same]

theorem shows_addEdges {id : ThingId} {added : List Edge} (distinct : added.Nodup) :
    ∀ {index : Index} {edges : ThingId → Std.ExtTreeSet Edge} (whole : Std.ExtTreeSet Edge),
      ShowsEdges index edges → (∀ edge ∈ added, edge ∉ edges id) →
      (∀ edge, edge ∈ whole ↔ edge ∈ edges id ∨ edge ∈ added) →
      ShowsEdges (added.foldl (addEdge id) index) (Function.update edges id whole) := by
  induction added with
  | nil =>
    intro index edges whole shows _ all
    have same : whole = edges id := by
      apply Std.ExtTreeSet.ext_mem
      intro edge
      simp [all]
    rw [same, Function.update_eq_self]
    exact shows
  | cons first others ih =>
    intro index edges whole shows fresh all
    obtain ⟨new, distinct⟩ := List.nodup_cons.mp distinct
    have step := shows_addEdge shows (fresh first List.mem_cons_self)
    have tail := ih distinct whole step ?_ ?_
    · simpa using tail
    · intro edge member
      have other : first ≠ edge := by
        rintro rfl
        exact new member
      simp [Std.ExtTreeSet.mem_insert, other, fresh edge (List.mem_cons_of_mem _ member)]
    · intro edge
      rw [all]
      by_cases same : first = edge
      · subst same
        simp [Std.ExtTreeSet.mem_insert]
      · simp [Std.ExtTreeSet.mem_insert, same, Ne.symm same]

structure Reflects (index : Index) (states : ThingId → Indexed) : Prop where
  edges : ShowsEdges index fun id => (states id).edges
  instances : Buckets index.instances fun prototype id => (states id).prototype = some prototype
  everywhere : ∀ id, id ∈ index.everywhere ↔ (states id).everywhere = true
  indexed : ∀ id, index.indexed[id]? = if states id = .nothing then none else some (states id)

theorem reflects_empty : Reflects .empty fun _ => .nothing := by
  refine ⟨⟨?_, ?_⟩, ?_, ?_, ?_⟩
  · refine holders_congr holders_empty ?_
    intro edge id
    simp [Indexed.nothing]
  · refine tallies_congr tallies_empty ?_
    intro target source
    rfl
  · refine buckets_congr buckets_empty ?_
    intro prototype id
    simp [Indexed.nothing]
  · intro id
    simp [empty, Indexed.nothing]
  · intro id
    simp [empty]

theorem reflects_unique {index index' : Index} {states : ThingId → Indexed} (one : Reflects index states)
    (other : Reflects index' states) : index = index' := by
  have holders := holders_unique one.edges.holders other.edges.holders
  have sources := tallies_unique one.edges.sources other.edges.sources
  have instances := buckets_unique one.instances other.instances
  have everywhere : index.everywhere = index'.everywhere := by
    apply Std.ExtTreeSet.ext_mem
    intro id
    rw [one.everywhere, other.everywhere]
  have indexed : index.indexed = index'.indexed := by
    apply Std.ExtTreeMap.ext_getElem?
    intro id
    rw [one.indexed, other.indexed]
  cases index
  cases index'
  simp_all

theorem stateOf_reflected {index : Index} {states : ThingId → Indexed} (reflects : Reflects index states)
    (id : ThingId) : index.stateOf id = states id := by
  rw [stateOf, reflects.indexed]
  by_cases nothing : states id = .nothing <;> simp [nothing]

theorem foldl_keeps {β : Type} (view : Index → β) (step : Index → Edge → Index)
    (keeps : ∀ index edge, view (step index edge) = view index) (edges : List Edge) (index : Index) :
    view (edges.foldl step index) = view index := by
  induction edges generalizing index with
  | nil => rfl
  | cons edge rest ih => exact (ih (step index edge)).trans (keeps index edge)

theorem instances_movePrototype {index : Index} {prototypes : ThingId → Option ThingId}
    (shows : Buckets index.instances fun prototype id => prototypes id = some prototype) (id : ThingId)
    (next : Option ThingId) :
    Buckets (movePrototype id (prototypes id) next index).instances
      fun prototype i => Function.update prototypes id next i = some prototype := by
  have left : Buckets (leavePrototype id (prototypes id) index).instances
      fun prototype i => ¬i = id ∧ prototypes i = some prototype := by
    cases old : prototypes id with
    | none =>
      refine buckets_congr shows ?_
      intro prototype i
      by_cases owner : i = id
      · simp [owner, old]
      · simp [owner]
    | some gone =>
      refine buckets_congr (buckets_leave gone id shows) ?_
      intro prototype i
      by_cases owner : i = id
      · simp [owner, old, @eq_comm _ gone prototype]
      · simp [owner]
  rw [movePrototype]
  split
  · rename_i same
    refine buckets_congr shows ?_
    intro prototype i
    by_cases owner : i = id
    · subst owner
      simp [same]
    · simp [owner]
  · cases next with
    | none =>
      refine buckets_congr left ?_
      intro prototype i
      by_cases owner : i = id <;> simp [owner]
    | some new =>
      refine buckets_congr (buckets_join new id left) ?_
      intro prototype i
      by_cases owner : i = id
      · simp [owner, eq_comm]
      · simp [owner]

-- The two folds touch only the tables of edges, the move only the instances.
theorem edges_movePrototype (id : ThingId) (old new : Option ThingId) (index : Index) :
    (movePrototype id old new index).holders = index.holders ∧
      (movePrototype id old new index).sources = index.sources ∧
      (movePrototype id old new index).everywhere = index.everywhere ∧
      (movePrototype id old new index).indexed = index.indexed := by
  rw [movePrototype]
  split
  · exact ⟨rfl, rfl, rfl, rfl⟩
  · cases old <;> cases new <;> exact ⟨rfl, rfl, rfl, rfl⟩

theorem reflects_apply {index : Index} {states : ThingId → Indexed} (reflects : Reflects index states) (id : ThingId)
    (next : Indexed) : Reflects (index.apply id next) (Function.update states id next) := by
  have before := stateOf_reflected reflects id
  rw [apply]
  simp only [before]
  split
  · rename_i same
    rw [← same, Function.update_eq_self]
    exact reflects
  · have distinct (one other : Std.ExtTreeSet Edge) : (one \ other).toList.Nodup :=
      List.Pairwise.imp (fun {_ _} differ same => differ (by simp [same])) (Std.ExtTreeSet.distinct_toList)
    let middle := ((states id).edges \ next.edges).toList.foldl (removeEdge id) index
    let last := (next.edges \ (states id).edges).toList.foldl (addEdge id) middle
    have removed : ShowsEdges middle
        (Function.update (fun i => (states i).edges) id ((states id).edges \ ((states id).edges \ next.edges))) := by
      refine shows_removeEdges (distinct _ _) _ reflects.edges ?_ ?_
      · intro edge member
        simp only [Std.ExtTreeSet.mem_toList, Std.ExtTreeSet.mem_diff_iff] at member
        exact member.1
      · intro edge
        simp [Std.ExtTreeSet.mem_toList, Std.ExtTreeSet.mem_diff_iff]
    have added : ShowsEdges last (Function.update (fun i => (states i).edges) id next.edges) := by
      have step : ShowsEdges last (Function.update (Function.update (fun i => (states i).edges) id
          ((states id).edges \ ((states id).edges \ next.edges))) id next.edges) := by
        refine shows_addEdges (distinct _ _) _ removed ?_ ?_
        · intro edge member
          simp only [Std.ExtTreeSet.mem_toList, Std.ExtTreeSet.mem_diff_iff] at member
          simp [Std.ExtTreeSet.mem_diff_iff, member.2]
        · intro edge
          by_cases old : edge ∈ (states id).edges <;> simp [old, Std.ExtTreeSet.mem_diff_iff]
      simpa using step
    have instances : last.instances = index.instances :=
      (foldl_keeps instances (addEdge id) (fun _ _ => rfl) _ _).trans
        (foldl_keeps instances (removeEdge id) (fun _ _ => rfl) _ _)
    have everywhere : last.everywhere = index.everywhere :=
      (foldl_keeps everywhere (addEdge id) (fun _ _ => rfl) _ _).trans
        (foldl_keeps everywhere (removeEdge id) (fun _ _ => rfl) _ _)
    have indexed : last.indexed = index.indexed :=
      (foldl_keeps indexed (addEdge id) (fun _ _ => rfl) _ _).trans
        (foldl_keeps indexed (removeEdge id) (fun _ _ => rfl) _ _)
    obtain ⟨holders', sources', everywhere', indexed'⟩ :=
      edges_movePrototype id (states id).prototype next.prototype last
    refine ⟨⟨?_, ?_⟩, ?_, ?_, ?_⟩
    · show Holders (movePrototype id (states id).prototype next.prototype last).holders _
      rw [holders']
      refine holders_congr added.holders ?_
      intro edge i
      by_cases owner : i = id <;> simp [owner]
    · show Tallies (movePrototype id (states id).prototype next.prototype last).sources _
      rw [sources']
      refine tallies_congr added.sources ?_
      intro target source
      by_cases owner : source = id <;> simp [owner]
    · have shows : Buckets last.instances fun prototype i => (states i).prototype = some prototype := by
        rw [instances]
        exact reflects.instances
      refine buckets_congr (instances_movePrototype shows id next.prototype) ?_
      intro prototype i
      by_cases owner : i = id <;> simp [owner]
    · intro i
      show (i ∈ if next.everywhere then
          (movePrototype id (states id).prototype next.prototype last).everywhere.insert id
        else (movePrototype id (states id).prototype next.prototype last).everywhere.erase id) ↔ _
      rw [everywhere', everywhere]
      by_cases owner : id = i
      · subst owner
        by_cases offered : next.everywhere <;> simp [offered]
      · by_cases offered : next.everywhere <;>
          simp [offered, owner, Ne.symm owner, reflects.everywhere, Std.ExtTreeSet.mem_insert,
            Std.ExtTreeSet.mem_erase]
    · intro i
      show (if next = .nothing then
          (movePrototype id (states id).prototype next.prototype last).indexed.erase id
        else (movePrototype id (states id).prototype next.prototype last).indexed.insert id next)[i]? = _
      rw [indexed', indexed]
      by_cases owner : id = i
      · subst owner
        by_cases nothing : next = .nothing <;> simp [nothing]
      · by_cases nothing : next = .nothing <;>
          simp [nothing, owner, Ne.symm owner, reflects.indexed, Std.ExtTreeMap.getElem?_erase,
            Std.ExtTreeMap.getElem?_insert]

end ThingWorld.Index
