import ThingWorld.Index
namespace ThingWorld.Index

theorem ascending_toList (ids : IdSet) : ids.toList.Pairwise (· < ·) := by
  refine (Std.ExtTreeSet.ordered_toList (t := ids)).imp ?_
  intro a b before
  exact Std.compare_eq_lt.mp before

theorem nodup_toList (ids : IdSet) : ids.toList.Nodup :=
  (ascending_toList ids).imp fun before => UInt64.ne_of_lt before

section Buckets

variable {κ : Type} [Ord κ] [Std.TransOrd κ]

-- Which ids stand under which key; that no bucket is empty is a part of it.
structure Buckets (table : Std.ExtTreeMap κ IdSet) (stands : κ → ThingId → Prop) : Prop where
  shown : ∀ (key : κ) (id : ThingId), id ∈ table[key]?.getD ∅ ↔ stands key id
  filled : ∀ (key : κ) (ids : IdSet), table[key]? = some ids → ids ≠ ∅

theorem buckets_empty : Buckets (∅ : Std.ExtTreeMap κ IdSet) fun _ _ => False := by
  refine ⟨?_, ?_⟩
  · intro key id
    simp
  · intro key ids found
    simp at found

theorem buckets_congr {table : Std.ExtTreeMap κ IdSet} {stands stands' : κ → ThingId → Prop}
    (shows : Buckets table stands) (same : ∀ key id, stands key id ↔ stands' key id) : Buckets table stands' :=
  ⟨fun key id => (shows.shown key id).trans (same key id), shows.filled⟩

theorem mem_bucket {table : Std.ExtTreeMap κ IdSet} {stands : κ → ThingId → Prop} (shows : Buckets table stands)
    (key : κ) (id : ThingId) : id ∈ bucket key table ↔ stands key id := by
  rw [bucket, Std.ExtTreeSet.mem_toList, shows.shown]

variable [Std.LawfulEqOrd κ]

theorem buckets_join {table : Std.ExtTreeMap κ IdSet} {stands : κ → ThingId → Prop} (key : κ) (id : ThingId)
    (shows : Buckets table stands) :
    Buckets (join key id table) fun k i => (k = key ∧ i = id) ∨ stands k i := by
  refine ⟨?_, ?_⟩
  · intro k i
    rw [join, Std.ExtTreeMap.getElem?_alter]
    by_cases same : key = k
    · subst same
      simp [Std.ExtTreeSet.mem_insert, shows.shown, @eq_comm _ i id]
    · simp [same, Ne.symm same, shows.shown]
  · intro k ids found
    rw [join, Std.ExtTreeMap.getElem?_alter] at found
    by_cases same : key = k
    · subst same
      simp only [Std.compare_self, ↓reduceIte, Option.some.injEq] at found
      rintro rfl
      have present : id ∈ (table[key]?.getD ∅).insert id := Std.ExtTreeSet.mem_insert_self
      rw [found] at present
      exact Std.ExtTreeSet.not_mem_empty present
    · simp [same] at found
      exact shows.filled k ids found

theorem buckets_leave {table : Std.ExtTreeMap κ IdSet} {stands : κ → ThingId → Prop} (key : κ) (id : ThingId)
    (shows : Buckets table stands) :
    Buckets (leave key id table) fun k i => ¬(k = key ∧ i = id) ∧ stands k i := by
  refine ⟨?_, ?_⟩
  · intro k i
    rw [leave, Std.ExtTreeMap.getElem?_alter]
    by_cases same : key = k
    · subst same
      have kept : i ∈ (table[key]?.getD ∅).erase id ↔ ¬i = id ∧ stands key i := by
        simp [Std.ExtTreeSet.mem_erase, shows.shown, @eq_comm _ i id]
      simp only [Std.compare_self, ↓reduceIte, true_and]
      rw [← kept]
      split
      · rename_i empty
        rw [Std.ExtTreeSet.isEmpty_iff.mp empty]
        rfl
      · rfl
    · simp [same, Ne.symm same, shows.shown]
  · intro k ids found
    rw [leave, Std.ExtTreeMap.getElem?_alter] at found
    by_cases same : key = k
    · subst same
      simp only [Std.compare_self, ↓reduceIte] at found
      split at found
      · cases found
      · rename_i full
        cases found
        rwa [Std.ExtTreeSet.isEmpty_iff] at full
    · simp [same] at found
      exact shows.filled k ids found

theorem buckets_unique {table table' : Std.ExtTreeMap κ IdSet} {stands : κ → ThingId → Prop}
    (shows : Buckets table stands) (shows' : Buckets table' stands) : table = table' := by
  apply Std.ExtTreeMap.ext_getElem?
  intro key
  have members : table[key]?.getD ∅ = table'[key]?.getD ∅ := by
    apply Std.ExtTreeSet.ext_mem
    intro id
    rw [shows.shown, shows'.shown]
  cases found : table[key]? with
  | none =>
    cases found' : table'[key]? with
    | none => rfl
    | some ids =>
      simp only [found, found', Option.getD_none, Option.getD_some] at members
      exact absurd members.symm (shows'.filled key ids found')
  | some ids =>
    cases found' : table'[key]? with
    | none =>
      simp only [found, found', Option.getD_none, Option.getD_some] at members
      exact absurd members (shows.filled key ids found)
    | some ids' =>
      simp only [found, found', Option.getD_some] at members
      rw [members]

end Buckets

section Holders

-- Which ids stand under a property and a target, with no property without targets.
structure Holders (table : Std.ExtTreeMap String (Std.ExtTreeMap ThingId IdSet)) (stands : Edge → ThingId → Prop) :
    Prop where
  shown : ∀ property, Buckets (table[property]?.getD ∅) fun target => stands ⟨property, target⟩
  filled : ∀ (property : String) (targets : Std.ExtTreeMap ThingId IdSet), table[property]? = some targets → targets ≠ ∅

variable {table table' : Std.ExtTreeMap String (Std.ExtTreeMap ThingId IdSet)} {stands stands' : Edge → ThingId → Prop}

theorem holders_empty : Holders ∅ fun _ _ => False := by
  refine ⟨fun property => ?_, fun property targets found => ?_⟩
  · simpa using buckets_empty
  · simp at found

theorem holders_congr (shows : Holders table stands) (same : ∀ edge id, stands edge id ↔ stands' edge id) :
    Holders table stands' :=
  ⟨fun property => buckets_congr (shows.shown property) fun target => same ⟨property, target⟩, shows.filled⟩

theorem holders_join (edge : Edge) (id : ThingId) (shows : Holders table stands) :
    Holders (joinEdge edge id table) fun e i => (e = edge ∧ i = id) ∨ stands e i := by
  obtain ⟨property, target⟩ := edge
  have joined := buckets_join target id (shows.shown property)
  refine ⟨fun other => ?_, fun other targets found => ?_⟩
  · unfold joinEdge
    rw [Std.ExtTreeMap.getElem?_alter]
    by_cases same : property = other
    · subst same
      simpa using joined
    · simpa [same, Ne.symm same] using shows.shown other
  · unfold joinEdge at found
    rw [Std.ExtTreeMap.getElem?_alter] at found
    by_cases same : property = other
    · simp only [same, Std.compare_self, ↓reduceIte, Option.some.injEq] at found
      rintro rfl
      have stands := (joined.shown target id).mpr (.inl ⟨rfl, rfl⟩)
      rw [same, found] at stands
      simp at stands
    · simp [same] at found
      exact shows.filled other targets found

theorem holders_leave (edge : Edge) (id : ThingId) (shows : Holders table stands) :
    Holders (leaveEdge edge id table) fun e i => ¬(e = edge ∧ i = id) ∧ stands e i := by
  obtain ⟨property, target⟩ := edge
  have left := buckets_leave target id (shows.shown property)
  refine ⟨fun other => ?_, fun other targets found => ?_⟩
  · unfold leaveEdge
    rw [Std.ExtTreeMap.getElem?_alter]
    by_cases same : property = other
    · subst same
      have kept : (if (leave target id (table[property]?.getD ∅)).isEmpty then none
          else some (leave target id (table[property]?.getD ∅))).getD ∅ = leave target id (table[property]?.getD ∅) := by
        split
        · rename_i empty
          exact (Std.ExtTreeMap.isEmpty_iff.mp empty).symm
        · rfl
      simp only [Std.compare_self, ↓reduceIte, kept]
      exact buckets_congr left fun t i => by simp
    · simpa [same, Ne.symm same] using shows.shown other
  · unfold leaveEdge at found
    rw [Std.ExtTreeMap.getElem?_alter] at found
    by_cases same : property = other
    · simp only [same, Std.compare_self, ↓reduceIte] at found
      split at found
      · cases found
      · rename_i full
        cases found
        rwa [Std.ExtTreeMap.isEmpty_iff] at full
    · simp [same] at found
      exact shows.filled other targets found

theorem holders_unique (shows : Holders table stands) (shows' : Holders table' stands) : table = table' := by
  apply Std.ExtTreeMap.ext_getElem?
  intro property
  have targets := buckets_unique (shows.shown property) (shows'.shown property)
  cases found : table[property]? with
  | none =>
    cases found' : table'[property]? with
    | none => rfl
    | some listed =>
      simp only [found, found', Option.getD_none, Option.getD_some] at targets
      exact absurd targets.symm (shows'.filled property listed found')
  | some listed =>
    cases found' : table'[property]? with
    | none =>
      simp only [found, found', Option.getD_none, Option.getD_some] at targets
      exact absurd targets (shows.filled property listed found)
    | some listed' =>
      simp only [found, found', Option.getD_some] at targets
      rw [targets]

theorem mem_associated {index : Index} (shows : Holders index.holders stands) (property : String) (target id : ThingId) :
    id ∈ index.associated property target ↔ stands ⟨property, target⟩ id :=
  mem_bucket (shows.shown property) target id

end Holders

section Counts

abbrev Counts := Std.ExtTreeMap ThingId (Std.ExtTreeMap ThingId Nat)

-- What is stored for a target and a source, if anything.
def stored? (table : Counts) (target source : ThingId) : Option Nat :=
  (table[target]?.getD (∅ : Std.ExtTreeMap ThingId Nat))[source]?

-- How a number is stored: zero is not.
def present (n : Nat) : Option Nat := if n = 0 then none else some n

structure Tallies (table : Counts) (number : ThingId → ThingId → Nat) : Prop where
  shown : ∀ target source, stored? table target source = present (number target source)
  filled : ∀ (target : ThingId) (counts : Std.ExtTreeMap ThingId Nat), table[target]? = some counts → counts ≠ ∅

theorem tallies_empty : Tallies ∅ fun _ _ => 0 := by
  refine ⟨?_, ?_⟩
  · intro target source
    simp [stored?, present]
  · intro target counts found
    simp at found

theorem tallies_up {table : Counts} {number number' : ThingId → ThingId → Nat} (target source : ThingId)
    (shows : Tallies table number)
    (more : ∀ t s, number' t s = if t = target ∧ s = source then number t s + 1 else number t s) :
    Tallies (table.alter target (countUp · source)) number' := by
  have raised : countUp table[target]? source =
      some ((table[target]?.getD ∅).alter source fun n => some (n.getD 0 + 1)) := rfl
  refine ⟨?_, ?_⟩
  · intro t s
    have old := shows.shown t s
    rw [stored?] at old
    rw [stored?, Std.ExtTreeMap.getElem?_alter, more]
    by_cases sameTarget : target = t
    · subst sameTarget
      simp only [Std.compare_self, ↓reduceIte, raised, Option.getD_some]
      rw [Std.ExtTreeMap.getElem?_alter]
      by_cases sameSource : source = s
      · subst sameSource
        simp only [Std.compare_self, ↓reduceIte, and_self, old, present]
        by_cases zero : number target source = 0 <;> simp [zero]
      · simp [sameSource, Ne.symm sameSource, old]
    · simp [sameTarget, Ne.symm sameTarget, old]
  · intro t counts found
    rw [Std.ExtTreeMap.getElem?_alter] at found
    by_cases sameTarget : target = t
    · subst sameTarget
      simp only [Std.compare_self, ↓reduceIte, raised, Option.some.injEq] at found
      rintro rfl
      have stands := congrArg (fun counts : Std.ExtTreeMap ThingId Nat => counts[source]?) found
      simp at stands
    · simp [sameTarget] at found
      exact shows.filled t counts found

theorem getD_unless_empty (counts : Std.ExtTreeMap ThingId Nat) :
    (if counts.isEmpty then none else some counts).getD ∅ = counts := by
  split
  · rename_i empty
    exact (Std.ExtTreeMap.isEmpty_iff.mp empty).symm
  · rfl

theorem tallies_down {table : Counts} {number number' : ThingId → ThingId → Nat} (target source : ThingId)
    (shows : Tallies table number) (counted : 0 < number target source)
    (less : ∀ t s, number' t s = if t = target ∧ s = source then number t s - 1 else number t s) :
    Tallies (table.alter target (countDown · source)) number' := by
  have rest (s : ThingId) :
      ((countDown table[target]? source).getD ∅)[s]? =
        if source = s then present (number target source - 1) else present (number target s) := by
    have old := shows.shown target
    simp only [stored?] at old
    simp only [countDown, getD_unless_empty, Std.ExtTreeMap.getElem?_alter]
    by_cases sameSource : source = s
    · subst sameSource
      simp only [Std.compare_self, ↓reduceIte, old, present]
      obtain ⟨n, more⟩ : ∃ n, number target source = n + 1 := ⟨number target source - 1, by omega⟩
      rw [more]
      cases n <;> simp
    · simp [sameSource, old]
  refine ⟨?_, ?_⟩
  · intro t s
    rw [stored?, Std.ExtTreeMap.getElem?_alter, less]
    by_cases sameTarget : target = t
    · subst sameTarget
      simp only [Std.compare_self, ↓reduceIte, rest s, true_and]
      by_cases sameSource : source = s
      · subst sameSource
        simp
      · simp [sameSource, Ne.symm sameSource]
    · have old := shows.shown t s
      rw [stored?] at old
      simp [sameTarget, Ne.symm sameTarget, old]
  · intro t counts found
    rw [Std.ExtTreeMap.getElem?_alter] at found
    by_cases sameTarget : target = t
    · subst sameTarget
      simp only [Std.compare_self, ↓reduceIte, countDown] at found
      split at found
      · cases found
      · rename_i full
        cases found
        rwa [Std.ExtTreeMap.isEmpty_iff] at full
    · simp [sameTarget] at found
      exact shows.filled t counts found

theorem tallies_congr {table : Counts} {number number' : ThingId → ThingId → Nat} (shows : Tallies table number)
    (same : ∀ target source, number target source = number' target source) : Tallies table number' :=
  ⟨fun target source => by rw [shows.shown, same], shows.filled⟩

theorem tallies_unique {table table' : Counts} {number : ThingId → ThingId → Nat} (shows : Tallies table number)
    (shows' : Tallies table' number) : table = table' := by
  apply Std.ExtTreeMap.ext_getElem?
  intro target
  have counts : table[target]?.getD ∅ = table'[target]?.getD ∅ := by
    apply Std.ExtTreeMap.ext_getElem?
    intro source
    exact (shows.shown target source).trans (shows'.shown target source).symm
  cases found : table[target]? with
  | none =>
    cases found' : table'[target]? with
    | none => rfl
    | some stored =>
      simp only [found, found', Option.getD_none, Option.getD_some] at counts
      exact absurd counts.symm (shows'.filled target stored found')
  | some stored =>
    cases found' : table'[target]? with
    | none =>
      simp only [found, found', Option.getD_none, Option.getD_some] at counts
      exact absurd counts (shows.filled target stored found)
    | some stored' =>
      simp only [found, found', Option.getD_some] at counts
      rw [counts]

theorem mem_sources {table : Counts} {number : ThingId → ThingId → Nat} (shows : Tallies table number)
    (target source : ThingId) :
    source ∈ (table[target]?.getD (∅ : Std.ExtTreeMap ThingId Nat)).keys ↔ 0 < number target source := by
  have old := shows.shown target source
  rw [stored?] at old
  rw [Std.ExtTreeMap.mem_keys, Std.ExtTreeMap.mem_iff_isSome_getElem?, old, present]
  by_cases zero : number target source = 0
  · simp [zero]
  · simp [zero, Nat.pos_of_ne_zero zero]

end Counts
end ThingWorld.Index
