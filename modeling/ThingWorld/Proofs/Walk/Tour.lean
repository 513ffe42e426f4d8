import ThingWorld.Proofs.Ends.Walks
namespace ThingWorld.Walk

section

variable (world : World) (route : Route) (limbo : ThingId)

-- Each link, and behind an open one where it leads.
def linkCalls (id : ThingId) : List ThingId :=
  if route.visitLinks then
    (world.links id).flatMap fun link =>
      link :: if world.isClosed link then [] else (world.destination? link).toList
  else []

-- The place of a thing, unless that is limbo or the thing keeps in what happens in it.
def placeCalls (id : ThingId) : List ThingId :=
  match world.location? id with
  | some place =>
    if place = limbo ∨ world.isClosed id = true ∧ route.ignoreClosed = false then [] else [place]
  | none => []

-- From what is visited already and what is still to call at: what is visited, in order, and what is visited then.
inductive Tour : IdSet → List ThingId → List ThingId → IdSet → Prop where
  | done {visited : IdSet} : Tour visited [] [] visited
  | skips {visited last : IdSet} {id : ThingId} {rest order : List ThingId}
      (known : world.contains id = false ∨ visited.contains id = true) (others : Tour visited rest order last) :
      Tour visited (id :: rest) order last
  | visits {visited first second third last : IdSet} {id : ThingId} {rest inside along outside after : List ThingId}
      (there : world.contains id = true) (fresh : visited.contains id = false)
      (contents : Tour (visited.insert id) (world.contents id) inside first)
      (links : Tour first (linkCalls world route id) along second)
      (place : Tour second (placeCalls world route limbo id) outside third)
      (others : Tour third rest after last) :
      Tour visited (id :: rest) (id :: (inside ++ along ++ outside ++ after)) last

-- One step of a walk, from a thing that was visited.
inductive Leads (id : ThingId) : ThingId → Prop where
  | inward {next : ThingId} (held : next ∈ world.contents id) : Leads id next
  | link {next : ThingId} (visitLinks : route.visitLinks = true) (owned : next ∈ world.links id) : Leads id next
  | through {link next : ThingId} (visitLinks : route.visitLinks = true) (owned : link ∈ world.links id)
      (opened : world.isClosed link = false) (leads : world.destination? link = some next) : Leads id next
  | outward {next : ThingId} (place : world.location? id = some next) (differs : next ≠ limbo)
      (opened : route.ignoreClosed = true ∨ world.isClosed id = false) : Leads id next

-- What can be reached from a thing through things that are there and were not visited before.
inductive Reaches (visited : IdSet) (start : ThingId) : ThingId → Prop where
  | start (there : world.contains start = true) (fresh : visited.contains start = false) : Reaches visited start start
  | step {id next : ThingId} (reached : Reaches visited start id) (leads : Leads world route limbo id next)
      (there : world.contains next = true) (fresh : visited.contains next = false) : Reaches visited start next

end

variable {world : World} {route : Route} {limbo : ThingId}

theorem leads_iff {id next : ThingId} : Leads world route limbo id next ↔
    next ∈ world.contents id ∨ next ∈ linkCalls world route id ∨ next ∈ placeCalls world route limbo id := by
  constructor
  · intro leads
    cases leads with
    | inward held => exact .inl held
    | link visitLinks owned =>
      refine .inr (.inl ?_)
      rw [linkCalls, if_pos visitLinks, List.mem_flatMap]
      exact ⟨next, owned, List.mem_cons_self⟩
    | @through link _ visitLinks owned opened leads =>
      refine .inr (.inl ?_)
      rw [linkCalls, if_pos visitLinks, List.mem_flatMap]
      exact ⟨link, owned, by simp [opened, leads]⟩
    | outward place differs opened =>
      refine .inr (.inr ?_)
      have out : ¬(next = limbo ∨ world.isClosed id = true ∧ route.ignoreClosed = false) := by grind
      simp only [placeCalls, place]
      rw [if_neg out]
      exact List.mem_singleton_self next
  · rintro (held | called | called)
    · exact .inward held
    · rw [linkCalls] at called
      split at called
      · rename_i visitLinks
        obtain ⟨link, owned, called⟩ := List.mem_flatMap.mp called
        rcases List.mem_cons.mp called with rfl | called
        · exact .link visitLinks owned
        · split at called
          · cases called
          · rename_i opened
            exact .through visitLinks owned (Bool.not_eq_true _ ▸ opened) (Option.mem_toList.mp called)
      · cases called
    · simp only [placeCalls] at called
      split at called
      · rename_i place location
        split at called
        · cases called
        · rename_i out
          cases List.mem_singleton.mp called
          exact .outward location (fun limbo => out (.inl limbo)) (by grind)
      · cases called

theorem neighbours_calls (id : ThingId) : neighbours world route limbo id =
    world.contents id ++ (linkCalls world route id ++ placeCalls world route limbo id) := by
  have out : Walk.outward world route limbo id = placeCalls world route limbo id := by
    rw [Walk.outward, placeCalls]
    cases world.location? id with
    | none => simp
    | some place =>
      by_cases same : place = limbo <;> cases world.isClosed id <;> cases route.ignoreClosed <;> simp [same]
  rw [neighbours, out, List.append_assoc]
  rfl

theorem tour_append {visited last : IdSet} {first second : List ThingId} : ∀ {order : List ThingId},
    Tour world route limbo visited (first ++ second) order last →
      ∃ before mid after, Tour world route limbo visited first before mid ∧
        Tour world route limbo mid second after last ∧ order = before ++ after := by
  induction first generalizing visited with
  | nil => exact fun tour => ⟨[], visited, _, .done, tour, rfl⟩
  | cons id rest ih =>
    intro order tour
    cases tour with
    | skips known others =>
      obtain ⟨before, mid, after, one, two, rfl⟩ := ih others
      exact ⟨before, mid, after, .skips known one, two, rfl⟩
    | visits there fresh contents links place others =>
      obtain ⟨before, mid, after, one, two, rfl⟩ := ih others
      exact ⟨_, mid, after, .visits there fresh contents links place one, two, by simp⟩

theorem marked_iff {visited : IdSet} {id other : ThingId} :
    (visited.insert id).contains other = true ↔ other = id ∨ visited.contains other = true := by
  rw [Std.ExtTreeSet.contains_iff_mem, Std.ExtTreeSet.mem_insert, Std.compare_eq_iff_eq,
    Std.ExtTreeSet.contains_iff_mem, @eq_comm _ id other]

theorem Tour.visited_iff {visited last : IdSet} {calls order : List ThingId}
    (tour : Tour world route limbo visited calls order last) (id : ThingId) :
    last.contains id = true ↔ visited.contains id = true ∨ id ∈ order := by
  induction tour with
  | done => simp
  | skips _ _ ih => exact ih
  | visits _ _ _ _ _ _ inside along outside after =>
    rw [after, outside, along, inside, marked_iff]
    simp only [List.mem_cons, List.mem_append]
    grind

theorem Tour.grows {visited last : IdSet} {calls order : List ThingId}
    (tour : Tour world route limbo visited calls order last) {id : ThingId} (known : visited.contains id = true) :
    last.contains id = true :=
  (tour.visited_iff id).mpr (.inl known)

-- To leave out what was visited already changes nothing.
theorem tour_filter {known visited last : IdSet} {calls : List ThingId} : ∀ {order : List ThingId},
    (∀ id, known.contains id = true → visited.contains id = true) →
    Tour world route limbo visited (calls.filter fun id => !known.contains id) order last →
      Tour world route limbo visited calls order last := by
  induction calls generalizing visited with
  | nil => exact fun _ tour => tour
  | cons id rest ih =>
    intro order within tour
    cases before : known.contains id with
    | true =>
      rw [List.filter_cons_of_neg (by simp [before])] at tour
      exact .skips (.inr (within id before)) (ih within tour)
    | false =>
      rw [List.filter_cons_of_pos (by simp [before])] at tour
      cases tour with
      | skips passed others => exact .skips passed (ih within others)
      | visits there fresh contents links place others =>
        have marked (other : ThingId) (before : known.contains other = true) :=
          place.grows (links.grows (contents.grows (marked_iff.mpr (.inr (within other before)))))
        exact .visits there fresh contents links place (ih marked others)

-- A visit, told with one list of what comes next, as the walk keeps it.
theorem tour_visit {visited last : IdSet} {id : ThingId} {waiting order : List ThingId}
    (there : world.contains id = true) (fresh : visited.contains id = false)
    (tour : Tour world route limbo (visited.insert id)
      ((neighbours world route limbo id).filter (fun next => !(visited.insert id).contains next) ++ waiting) order last) :
    Tour world route limbo visited (id :: waiting) (id :: order) last := by
  obtain ⟨next, mid, after, onward, others, rfl⟩ := tour_append tour
  have unfiltered := tour_filter (fun _ known => known) onward
  rw [neighbours_calls] at unfiltered
  obtain ⟨inside, first, rest, contents, outwards, rfl⟩ := tour_append unfiltered
  obtain ⟨along, second, outside, links, place, rfl⟩ := tour_append outwards
  rw [← List.append_assoc inside along outside]
  exact .visits there fresh contents links place others

-- The same calls have one account. The induction is on the account itself, so each part of a visit is alike in turn.
theorem Tour.unique {visited last last' : IdSet} {calls order order' : List ThingId}
    (tour : Tour world route limbo visited calls order last)
    (other : Tour world route limbo visited calls order' last') : order = order' ∧ last = last' := by
  induction tour generalizing order' last' with
  | done =>
    cases other
    exact ⟨rfl, rfl⟩
  | skips known others ih =>
    cases other with
    | skips _ others' => exact ih others'
    | visits there fresh _ _ _ _ => simp [there, fresh] at known
  | visits there fresh _ _ _ _ inside along outside after =>
    cases other with
    | skips known _ => simp [there, fresh] at known
    | visits _ _ contents' links' place' others' =>
      obtain ⟨rfl, rfl⟩ := inside contents'
      obtain ⟨rfl, rfl⟩ := along links'
      obtain ⟨rfl, rfl⟩ := outside place'
      obtain ⟨rfl, rfl⟩ := after others'
      exact ⟨rfl, rfl⟩

-- What is visited is there, was not visited before, and is visited once.
structure Apart (world : World) (visited : IdSet) (order : List ThingId) : Prop where
  once : order.Nodup
  fresh : ∀ id ∈ order, visited.contains id = false
  there : ∀ id ∈ order, world.contains id = true

theorem Apart.append {visited mid : IdSet} {first second : List ThingId} (before : Apart world visited first)
    (after : Apart world mid second) (marks : ∀ id, mid.contains id = true ↔ visited.contains id = true ∨ id ∈ first) :
    Apart world visited (first ++ second) where
  once := by
    refine List.nodup_append.mpr ⟨before.once, after.once, ?_⟩
    rintro id one other two rfl
    have fresh := after.fresh id two
    rw [(marks id).mpr (.inr one)] at fresh
    cases fresh
  fresh id member := by
    rcases List.mem_append.mp member with one | two
    · exact before.fresh id one
    · have fresh := after.fresh id two
      by_contra known
      rw [(marks id).mpr (.inl (Bool.not_eq_false _ ▸ known))] at fresh
      cases fresh
  there id member := (List.mem_append.mp member).elim (before.there id) (after.there id)

theorem Tour.apart {visited last : IdSet} {calls order : List ThingId}
    (tour : Tour world route limbo visited calls order last) : Apart world visited order := by
  induction tour with
  | done => exact ⟨List.nodup_nil, by simp, by simp⟩
  | skips _ _ ih => exact ih
  | @visits visited _ _ _ _ id _ inside along outside after there fresh contents links place others ih₁ ih₂ ih₃ ih₄ =>
    have alone : Apart world visited [id] := ⟨List.nodup_singleton id, by simpa using fresh, by simpa using there⟩
    have marks (other : ThingId) : (visited.insert id).contains other = true ↔
        visited.contains other = true ∨ other ∈ [id] := by
      rw [marked_iff, List.mem_singleton, or_comm]
    have inner := ((ih₁.append ih₂ contents.visited_iff).append ih₃ fun other => ?_).append ih₄ fun other => ?_
    · exact alone.append inner marks
    · rw [links.visited_iff, contents.visited_iff, List.mem_append, or_assoc]
    · rw [place.visited_iff, links.visited_iff, contents.visited_iff, List.mem_append, List.mem_append]
      simp only [or_assoc]

theorem Reaches.from_next {visited : IdSet} {id next other : ThingId} (there : world.contains id = true)
    (fresh : visited.contains id = false) (leads : Leads world route limbo id next)
    (reached : Reaches world route limbo (visited.insert id) next other) :
    Reaches world route limbo visited id other := by
  have unmarked {one : ThingId} (unvisited : (visited.insert id).contains one = false) :
      visited.contains one = false := by
    by_contra known
    rw [marked_iff.mpr (.inr (Bool.not_eq_false _ ▸ known))] at unvisited
    cases unvisited
  induction reached with
  | start there' fresh' => exact .step (.start there fresh) leads there' (unmarked fresh')
  | step _ leads there fresh ih => exact .step ih leads there (unmarked fresh)

theorem Reaches.mono {visited larger : IdSet} {id other : ThingId}
    (within : ∀ one, visited.contains one = true → larger.contains one = true)
    (reached : Reaches world route limbo larger id other) : Reaches world route limbo visited id other := by
  have unmarked {one : ThingId} (unvisited : larger.contains one = false) : visited.contains one = false := by
    by_contra known
    rw [within one (Bool.not_eq_false _ ▸ known)] at unvisited
    cases unvisited
  induction reached with
  | start there fresh => exact .start there (unmarked fresh)
  | step _ leads there fresh ih => exact .step ih leads there (unmarked fresh)

theorem Tour.reached {visited last : IdSet} {calls order : List ThingId}
    (tour : Tour world route limbo visited calls order last) :
    ∀ id ∈ order, ∃ call ∈ calls, Reaches world route limbo visited call id := by
  induction tour with
  | done => simp
  | skips _ _ ih =>
    intro id member
    obtain ⟨call, called, reached⟩ := ih id member
    exact ⟨call, List.mem_cons_of_mem _ called, reached⟩
  | @visits visited first second third last start rest inside along outside after there fresh contents links place others
      ih₁ ih₂ ih₃ ih₄ =>
    intro id member
    -- From the next thing the rest was reached without coming back to this one.
    have onward (next : ThingId) (mid : IdSet) (leads : Leads world route limbo start next)
        (within : ∀ one, (visited.insert start).contains one = true → mid.contains one = true)
        (reached : Reaches world route limbo mid next id) :
        ∃ call ∈ start :: rest, Reaches world route limbo visited call id :=
      ⟨start, List.mem_cons_self, (reached.mono within).from_next there fresh leads⟩
    simp only [List.mem_cons, List.mem_append] at member
    rcases member with rfl | ((member | member) | member) | member
    · exact ⟨id, List.mem_cons_self, .start there fresh⟩
    · obtain ⟨next, called, reached⟩ := ih₁ id member
      exact onward next _ (leads_iff.mpr (.inl called)) (fun _ known => known) reached
    · obtain ⟨next, called, reached⟩ := ih₂ id member
      exact onward next _ (leads_iff.mpr (.inr (.inl called))) (fun _ => contents.grows) reached
    · obtain ⟨next, called, reached⟩ := ih₃ id member
      exact onward next _ (leads_iff.mpr (.inr (.inr called))) (fun _ known => links.grows (contents.grows known)) reached
    · obtain ⟨call, called, reached⟩ := ih₄ id member
      refine ⟨call, List.mem_cons_of_mem _ called, reached.mono fun one known => ?_⟩
      exact place.grows (links.grows (contents.grows (marked_iff.mpr (.inr known))))

-- Whatever is called at is visited in the end if it is there, and so is whatever a visited thing leads to.
theorem Tour.closed {visited last : IdSet} {calls order : List ThingId}
    (tour : Tour world route limbo visited calls order last) :
    (∀ id ∈ calls, world.contains id = true → last.contains id = true) ∧
    ∀ id ∈ order, ∀ next, Leads world route limbo id next → world.contains next = true →
      last.contains next = true := by
  induction tour with
  | done => simp
  | skips known others ih =>
    refine ⟨fun id called there => ?_, ih.2⟩
    rcases List.mem_cons.mp called with rfl | called
    · exact others.grows (known.resolve_left (by simp [there]))
    · exact ih.1 id called there
  | @visits visited first second third last start rest inside along outside after there fresh contents links place others
      ih₁ ih₂ ih₃ ih₄ =>
    refine ⟨fun id called there => ?_, fun id member next leads nextThere => ?_⟩
    · rcases List.mem_cons.mp called with rfl | called
      · exact others.grows (place.grows (links.grows (contents.grows (marked_iff.mpr (.inl rfl)))))
      · exact ih₄.1 id called there
    · simp only [List.mem_cons, List.mem_append] at member
      rcases member with rfl | ((member | member) | member) | member
      · rcases leads_iff.mp leads with called | called | called
        · exact others.grows (place.grows (links.grows (ih₁.1 next called nextThere)))
        · exact others.grows (place.grows (ih₂.1 next called nextThere))
        · exact others.grows (ih₃.1 next called nextThere)
      · exact others.grows (place.grows (links.grows (ih₁.2 id member next leads nextThere)))
      · exact others.grows (place.grows (ih₂.2 id member next leads nextThere))
      · exact others.grows (ih₃.2 id member next leads nextThere)
      · exact ih₄.2 id member next leads nextThere

theorem Tour.mem_iff {visited last : IdSet} {start : ThingId} {order : List ThingId}
    (tour : Tour world route limbo visited [start] order last) (id : ThingId) :
    id ∈ order ↔ Reaches world route limbo visited start id := by
  constructor
  · intro member
    obtain ⟨call, called, reached⟩ := tour.reached id member
    rwa [List.mem_singleton.mp called] at reached
  · intro reached
    obtain ⟨called, leads⟩ := tour.closed
    have taken {one : ThingId} (fresh : visited.contains one = false) (known : last.contains one = true) :
        one ∈ order :=
      ((tour.visited_iff one).mp known).resolve_left (by simp [fresh])
    induction reached with
    | start there fresh => exact taken fresh (called start (List.mem_singleton_self start) there)
    | step _ onward there fresh ih => exact taken fresh (leads _ ih _ onward there)

end ThingWorld.Walk
