import ThingWorld.Proofs.Course.Batches
import ThingWorld.Proofs.Upkeep.Upkept
namespace ThingWorld

namespace Thing

def pointsAt (thing : Thing) (relation : String) (gone : ThingId → Bool) : Bool :=
  thing.edges.any fun edge => edge.property == relation && gone edge.target

-- An edge that stays: it does not lead to what is gone, and names neither an owner nor a place that is not to stay.
def spares (gone : ThingId → Bool) (unlinked moved : Bool) (edge : Edge) : Bool :=
  !gone edge.target && !(unlinked && edge.property == Relation.linkOwner) &&
    !(moved && edge.property == Relation.location)

-- The edges that stay, and limbo as the only place of what has moved.
def trimmed (gone : ThingId → Bool) (unlinked moved : Bool) (limbo : ThingId) (thing : Thing) : Thing :=
  { thing with edges :=
      thing.edges.filter (spares gone unlinked moved) ++ if moved then [⟨Relation.location, limbo⟩] else [] }

-- What is left of a thing: one that lost its owner is a link no more, and one that lost its owner or its place is in limbo.
def bereft (gone : ThingId → Bool) (limbo : ThingId) (thing : Thing) : Thing :=
  let unlinked := thing.pointsAt Relation.linkOwner gone
  thing.trimmed gone unlinked (unlinked || thing.pointsAt Relation.location gone) limbo

-- The thing is in limbo and nowhere else.
def banished (limbo : ThingId) (thing : Thing) : Thing :=
  (thing.keepEdges fun edge => edge.property != Relation.location).addEdge ⟨Relation.location, limbo⟩

def disowned (limbo : ThingId) (thing : Thing) : Thing :=
  (thing.keepEdges fun edge => edge.property != Relation.linkOwner).banished limbo

def cutOff (id : ThingId) (thing : Thing) : Thing :=
  thing.keepEdges fun edge => edge.target != id

-- What is left of a thing when only `id` goes, in the steps in which it is done.
def released (limbo id : ThingId) (thing : Thing) : Thing :=
  let thing := if ⟨Relation.location, id⟩ ∈ thing.edges then thing.banished limbo else thing
  let thing := if ⟨Relation.linkOwner, id⟩ ∈ thing.edges then thing.disowned limbo else thing
  thing.cutOff id

section

variable {gone : ThingId → Bool} {unlinked moved : Bool} {limbo id : ThingId} {thing : Thing}

theorem pointsAt_iff {relation : String} : thing.pointsAt relation gone = true ↔
    ∃ target, ⟨relation, target⟩ ∈ thing.edges ∧ gone target = true := by
  rw [pointsAt, List.any_eq_true]
  constructor
  · rintro ⟨⟨property, target⟩, member, points⟩
    obtain ⟨named, aimed⟩ := Bool.and_eq_true_iff.mp points
    obtain rfl := eq_of_beq named
    exact ⟨target, member, aimed⟩
  · rintro ⟨target, member, aimed⟩
    exact ⟨⟨relation, target⟩, member, by simp [aimed]⟩

theorem spares_iff {edge : Edge} : spares gone unlinked moved edge = true ↔
    gone edge.target = false ∧ (unlinked = true → edge.property ≠ Relation.linkOwner) ∧
      (moved = true → edge.property ≠ Relation.location) := by
  rw [spares]
  cases unlinked <;> cases moved <;> simp [and_assoc]

theorem mem_trimmed {edge : Edge} : edge ∈ (thing.trimmed gone unlinked moved limbo).edges ↔
    edge ∈ thing.edges ∧ spares gone unlinked moved edge = true ∨
      moved = true ∧ edge = ⟨Relation.location, limbo⟩ := by
  rw [trimmed, List.mem_append, List.mem_filter]
  cases moved <;> simp

theorem cutOff_if_points {id : ThingId} {thing : Thing} :
    (if ∃ edge ∈ thing.edges, edge.target = id then thing.cutOff id else thing) = thing.cutOff id := by
  split
  · rfl
  · rename_i nowhere
    have all : thing.edges.filter (fun edge => edge.target != id) = thing.edges :=
      List.filter_eq_self.mpr fun edge member => bne_iff_ne.mpr fun same => nowhere ⟨edge, member, same⟩
    rw [cutOff, keepEdges, all]

theorem targets_unlinked : (thing.trimmed gone true moved limbo).targets Relation.linkOwner = [] := by
  have none (edge : Edge) : (edge.property == Relation.linkOwner && spares gone true moved edge) = false := by
    cases named : edge.property == Relation.linkOwner <;> simp [spares, named]
  rw [targets, trimmed, List.filter_append, List.filter_filter, funext none]
  cases moved <;> simp [Relation.location, Relation.linkOwner]

theorem targets_moved : (thing.trimmed gone unlinked true limbo).targets Relation.location = [limbo] := by
  have none (edge : Edge) : (edge.property == Relation.location && spares gone unlinked true edge) = false := by
    cases named : edge.property == Relation.location <;> simp [spares, named]
  rw [targets, trimmed, List.filter_append, List.filter_filter, funext none]
  simp

variable (limbo thing) in
theorem keepEdges_trimmed {keep : Edge → Bool} {gone' : ThingId → Bool} {unlinked' moved' : Bool}
    (fewer : ∀ edge, (keep edge && spares gone unlinked moved edge) = spares gone' unlinked' moved' edge) :
    ((thing.trimmed gone unlinked moved limbo).keepEdges keep).edges =
      thing.edges.filter (spares gone' unlinked' moved') ++
        (if moved then [⟨Relation.location, limbo⟩] else []).filter keep := by
  rw [keepEdges, trimmed, List.filter_append, List.filter_filter, funext fewer]

theorem banished_trimmed :
    (thing.trimmed gone unlinked moved limbo).banished limbo = thing.trimmed gone unlinked true limbo := by
  have fewer (edge : Edge) : (edge.property != Relation.location && spares gone unlinked moved edge) =
      spares gone unlinked true edge := by
    rw [Bool.eq_iff_iff, Bool.and_eq_true, spares_iff, spares_iff, bne_iff_ne]
    tauto
  have kept := keepEdges_trimmed limbo thing fewer
  refine congrArg (fun edges => { thing with edges := edges ++ [Edge.mk Relation.location limbo] }) (kept.trans ?_)
  cases moved <;> simp

theorem disowned_trimmed :
    (thing.trimmed gone unlinked moved limbo).disowned limbo = thing.trimmed gone true true limbo := by
  have fewer (edge : Edge) : (edge.property != Relation.linkOwner && spares gone unlinked moved edge) =
      spares gone true moved edge := by
    rw [Bool.eq_iff_iff, Bool.and_eq_true, spares_iff, spares_iff, bne_iff_ne]
    tauto
  have kept := keepEdges_trimmed limbo thing fewer
  have cut : (thing.trimmed gone unlinked moved limbo).keepEdges (fun edge => edge.property != Relation.linkOwner) =
      thing.trimmed gone true moved limbo := by
    refine congrArg (fun edges => { thing with edges := edges }) (kept.trans ?_)
    cases moved <;> simp [Relation.location, Relation.linkOwner]
  rw [disowned, cut, banished_trimmed]

theorem cutOff_trimmed (differs : id ≠ limbo) : (thing.trimmed gone unlinked moved limbo).cutOff id =
    thing.trimmed (fun other => gone other || other == id) unlinked moved limbo := by
  have fewer (edge : Edge) : (edge.target != id && spares gone unlinked moved edge) =
      spares (fun other => gone other || other == id) unlinked moved edge := by
    rw [Bool.eq_iff_iff, Bool.and_eq_true, spares_iff, spares_iff, bne_iff_ne, Bool.or_eq_false_iff, beq_eq_false_iff_ne]
    tauto
  have kept := keepEdges_trimmed limbo thing fewer
  refine congrArg (fun edges => { thing with edges := edges }) (kept.trans ?_)
  cases moved <;> simp [Ne.symm differs]

theorem pointsAt_either {relation : String} {more : ThingId → Bool} :
    thing.pointsAt relation (fun other => gone other || more other) =
      (thing.pointsAt relation gone || thing.pointsAt relation more) := by
  rw [Bool.eq_iff_iff, Bool.or_eq_true, pointsAt_iff, pointsAt_iff, pointsAt_iff]
  simp only [Bool.or_eq_true, and_or_left, exists_or]

theorem pointsAt_one {relation : String} :
    thing.pointsAt relation (· == id) = true ↔ ⟨relation, id⟩ ∈ thing.edges := by
  rw [pointsAt_iff]
  simp

-- An edge to one more of what is gone is still there unless all edges of its name went before.
theorem mem_trimmed_to {relation : String} (differs : id ≠ limbo) (named : ⟨relation, id⟩ ∈ thing.edges) :
    ⟨relation, id⟩ ∈ (thing.trimmed gone unlinked moved limbo).edges ↔
      gone id = false ∧ (unlinked = true → relation ≠ Relation.linkOwner) ∧
        (moved = true → relation ≠ Relation.location) := by
  rw [mem_trimmed, spares_iff]
  simp [named, differs]

theorem banished_if_placed (differs : id ≠ limbo)
    (placed : thing.pointsAt Relation.location gone = true → moved = true) :
    (if ⟨Relation.location, id⟩ ∈ (thing.trimmed gone unlinked moved limbo).edges then
        (thing.trimmed gone unlinked moved limbo).banished limbo else thing.trimmed gone unlinked moved limbo) =
      thing.trimmed gone unlinked (moved || thing.pointsAt Relation.location (· == id)) limbo := by
  split
  · rename_i member
    rw [banished_trimmed]
    rcases mem_trimmed.mp member with ⟨named, _⟩ | ⟨_, same⟩
    · rw [pointsAt_one.mpr named, Bool.or_true]
    · exact absurd (Edge.mk.inj same).2 differs
  · rename_i absent
    cases moved with
    | true => rw [Bool.true_or]
    | false =>
      cases points : thing.pointsAt Relation.location (· == id) with
      | false => rw [Bool.or_false]
      | true =>
        have named := pointsAt_one.mp points
        have gone' : gone id ≠ false := fun stays =>
          absent ((mem_trimmed_to differs named).mpr ⟨stays, fun _ => by decide, nofun⟩)
        exact nomatch placed (pointsAt_iff.mpr ⟨id, named, Bool.not_eq_false _ ▸ gone'⟩)

theorem disowned_if_owned (differs : id ≠ limbo)
    (owned : thing.pointsAt Relation.linkOwner gone = true → unlinked = true) (moves : unlinked = true → moved = true) :
    (if ⟨Relation.linkOwner, id⟩ ∈ (thing.trimmed gone unlinked moved limbo).edges then
        (thing.trimmed gone unlinked moved limbo).disowned limbo else thing.trimmed gone unlinked moved limbo) =
      thing.trimmed gone (unlinked || thing.pointsAt Relation.linkOwner (· == id))
        (moved || thing.pointsAt Relation.linkOwner (· == id)) limbo := by
  split
  · rename_i member
    rw [disowned_trimmed]
    rcases mem_trimmed.mp member with ⟨named, _⟩ | ⟨_, same⟩
    · rw [pointsAt_one.mpr named, Bool.or_true, Bool.or_true]
    · exact absurd (Edge.mk.inj same).2 differs
  · rename_i absent
    cases points : thing.pointsAt Relation.linkOwner (· == id) with
    | false => rw [Bool.or_false, Bool.or_false]
    | true =>
      have named := pointsAt_one.mp points
      have unlinked' : unlinked = true := by
        by_contra linked
        have gone' : gone id ≠ false := fun stays =>
          absent ((mem_trimmed_to differs named).mpr ⟨stays, fun unlinked => absurd unlinked linked, fun _ => by decide⟩)
        exact linked (owned (pointsAt_iff.mpr ⟨id, named, Bool.not_eq_false _ ▸ gone'⟩))
      rw [unlinked', moves unlinked', Bool.true_or]

-- What was left of a thing when some were gone, and one more goes.
theorem released_bereft (differs : id ≠ limbo) :
    (thing.bereft gone limbo).released limbo id = thing.bereft (fun other => gone other || other == id) limbo := by
  rw [bereft, bereft, pointsAt_either, pointsAt_either, released]
  rw [banished_if_placed differs (by simp +contextual), disowned_if_owned differs (fun owned => owned) (by simp +contextual),
    cutOff_trimmed differs]
  congr 1
  ac_rfl

theorem bereft_nothing : thing.bereft (fun _ => false) limbo = thing := by
  have nowhere (relation : String) : thing.pointsAt relation (fun _ => false) = false := by
    simp [pointsAt]
  rw [bereft, nowhere, nowhere, trimmed]
  have all : thing.edges.filter (spares (fun _ => false) false (false || false)) = thing.edges := by
    simp [List.filter_eq_self, spares]
  rw [all]
  simp

end

end Thing

namespace World

-- What became of the things of a world, while nothing else but the index and the list of the touched changed, and the
-- index is right.
structure Alters (world last : World) (f : ThingId → Thing → Thing) : Prop where
  same : ∃ things index dirty, last = { world with things := things, index := index, dirty := dirty }
  each : ∀ id : ThingId, last.things[id]? = world.things[id]?.map (f id)
  tracked : last.Tracked []

variable {world mid last : World}

theorem alters_refl (tracked : world.Tracked []) : Alters world world fun _ thing => thing :=
  ⟨⟨_, _, _, rfl⟩, fun _ => Option.map_id'.symm, tracked⟩

theorem Alters.trans {f g : ThingId → Thing → Thing} (first : Alters world mid f) (second : Alters mid last g) :
    Alters world last fun id thing => g id (f id thing) := by
  obtain ⟨_, _, _, same⟩ := first.same
  obtain ⟨things, index, dirty, same'⟩ := second.same
  refine ⟨⟨things, index, dirty, ?_⟩, fun id => ?_, second.tracked⟩
  · rw [same', same]
  · rw [second.each, first.each, Option.map_map]
    rfl

theorem Alters.inScope {f : ThingId → Thing → Thing} (alters : Alters world last f) :
    last.inScope = world.inScope := by
  obtain ⟨_, _, _, same⟩ := alters.same
  rw [same]

theorem Alters.contains {f : ThingId → Thing → Thing} (alters : Alters world last f) (id : ThingId) :
    last.contains id = world.contains id := by
  rw [World.contains, World.contains, Std.ExtTreeMap.contains_eq_isSome_getElem?,
    Std.ExtTreeMap.contains_eq_isSome_getElem?, alters.each, Option.isSome_map]

-- A step on one thing that is there, inside of a scope.
def Edits (body : Act Unit) (id : ThingId) (f : Thing → Thing) : Prop :=
  ∀ world : World, world.inScope = true → world.Tracked [] → world.contains id = true →
    ∃ last, body.run world = (.ok (), last) ∧ Alters world last fun other thing => if other = id then f thing else thing

theorem edits_amend (id : ThingId) {f : Thing → Thing} (own : ∀ thing, (f thing).id = thing.id) :
    Edits (amend id f) id f := by
  intro world inside tracked held
  have ran : (amend id f).run world = (.ok (), world.revise id f) := by
    rw [amend, Act.run_joined inside]
    exact (run_revise id f () world).trans (if_pos held)
  exact ⟨_, ran, revise_same id f world, revise_things id f world, tracked_revise tracked id own⟩

theorem edits_bind {first second : Act Unit} {id : ThingId} {f g : Thing → Thing} (before : Edits first id f)
    (after : Edits second id g) : Edits (first >>= fun _ => second) id fun thing => g (f thing) := by
  intro world inside tracked held
  obtain ⟨mid, ran, alters⟩ := before world inside tracked held
  obtain ⟨last, ran', alters'⟩ := after mid (alters.inScope.trans inside) alters.tracked
    ((alters.contains id).trans held)
  refine ⟨last, by rw [Act.run_bind, ran]; exact ran', ?_⟩
  have both := alters.trans alters'
  have same : (fun other thing => if other = id then g (if other = id then f thing else thing)
      else if other = id then f thing else thing) = fun other thing => if other = id then g (f thing) else thing := by
    funext other thing
    split <;> rfl
  exact same ▸ both

-- Each of some things is changed once.
theorem run_forM {body : ThingId → Act Unit} {f : Thing → Thing} (edits : ∀ id, Edits (body id) id f) :
    ∀ (ids : List ThingId) (world : World), ids.Nodup → (∀ id ∈ ids, world.contains id = true) →
      world.inScope = true → world.Tracked [] → ∃ last, (ids.forM body).run world = (.ok (), last) ∧
        Alters world last fun id thing => if id ∈ ids then f thing else thing := by
  intro ids
  induction ids with
  | nil =>
    intro world _ _ _ tracked
    refine ⟨world, rfl, ?_⟩
    simpa using alters_refl tracked
  | cons id rest ih =>
    intro world distinct held inside tracked
    obtain ⟨new, distinct⟩ := List.nodup_cons.mp distinct
    obtain ⟨mid, ran, alters⟩ := edits id world inside tracked (held id List.mem_cons_self)
    have stay (other : ThingId) (member : other ∈ rest) : mid.contains other = true :=
      (alters.contains other).trans (held other (List.mem_cons_of_mem id member))
    obtain ⟨last, ran', alters'⟩ := ih mid distinct stay (alters.inScope.trans inside) alters.tracked
    refine ⟨last, ?_, ?_⟩
    · show (body id >>= fun _ => rest.forM body).run world = _
      rw [Act.run_bind, ran]
      exact ran'
    · have both := alters.trans alters'
      have same : (fun other thing => if other ∈ rest then f (if other = id then f thing else thing)
          else if other = id then f thing else thing) =
            fun other thing => if other ∈ id :: rest then f thing else thing := by
        funext other thing
        by_cases first : other = id
        · subst first
          simp [new]
        · simp [first]
      exact same ▸ both

-- Those that the index lists for a question, without the doomed, are the survivors of whom it is true.
theorem run_survivors {body : ThingId → Act Unit} {f : Thing → Thing} (edits : ∀ id, Edits (body id) id f)
    {listed : List ThingId} {asks : Thing → Prop} [DecidablePred asks] (doomed : IdSet)
    (lists : Index.Lists listed fun id => ∃ thing, world.things[id]? = some thing ∧ asks thing)
    (inside : world.inScope = true) (tracked : world.Tracked []) :
    ∃ last, ((survivors doomed listed).forM body).run world = (.ok (), last) ∧
      Alters world last fun id thing => if doomed.contains id then thing else if asks thing then f thing else thing := by
  have distinct : (survivors doomed listed).Nodup :=
    (lists.ascending.imp fun before => UInt64.ne_of_lt before).filter _
  have held (id : ThingId) (member : id ∈ survivors doomed listed) : world.contains id = true := by
    obtain ⟨thing, found, _⟩ := (lists.members id).mp (List.mem_filter.mp member).1
    exact contains_of_some found
  obtain ⟨last, ran, alters⟩ := run_forM edits (survivors doomed listed) world distinct held inside tracked
  refine ⟨last, ran, alters.same, fun id => (alters.each id).trans ?_, alters.tracked⟩
  cases found : world.things[id]? with
  | none => rfl
  | some thing =>
    have asked : id ∈ survivors doomed listed ↔ doomed.contains id = false ∧ asks thing := by
      rw [survivors, List.mem_filter, lists.members, found]
      simp [and_comm]
    rw [Option.map_some, Option.map_some]
    by_cases spared : doomed.contains id = true
    · simp [asked, spared]
    · by_cases asks' : asks thing <;> simp [asked, spared, asks']

theorem alters_congr {f g : ThingId → Thing → Thing} (alters : Alters world last f)
    (agree : ∀ id thing, f id thing = g id thing) : Alters world last g :=
  (funext fun id => funext fun thing => agree id thing : f = g) ▸ alters

theorem run_release (doomed : IdSet) (limbo : ThingId) {id : ThingId} (held : world.contains id = true)
    (inside : world.inScope = true) (tracked : world.Tracked []) :
    ∃ last, (release doomed limbo id).run world = (.ok (), last) ∧
      Alters world last fun other thing => if doomed.contains other then thing else thing.released limbo id := by
  have moves (content : ThingId) : Edits (setLocation content limbo) content (Thing.banished limbo) :=
    edits_amend content fun _ => rfl
  have disowns (link : ThingId) : Edits (do dissociateAll link Relation.linkOwner; setLocation link limbo) link
      (Thing.disowned limbo) :=
    edits_bind (f := fun thing => thing.keepEdges fun edge => edge.property != Relation.linkOwner)
      (edits_amend link fun _ => rfl) (moves link)
  have cuts (source : ThingId) : Edits (dissociateFrom source id) source (Thing.cutOff id) :=
    edits_amend source fun _ => rfl
  obtain ⟨first, ran, alters⟩ := run_survivors moves doomed
    ((tracked_current tracked).associated Relation.location id) inside tracked
  obtain ⟨second, ran', alters'⟩ := run_survivors disowns doomed
    ((tracked_current alters.tracked).associated Relation.linkOwner id) (alters.inScope.trans inside) alters.tracked
  have inside' : second.inScope = true := alters'.inScope.trans (alters.inScope.trans inside)
  obtain ⟨last, ran'', alters''⟩ := run_survivors cuts doomed
    ((tracked_current alters'.tracked).allAssociated id) inside' alters'.tracked
  refine ⟨last, ?_, alters_congr ((alters.trans alters').trans alters'') fun other thing => ?_⟩
  · rw [release, Act.run_bind, Act.run_get]
    dsimp only
    rw [held, Bool.not_true, if_neg Bool.false_ne_true, Act.run_bind, Act.run_get]
    dsimp only
    rw [World.associated, Act.run_bind, ran]
    dsimp only
    rw [Act.run_bind, Act.run_get]
    dsimp only
    rw [World.associated, Act.run_bind, ran']
    exact ran''
  · cases doomed.contains other with
    | true => rfl
    | false =>
      simp only [Bool.false_eq_true, if_false]
      exact Thing.cutOff_if_points

-- Those of a list that were there.
def foundAmong (world : World) (ids : List ThingId) (id : ThingId) : Bool :=
  ids.contains id && world.contains id

theorem foundAmong_absent {done : List ThingId} {id : ThingId} (absent : world.contains id = false) :
    world.foundAmong (done ++ [id]) = world.foundAmong done := by
  funext other
  rw [foundAmong, foundAmong, Bool.eq_iff_iff]
  simp only [Bool.and_eq_true, List.contains_iff_mem, List.mem_append, List.mem_singleton]
  constructor
  · rintro ⟨listed | rfl, there⟩
    · exact ⟨listed, there⟩
    · rw [absent] at there
      cases there
  · exact fun both => ⟨.inl both.1, both.2⟩

theorem foundAmong_present {done : List ThingId} {id : ThingId} (present : world.contains id = true) :
    world.foundAmong (done ++ [id]) = fun other => world.foundAmong done other || other == id := by
  funext other
  rw [foundAmong, foundAmong, Bool.eq_iff_iff]
  simp only [Bool.and_eq_true, Bool.or_eq_true, beq_iff_eq, List.contains_iff_mem, List.mem_append, List.mem_singleton]
  constructor
  · rintro ⟨listed | rfl, there⟩
    · exact .inl ⟨listed, there⟩
    · exact .inr rfl
  · rintro (⟨listed, there⟩ | rfl)
    · exact ⟨.inl listed, there⟩
    · exact ⟨.inr rfl, present⟩

-- What happens to a thing of a world while the doomed are gone through, in whatever order.
theorem run_releases (doomed : IdSet) (limbo : ThingId) (rest : List ThingId) : ∀ (done : List ThingId) (mid : World),
    limbo ∉ rest → mid.inScope = true →
    Alters world mid (fun id thing => if doomed.contains id then thing else thing.bereft (world.foundAmong done) limbo) →
      ∃ last, (rest.forM (release doomed limbo)).run mid = (.ok (), last) ∧ Alters world last fun id thing =>
        if doomed.contains id then thing else thing.bereft (world.foundAmong (done ++ rest)) limbo := by
  induction rest with
  | nil =>
    intro done mid _ _ alters
    rw [List.append_nil]
    exact ⟨mid, rfl, alters⟩
  | cons id rest ih =>
    intro done mid spared inside alters
    obtain ⟨differs, spared⟩ := not_or.mp (List.mem_cons.not.mp spared)
    have onward (next : World) (ran : (release doomed limbo id).run mid = (.ok (), next))
        (inside : next.inScope = true) (alters : Alters world next fun other thing =>
          if doomed.contains other then thing else thing.bereft (world.foundAmong (done ++ [id])) limbo) :
        ∃ last, ((id :: rest).forM (release doomed limbo)).run mid = (.ok (), last) ∧ Alters world last fun id' thing =>
          if doomed.contains id' then thing else thing.bereft (world.foundAmong (done ++ id :: rest)) limbo := by
      obtain ⟨last, ran', alters'⟩ := ih (done ++ [id]) next spared inside alters
      rw [List.append_assoc, List.singleton_append] at alters'
      refine ⟨last, ?_, alters'⟩
      show (release doomed limbo id >>= fun _ => rest.forM (release doomed limbo)).run mid = _
      rw [Act.run_bind, ran]
      exact ran'
    cases present : world.contains id with
    | false =>
      refine onward mid ?_ inside ((foundAmong_absent present).symm ▸ alters)
      rw [release, Act.run_bind, Act.run_get]
      dsimp only
      rw [(alters.contains id).trans present]
      rfl
    | true =>
      obtain ⟨next, ran, step⟩ := run_release doomed limbo ((alters.contains id).trans present) inside alters.tracked
      refine onward next ran (step.inScope.trans inside) (alters_congr (alters.trans step) fun other thing => ?_)
      cases doomed.contains other with
      | true => rfl
      | false =>
        simp only [Bool.false_eq_true, if_false]
        rw [Thing.released_bereft (Ne.symm differs), foundAmong_present present]

end World
end ThingWorld
