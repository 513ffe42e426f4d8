import ThingWorld.Proofs.Course.Handlers
import ThingWorld.Proofs.Naming.Words
import ThingWorld.Proofs.Text.Finding
import ThingWorld.Proofs.Upkeep.Housing
namespace ThingWorld.World

variable {world : World} {id : ThingId}

section Scopes

variable {actor here : ThingId} {scope : List ThingId} {scopes : List (List ThingId)} {query : String} {fit : Fit}
  {resolution : Resolution} {candidates : List Candidate}

theorem nodup_associated (world : World) (relation : String) (target : ThingId) :
    (world.index.associated relation target).Nodup :=
  List.Pairwise.imp (fun {_ _} differ same => differ (by simp [same])) Std.ExtTreeSet.distinct_toList

-- All that is around an actor is there and stands once, but for the place itself.
theorem scope_present (housed : world.HousedBut []) (there : world.contains actor = true)
    (member : scope ∈ world.searchScopes actor) :
    scope.Nodup ∧ ((∀ id ∈ scope, world.contains id = true) ∨ ∃ here, world.location? actor = some here ∧ scope = [here]) := by
  have listed (relation : String) (target : ThingId) :
      ∀ id ∈ world.byPriority (world.index.associated relation target), world.contains id = true :=
    fun id member => contains_associated housed ((world.perm_byPriority _).mem_iff.mp member)
  have distinct (relation : String) (target : ThingId) :
      (world.byPriority (world.index.associated relation target)).Nodup :=
    (world.perm_byPriority _).nodup_iff.mpr (nodup_associated world relation target)
  simp only [searchScopes, List.mem_append, List.mem_cons, List.not_mem_nil, or_false] at member
  rcases member with (rfl | rfl) | around
  · exact ⟨List.nodup_singleton actor, .inl fun id member => List.mem_singleton.mp member ▸ there⟩
  · exact ⟨distinct _ _, .inl (listed _ _)⟩
  · cases place : world.location? actor with
    | none => simp [place] at around
    | some here =>
      simp only [place, List.mem_cons, List.not_mem_nil, or_false] at around
      rcases around with rfl | rfl | rfl
      · exact ⟨(distinct _ _).filter _, .inl fun id member => listed _ _ id (List.mem_filter.mp member).1⟩
      · exact ⟨distinct _ _, .inl (listed _ _)⟩
      · exact ⟨List.nodup_singleton here, .inr ⟨here, rfl, rfl⟩⟩

-- Some scope decides, unless none does.
theorem matchScopes_decided (decided : world.matchScopes scopes query = resolution) :
    resolution = .notFound ∨ ∃ scope ∈ scopes, ∃ fit, world.decide? (world.hits scope query fit) = some resolution := by
  unfold matchScopes at decided
  dsimp only at decided
  split at decided
  · rename_i first found
    subst decided
    obtain ⟨scope, member, decides⟩ := List.exists_of_findSome?_eq_some found
    exact .inr ⟨scope, member, .exact, decides⟩
  · cases found : scopes.findSome? fun scope => world.decide? (world.hits scope query .part) with
    | none =>
      rw [found] at decided
      exact .inl decided.symm
    | some first =>
      rw [found] at decided
      have same : first = resolution := decided
      subst same
      obtain ⟨scope, member, decides⟩ := List.exists_of_findSome?_eq_some found
      exact .inr ⟨scope, member, .part, decides⟩

theorem decide_ambiguous {ids : List ThingId} (decided : world.decide? ids = some (.ambiguous candidates)) :
    2 ≤ ids.length ∧ candidates = world.candidatesOf ids := by
  rw [decide?.eq_def] at decided
  split at decided
  · cases decided
  · cases decided
  · rename_i several
    cases decided
    refine ⟨?_, rfl⟩
    rcases ids with _ | ⟨first, _ | ⟨second, rest⟩⟩
    · contradiction
    · exact absurd rfl (several first)
    · simp

-- A thing that is not there has no name but its id.
theorem namesOf_absent (absent : world.contains id = false) : world.namesOf id = [normalizeName (showId id)] := by
  have nothing (properties : List String) : world.choose? id properties = none := by
    unfold choose? maxAncestors
    simp [chooseFrom, Std.ExtTreeMap.getElem?_eq_none_of_contains_eq_false absent]
  simp [namesOf, nameOf, text?, aliases, nothing, nonempty?]

-- A missing thing is fitted by a part of its id at most.
theorem fits_infix {name : String} (fits : fit.holds name query = true) : query.toList <:+: name.toList := by
  cases fit with
  | exact => rw [eq_of_beq fits]
  | part =>
    refine Decidable.byContradiction fun apart => ?_
    have missed : Text.contains query.toList name.toList = false := by
      rw [Text.contains, find_none_iff.mpr apart]
      rfl
    simp [Fit.holds, missed] at fits

end Scopes

section References

variable {view : Viewpoint} {reference word : String} {place : ThingId} {candidates : List Candidate}

-- How a reference reads that is no keyword behind a percent sign.
def worded (reference : String) : String :=
  normalizeName (Text.trimmed reference)

-- A word that has no percent sign was not read behind one.
theorem resolve_worded (read : worded reference = word) (shown : word ≠ "") (unmarked : '%' ∉ word.toList) :
    world.resolve view reference = world.resolveName view (Text.trimmed reference) := by
  subst read
  have chars : (Text.trimmed reference).toList = Text.trim reference.toList := String.toList_ofList
  unfold resolve
  split
  · rename_i nothing
    rw [nothing] at chars
    have blank : Text.trimmed reference = "" := String.toList_inj.mp chars
    refine absurd ?_ shown
    rw [worded, blank]
    decide +kernel
  · rename_i keyword marked
    rw [marked] at chars
    refine absurd (mem_normalizeName ⟨by decide, by decide, by decide⟩ ?_) unmarked
    rw [chars]
    exact List.mem_cons_self
  · rfl

theorem resolve_marked {keyword : List Char} (trimmed : Text.trim reference.toList = '%' :: keyword) :
    world.resolve view reference = world.resolveKeyword view (String.ofList keyword) := by
  rw [resolve, trimmed]
  rfl

-- Behind a percent sign only what is there is found, and only one thing is.
theorem resolveKeyword_cases (world : World) (view : Viewpoint) (keyword : String) :
    world.resolveKeyword view keyword = .notFound ∨
      ∃ id, world.resolveKeyword view keyword = .found id ∧ world.contains id = true := by
  unfold resolveKeyword
  split
  · rename_i id kept
    exact .inr ⟨id, rfl, (Option.filter_eq_some_iff.mp kept).2⟩
  · exact .inl rfl

theorem resolve_percentMe (there : world.contains view.actor = true) :
    world.resolve view "%me" = .found view.actor := by
  have trimmed : Text.trim "%me".toList = '%' :: "me".toList := by decide +kernel
  have lowered : Text.asciiLower (String.ofList "me".toList) = "me" := by decide +kernel
  have actor : (world.keyword? view "me").filter world.contains = some view.actor :=
    Option.filter_some_pos there
  rw [resolve_marked trimmed, resolveKeyword, lowered, actor]

theorem resolve_percentHere : world.resolve view "%here" = foundOr ((world.location? view.actor).filter world.contains) := by
  have trimmed : Text.trim "%here".toList = '%' :: "here".toList := by decide +kernel
  have lowered : Text.asciiLower (String.ofList "here".toList) = "here" := by decide +kernel
  rw [resolve_marked trimmed, resolveKeyword, lowered]
  rfl

theorem resolve_self (read : worded reference = "me" ∨ worded reference = "myself") :
    world.resolve view reference = .found view.actor := by
  have named : world.resolve view reference = world.resolveName view (Text.trimmed reference) := by
    rcases read with read | read <;> exact resolve_worded read (by decide) (by decide)
  rw [named, resolveName]
  unfold worded at read
  rcases read with read | read <;> simp [read]

theorem resolve_here (read : worded reference = "here") :
    world.resolve view reference = foundOr (world.location? view.actor) := by
  rw [resolve_worded read (by decide) (by decide), resolveName]
  unfold worded at read
  simp [read]

theorem resolveName_cases (world : World) (view : Viewpoint) (reference : String) :
    world.resolveName view reference = .found view.actor ∨
      (normalizeName reference = "here" ∧
        world.resolveName view reference = foundOr (world.location? view.actor)) ∨
      world.resolveName view reference = world.matchScopes (world.searchScopes view.actor) reference := by
  unfold resolveName
  dsimp only
  by_cases self : (normalizeName reference == "me" || normalizeName reference == "myself") = true
  · exact .inl (if_pos self)
  by_cases here : (normalizeName reference == "here") = true
  · refine .inr (.inl ⟨eq_of_beq here, ?_⟩)
    rw [if_neg self, if_pos here]
  · refine .inr (.inr ?_)
    rw [if_neg self, if_neg here]

-- All ways in which a reference is answered: by nothing, by something that is there, by the place, or by a name.
theorem resolve_cases (there : world.contains view.actor = true) (reference : String) :
    world.resolve view reference = .notFound ∨
      (∃ id, world.resolve view reference = .found id ∧ world.contains id = true) ∨
      (worded reference = "here" ∧ world.resolve view reference = foundOr (world.location? view.actor)) ∨
      world.resolve view reference = world.matchScopes (world.searchScopes view.actor) (Text.trimmed reference) := by
  unfold resolve
  split
  · exact .inl rfl
  · rcases resolveKeyword_cases world view _ with none | found
    · exact .inl none
    · exact .inr (.inl found)
  · rcases resolveName_cases world view (Text.trimmed reference) with self | place | named
    · exact .inr (.inl ⟨_, self, there⟩)
    · exact .inr (.inr (.inl place))
    · exact .inr (.inr (.inr named))

end References

section Names

variable {actor : ThingId} {query : String} {candidates : List Candidate}

theorem named_found (housed : world.HousedBut []) (there : world.contains actor = true)
    (found : world.matchScopes (world.searchScopes actor) query = .found id) :
    world.contains id = true ∨
      world.location? actor = some id ∧ (normalizeName query).toList <:+: (showId id).toList := by
  rcases matchScopes_decided found with none | ⟨scope, member, fit, decided⟩
  · cases none
  · have hit : id ∈ world.hits scope query fit := by
      rw [decide_found decided]
      exact List.mem_singleton_self id
    obtain ⟨among, named⟩ := List.mem_filter.mp hit
    rcases (scope_present housed there member).2 with present | ⟨here, place, rfl⟩
    · exact .inl (present id among)
    · cases List.mem_singleton.mp among
      cases held : world.contains id with
      | true => exact .inl rfl
      | false =>
        refine .inr ⟨place, ?_⟩
        simp only [namesOf_absent held, normalizeName_showId, List.any_cons, List.any_nil, Bool.or_false] at named
        exact fits_infix named

-- A place is no two things, so where there are several all of them are there.
theorem named_ambiguous (housed : world.HousedBut []) (there : world.contains actor = true)
    (several : world.matchScopes (world.searchScopes actor) query = .ambiguous candidates) :
    2 ≤ candidates.length ∧ (candidates.map Candidate.id).Nodup ∧
      ∀ candidate ∈ candidates, world.contains candidate.id = true ∧ candidate.name = world.displayName candidate.id := by
  rcases matchScopes_decided several with none | ⟨scope, member, fit, decided⟩
  · cases none
  · obtain ⟨two, rfl⟩ := decide_ambiguous decided
    obtain ⟨distinct, present⟩ := scope_present housed there member
    have ids : (world.candidatesOf (world.hits scope query fit)).map Candidate.id = world.hits scope query fit := by
      simp [candidatesOf, Function.comp_def]
    refine ⟨by simpa [candidatesOf] using two, ?_, ?_⟩
    · rw [ids]
      exact distinct.filter _
    · intro candidate listed
      obtain ⟨id, hit, rfl⟩ := List.mem_map.mp listed
      have among := (List.mem_filter.mp hit).1
      rcases present with present | ⟨here, place, rfl⟩
      · exact ⟨present id among, rfl⟩
      · have fewer : (world.hits [here] query fit).length ≤ 1 := List.length_filter_le _ _
        omega

end Names

section References

variable {view : Viewpoint}

-- Only the place of the actor is found without being there: by its keyword, or by a part of its id where nothing else is
-- fitted.
theorem references_name_what_is_there (arises : Arises world) (there : world.contains view.actor = true)
    (reference : String) :
    (∀ id, world.resolve view reference = .found id → world.contains id = true ∨ world.location? view.actor = some id ∧
      (worded reference = "here" ∨ (worded reference).toList <:+: (showId id).toList)) ∧
    (∀ candidates, world.resolve view reference = .ambiguous candidates →
      2 ≤ candidates.length ∧ (candidates.map Candidate.id).Nodup ∧ ∀ candidate ∈ candidates,
        world.contains candidate.id = true ∧ candidate.name = world.displayName candidate.id) ∧
    (∀ keyword, Text.trim reference.toList = '%' :: keyword → world.resolve view reference = .notFound ∨
      ∃ id, world.resolve view reference = .found id ∧ world.contains id = true) ∧
    (worded reference = "me" ∨ worded reference = "myself" →
      world.resolve view reference = .found view.actor ∧ world.resolve view "%me" = .found view.actor) ∧
    (worded reference = "here" →
      world.resolve view reference = foundOr (world.location? view.actor) ∧
      world.resolve view "%here" = foundOr ((world.location? view.actor).filter world.contains) ∧
      (world.resolve view reference = world.resolve view "%here" ↔
        ∀ place, world.location? view.actor = some place → world.contains place = true)) ∧
    ∀ {hand : Bool} {α : Type} {steps : Run α} {result : Except Failure α} {world' : World}, Built hand steps →
      steps.run world = some (result, world') → Arises world' := by
  obtain ⟨_, housed⟩ := arises_housed arises
  refine ⟨?_, ?_, ?_, ?_, ?_, ?_⟩
  · intro id found
    rcases resolve_cases there reference with same | ⟨other, same, held⟩ | ⟨here, same⟩ | same <;> rw [same] at found
    · cases found
    · cases found
      exact .inl held
    · cases place : world.location? view.actor with
      | none => simp [place, foundOr] at found
      | some other =>
        rw [place] at found
        cases found
        exact .inr ⟨rfl, .inl here⟩
    · exact (named_found housed there found).imp_right fun missing => ⟨missing.1, .inr missing.2⟩
  · intro candidates several
    rcases resolve_cases there reference with same | ⟨other, same, _⟩ | ⟨_, same⟩ | same <;> rw [same] at several
    · cases several
    · cases several
    · cases place : world.location? view.actor <;> simp [place, foundOr] at several
    · exact named_ambiguous housed there several
  · intro keyword trimmed
    rw [resolve_marked trimmed]
    exact resolveKeyword_cases world view _
  · exact fun read => ⟨resolve_self read, resolve_percentMe there⟩
  · intro read
    refine ⟨resolve_here read, resolve_percentHere, ?_⟩
    rw [resolve_here read, resolve_percentHere]
    cases place : world.location? view.actor with
    | none => simp
    | some here => cases held : world.contains here <;> simp [foundOr, Option.filter, held]
  · intro hand α steps result world' built ran
    obtain ⟨moments, unfolds, _⟩ := charted_built built world result world' ran
    exact arises_after arises unfolds

-- Somebody is made and put where nothing is.
def strand : Run ThingId := do
  let guest ← (Operation.create "guest" "").run
  (Operation.setLocation guest 99).run
  return guest

theorem built_strand : Built false strand :=
  .follows (.calls (.create "guest" "") fun byHand => nomatch byHand) fun guest =>
    .follows (.calls (.setLocation guest 99) fun byHand => nomatch byHand) fun _ => .gives (.ok guest)

theorem stranded_guests_find_a_missing_place :
    ∃ start guest world, openOn .inMemory ⟨"new", .standard, 1000, fun _ => 0⟩ = .ok start ∧
      strand.run start = some (.ok guest, world) ∧ Arises world ∧ world.contains guest = true ∧
      world.contains 99 = false ∧ world.resolve (.of guest) "here" = .found 99 ∧
      world.resolve (.of guest) "%here" = .notFound := by
  have checked : opensTo .inMemory ⟨"new", .standard, 1000, fun _ => 0⟩ (fun start =>
      Run.gives (strand.run start) fun guest world =>
        world.contains guest && !world.contains 99 && decide (world.location? guest = some 99)) = true := by
    decide +kernel
  obtain ⟨start, opened, checked⟩ := opensTo_iff.mp checked
  obtain ⟨guest, world, ran, checked⟩ := Run.gives_iff.mp checked
  obtain ⟨checked, place⟩ := Bool.and_eq_true_iff.mp checked
  obtain ⟨there, missing⟩ := Bool.and_eq_true_iff.mp checked
  have place := of_decide_eq_true place
  have absent : world.contains 99 = false := by simpa using missing
  have reached := Reached.seeded rfl opened (Store.own_of_empty Store.empty_inMemory _)
  obtain ⟨moments, unfolds, _⟩ := charted_built built_strand start _ world ran
  have arises := arises_after (arises_of_reached reached) unfolds
  have seen : world.contains (Viewpoint.of guest).actor = true := there
  obtain ⟨_, _, _, _, here, _⟩ := references_name_what_is_there arises seen "here"
  obtain ⟨plain, marked, _⟩ := here (by decide +kernel)
  refine ⟨start, guest, world, opened, ran, arises, there, absent, ?_, ?_⟩
  · rw [plain, show world.location? (Viewpoint.of guest).actor = some 99 from place]
    rfl
  · rw [marked, show world.location? (Viewpoint.of guest).actor = some 99 from place, Option.filter_some_neg]
    · rfl
    · simp [absent]

end References

end ThingWorld.World
