import ThingWorld.Proofs.Store.Calls
import ThingWorld.Proofs.Store.Import
namespace ThingWorld

theorem Dump.isEmptyStore_iff {store : Store} : isEmptyStore store = true ↔ store.Empty := by
  have listless : store.ids = [] ↔ ∀ id, store.get? id = none := by
    constructor
    · intro none id
      cases lies : store.get? id with
      | none => rfl
      | some blob =>
        have listed := (Store.mem_ids store id).mpr ⟨blob, lies⟩
        rw [none] at listed
        cases listed
    · intro nothing
      refine List.eq_nil_iff_forall_not_mem.mpr fun id member => ?_
      obtain ⟨blob, lies⟩ := (Store.mem_ids store id).mp member
      cases (nothing id).symm.trans lies
  rw [isEmptyStore, Bool.and_eq_true, Option.isNone_iff_eq_none, List.isEmpty_iff, listless]
  rfl

namespace Dump

def Native (thing : Thing) : Prop := thing.schema = Thing.currentSchema

instance (thing : Thing) : Decidable (Native thing) := inferInstanceAs (Decidable (_ = _))

-- The things in front of the first of another schema.
def natives (things : List Thing) : List Thing := things.takeWhile fun thing => decide (Native thing)

def stranger? (things : List Thing) : Option Thing := things.find? fun thing => !decide (Native thing)

-- The last of the things under an id, as it is written.
def blob? (things : List Thing) (id : ThingId) : Option Bytes :=
  (things.reverse.find? fun thing => thing.id == id).map Thing.toBytes

def strange (thing : Thing) : Failure := .schemaMismatch "thing" Thing.currentSchema thing.schema

theorem checkSchema_native {thing : Thing} (native : Native thing) : thing.checkSchema = .ok thing :=
  if_pos native

theorem checkSchema_strange {thing : Thing} (foreign : ¬Native thing) : thing.checkSchema = .error (strange thing) :=
  if_neg foreign

theorem blob_cons (thing : Thing) (rest : List Thing) (id : ThingId) :
    blob? (thing :: rest) id = (blob? rest id).or (if thing.id = id then some thing.toBytes else none) := by
  rw [blob?, List.reverse_cons, List.find?_append, Option.map_or, ← blob?]
  congr 1
  by_cases same : thing.id = id <;> simp [same]

theorem blob_isSome {things : List Thing} {id : ThingId} :
    (∃ blob, blob? things id = some blob) ↔ id ∈ things.map Thing.id := by
  simp [blob?, ← Option.isSome_iff_exists, List.find?_isSome]

section

variable {store : Store}

theorem issue_stays (accepts : ∀ asked call, store.refuses asked call = false) (call : StoreCall) :
    ∃ mid : Store, store.issue call = (.ok (), mid) ∧ mid.medium = store.medium.apply call ∧
      ∀ asked call, mid.refuses asked call = false :=
  ⟨_, Store.issue_accepts accepts call, rfl, accepts⟩

-- Where nothing is refused, all is put up to the first thing of another schema, and nothing after it.
theorem putThings_native (things : List Thing) : ∀ {store : Store},
    (∀ asked call, store.refuses asked call = false) → ∃ filled : Store,
      putThings store things = (((stranger? things).map strange).elim (.ok ()) .error, filled) ∧
      (∀ id, filled.get? id = (blob? (natives things) id).or (store.get? id)) ∧ filled.info = store.info ∧
      (∀ asked call, filled.refuses asked call = false) ∧ (natives things = [] → filled = store) := by
  induction things with
  | nil => exact fun accepts => ⟨_, rfl, fun _ => rfl, rfl, accepts, fun _ => rfl⟩
  | cons thing rest ih =>
    intro store accepts
    by_cases native : Native thing
    · obtain ⟨mid, issued, medium, accepts'⟩ := issue_stays accepts (.put thing.id thing.toBytes)
      obtain ⟨filled, ran, lies, info, accepts'', _⟩ := ih accepts'
      have natives_cons : natives (thing :: rest) = thing :: natives rest := by simp [natives, native]
      refine ⟨filled, ?_, ?_, ?_, accepts'', ?_⟩
      · rw [putThings, checkSchema_native native]
        dsimp only
        rw [issued]
        simpa [stranger?, native] using ran
      · intro id
        have put : mid.get? id = if thing.id = id then some thing.toBytes else store.get? id :=
          (congrArg (fun medium => medium.get? id) medium).trans (Medium.get_put _ _ _ _)
        rw [lies, natives_cons, blob_cons, put, Option.or_assoc]
        split <;> rfl
      · rw [info, Store.info, medium]
        exact Medium.info_put _ _ _
      · rw [natives_cons]
        exact fun none => absurd none (List.cons_ne_nil _ _)
    · refine ⟨store, ?_, ?_, rfl, accepts, fun _ => rfl⟩
      · rw [putThings, checkSchema_strange native]
        simp [stranger?, native]
      · intro id
        simp [natives, native, blob?]

variable {dump : Dump}

-- The whole of what a dump that is not refused writes, and how far it comes.
theorem write_native (accepts : ∀ asked call, store.refuses asked call = false) (unrefused : dump.refusal? store = none) :
    ∃ filled : Store, dump.write store = (((stranger? dump.things).map strange).elim (.ok ()) .error, filled) ∧
      (∀ id, filled.get? id = (blob? (natives dump.things) id).or (store.get? id)) ∧
      filled.info = (if (stranger? dump.things).isNone then some dump.raisedInfo.toBytes else store.info) ∧
      (natives dump.things = [] → stranger? dump.things ≠ none → filled = store) := by
  obtain ⟨filled, ran, lies, info, accepts', unchanged⟩ := putThings_native dump.things accepts
  rw [write, unrefused]
  dsimp only
  rw [ran]
  cases foreign : stranger? dump.things with
  | some thing => exact ⟨filled, rfl, lies, info, fun none _ => unchanged none⟩
  | none =>
    obtain ⟨noted, recorded, medium, accepts''⟩ := issue_stays accepts' (.putInfo dump.raisedInfo.toBytes)
    obtain ⟨last, flushed, medium', _⟩ := issue_stays accepts'' .flush
    have still : last.medium = noted.medium := by
      rw [medium']
      cases noted.medium <;> rfl
    refine ⟨last, ?_, ?_, ?_, fun _ differs => absurd rfl differs⟩
    · simp only [Option.map_none, Option.elim_none, issueAll, recorded, flushed]
    · intro id
      rw [← lies, Store.get?, still, medium]
      exact Medium.get_putInfo _ _ _
    · rw [Store.info, still, medium]
      exact Medium.info_putInfo _ _

end

theorem natives_whole {things : List Thing} (none : stranger? things = none) : natives things = things := by
  induction things with
  | nil => rfl
  | cons thing rest ih =>
    rw [stranger?, List.find?_eq_none] at none
    have native : decide (Native thing) = true := by simpa using none thing List.mem_cons_self
    have whole := ih (List.find?_eq_none.mpr fun other member => none other (List.mem_cons_of_mem thing member))
    rw [natives] at whole ⊢
    rw [List.takeWhile_cons, if_pos native, whole]

end Dump

namespace World

variable {store left : Store} {dump : Dump} {text : String} {limits : Limits} {dice : Nat → Fin 100} {failure : Failure}

-- What an import leaves that was not refused and still fails.
structure Residue (dump : Dump) (failure : Failure) (left : Store) : Prop where
  lies : ∀ id, left.get? id = Dump.blob? (Dump.natives dump.things) id
  -- A thing of another schema ends it, and no world record is written.
  broken : ∀ thing, Dump.stranger? dump.things = some thing → left.info = none ∧ failure = Dump.strange thing
  -- Without one all is written; what was written well is then refused just for the schema of the record.
  whole : Dump.stranger? dump.things = none → left.info = some dump.raisedInfo.toBytes ∧
    ((∀ thing ∈ dump.things, thing.Fits) → dump.info.Fits → dump.info.schema ≠ Info.currentSchema ∧
      failure = .schemaMismatch "world" Info.currentSchema dump.info.schema)

theorem raised_fits (fits : dump.info.Fits) : dump.raisedInfo.Fits := by
  obtain ⟨next, same⟩ := dump.raised_same
  rw [same]
  exact ⟨fits.name, fits.prototypes, fits.names⟩

-- A store in which all that lies is readable is refused over its record alone.
theorem unopened {options : Options} {bytes : Bytes} (recorded : store.info = some bytes)
    (readable : ∀ id bytes, store.get? id = some bytes → ∃ thing, Thing.ofBytes bytes = .ok thing)
    (failed : openOn store options = .error (failure, left)) : Info.ofBytes bytes = .error failure ∧ left = store := by
  cases read : Info.ofBytes bytes with
  | ok info =>
    obtain ⟨world, opened⟩ := reloads recorded read readable options
    rw [failed] at opened
    cases opened
  | error failure' =>
    rw [openOn, recorded] at failed
    dsimp only at failed
    rw [load, read] at failed
    cases failed
    exact ⟨rfl, rfl⟩

theorem unopened_stays {options : Options} {bytes : Bytes} (recorded : store.info = some bytes)
    (failed : openOn store options = .error (failure, left)) : left = store := by
  rw [openOn, recorded] at failed
  dsimp only at failed
  cases loaded : load store options bytes with
  | ok world =>
    rw [loaded] at failed
    cases failed
  | error failure' =>
    rw [loaded] at failed
    cases failed
    rfl

theorem residue_of_failed (empty : store.Empty) (accepts : ∀ asked call, store.refuses asked call = false)
    (unrefused : dump.refusal? store = none) (failed : importDump store dump limits dice = .error (failure, left)) :
    Residue dump failure left ∧ (Dump.natives dump.things = [] → left = store) := by
  obtain ⟨filled, ran, lies, info, unchanged⟩ := Dump.write_native accepts unrefused
  have lies (id : ThingId) : filled.get? id = Dump.blob? (Dump.natives dump.things) id := by
    rw [lies, empty.2, Option.or_none]
  rw [importDump, ran] at failed
  cases foreign : Dump.stranger? dump.things with
  | some thing =>
    rw [foreign] at failed info unchanged
    cases failed
    refine ⟨⟨lies, ?_, ?_⟩, fun none => unchanged none (by simp)⟩
    · intro other first
      rw [foreign] at first
      cases first
      exact ⟨info.trans empty.1, rfl⟩
    · intro none
      rw [foreign] at none
      cases none
  | none =>
    rw [foreign] at failed info
    have all := Dump.natives_whole foreign
    have recorded : filled.info = some dump.raisedInfo.toBytes := info
    have same := unopened_stays recorded failed
    refine ⟨⟨same ▸ lies, ?_, fun _ => ⟨same ▸ recorded, ?_⟩⟩, ?_⟩
    · intro thing first
      rw [foreign] at first
      cases first
    · intro fitting fits
      have readable : ∀ id bytes, filled.get? id = some bytes → ∃ thing, Thing.ofBytes bytes = .ok thing := by
        intro id bytes found
        rw [lies, all, Dump.blob?] at found
        obtain ⟨thing, last, rfl⟩ := Option.map_eq_some_iff.mp found
        have member : thing ∈ dump.things := List.mem_reverse.mp (List.mem_of_find?_eq_some last)
        have native : Dump.Native thing := by
          have none := List.find?_eq_none.mp foreign thing member
          simpa using none
        exact ⟨thing, (Thing.ofBytes_toBytes (fitting thing member)).trans (Dump.checkSchema_native native)⟩
      obtain ⟨unread, _⟩ := unopened recorded readable failed
      obtain ⟨next, same⟩ := dump.raised_same
      rw [Info.ofBytes_toBytes (raised_fits fits), same, Info.checkSchema] at unread
      split at unread
      · cases unread
      · rename_i other
        cases unread
        exact ⟨other, rfl⟩
    · intro none
      obtain ⟨_, limbo, _⟩ := Dump.unrefused unrefused
      rw [all] at none
      simp [Dump.ids, none] at limbo

theorem outcome_of_failed (failed : importText store text limits dice = .error (failure, left)) :
    ((∀ dump, Dump.parse text = .ok dump → dump.refusal? store ≠ none) ∧ left = store) ∨
      ∃ dump, Dump.parse text = .ok dump ∧ dump.refusal? store = none ∧
        importDump store dump limits dice = .error (failure, left) := by
  rw [importText] at failed
  cases read : Dump.parse text with
  | error failure' =>
    rw [read] at failed
    cases failed
    exact .inl ⟨nofun, rfl⟩
  | ok dump =>
    rw [read] at failed
    dsimp only at failed
    cases refusal : dump.refusal? store with
    | none => exact .inr ⟨dump, rfl, refusal, failed⟩
    | some failure' =>
      rw [importDump, Dump.write, refusal] at failed
      cases failed
      refine .inl ⟨?_, rfl⟩
      rintro _ ⟨⟩
      rw [refusal]
      exact Option.some_ne_none failure

theorem refused_when_taken (taken : ¬left.Empty) (read : Dump.parse text = .ok dump)
    (current : dump.format = Dump.currentFormat) :
    importText left text limits dice = .error (.invalidCommand "import target is not empty", left) := by
  have full : (!Dump.isEmptyStore left) = true := by
    rw [Bool.not_eq_true', Bool.eq_false_iff]
    exact Dump.isEmptyStore_iff.not.mpr taken
  have refusal : dump.refusal? left = some (.invalidCommand "import target is not empty") := by
    rw [Dump.refusal?, if_neg (not_not.mpr current), if_pos full]
  rw [importText, read]
  dsimp only
  rw [importDump, Dump.write, refusal]

-- An import that fails leaves nothing behind just when it came no further than to the first thing, because that is of
-- another schema; else what it put stays, and no other import is taken by the store.
theorem failed_imports_leave_what_was_put (empty : store.Empty) (accepts : ∀ asked call, store.refuses asked call = false)
    (failed : importText store text limits dice = .error (failure, left)) :
    (left.Empty ↔ ∀ dump, Dump.parse text = .ok dump → dump.refusal? store = none → Dump.natives dump.things = []) ∧
    (left.Empty → left = store) ∧
    (∀ dump, Dump.parse text = .ok dump → dump.refusal? store = none → Residue dump failure left) ∧
    (¬left.Empty → ∀ text dump limits dice, Dump.parse text = .ok dump → dump.format = Dump.currentFormat →
      importText left text limits dice = .error (.invalidCommand "import target is not empty", left)) := by
  have later (taken : ¬left.Empty) (text dump limits dice) (read : Dump.parse text = .ok dump)
      (current : dump.format = Dump.currentFormat) :
      importText left text limits dice = .error (.invalidCommand "import target is not empty", left) :=
    refused_when_taken taken read current
  rcases outcome_of_failed failed with ⟨refused, rfl⟩ | ⟨dump, read, unrefused, failed⟩
  · exact ⟨⟨fun _ dump read unrefused => absurd unrefused (refused dump read), fun _ => empty⟩, fun _ => rfl,
      fun dump read unrefused => absurd unrefused (refused dump read), later⟩
  · obtain ⟨residue, untouched⟩ := residue_of_failed empty accepts unrefused failed
    have nothing (bare : left.Empty) : Dump.natives dump.things = [] := by
      refine List.eq_nil_iff_forall_not_mem.mpr fun thing member => ?_
      obtain ⟨blob, lies⟩ := Dump.blob_isSome.mpr (List.mem_map_of_mem member)
      cases (bare.2 thing.id).symm.trans ((residue.lies thing.id).trans lies)
    refine ⟨⟨?_, ?_⟩, fun bare => untouched (nothing bare), ?_, later⟩
    · intro bare other read' _
      cases read.symm.trans read'
      exact nothing bare
    · intro none
      rw [untouched (none dump read unrefused)]
      exact empty
    · intro other read' _
      cases read.symm.trans read'
      exact residue

-- A dump of one world record and of things that differ only in their schemas.
def dumpText (things : String) : String :=
  "\x7b\"format_version\":1,\"exported_at\":\"2024-01-02T03:04:05Z\",\"info\":\x7b\"name\":\"tiny\",\"next_id\":1," ++
  "\"limbo\":0,\"lobby\":0,\"hall_of_prototypes\":0,\"prototypes\":\x7b\x7d,\"clock_interval_ms\":9," ++
  "\"schema_version\":1\x7d,\"things\":[" ++ things ++ "]\x7d"

def soundThing : String := "\x7b\"id\":0,\"schema_version\":1\x7d"

def strangeThing : String := "\x7b\"id\":1,\"schema_version\":7\x7d"

def tornText : String := dumpText (soundThing ++ "," ++ strangeThing)

def mendedText : String := dumpText soundThing

-- Once the second thing has been refused, the store does not take the mended dump.
theorem torn_import_spoils_its_store :
    ∃ left, importText .inMemory tornText .standard (fun _ => 0) = .error (.schemaMismatch "thing" 1 7, left) ∧
      Store.inMemory.Empty ∧ ¬left.Empty ∧
      importText left mendedText .standard (fun _ => 0) =
        .error (.invalidCommand "import target is not empty", left) := by
  have checked : (match importText .inMemory tornText .standard fun _ => 0 with
      | .error (failure, left) => decide (failure = .schemaMismatch "thing" 1 7) && (left.get? 0).isSome
      | .ok _ => false) = true := by decide +kernel
  have readable : (match Dump.parse mendedText with
      | .ok dump => decide (dump.format = Dump.currentFormat)
      | .error _ => false) = true := by decide +kernel
  cases failed : importText .inMemory tornText .standard fun _ => 0 with
  | ok world =>
    rw [failed] at checked
    cases checked
  | error ended =>
    obtain ⟨failure, left⟩ := ended
    rw [failed] at checked
    obtain ⟨named, lies⟩ := Bool.and_eq_true_iff.mp checked
    cases of_decide_eq_true named
    have taken : ¬left.Empty := by
      intro bare
      rw [bare.2] at lies
      cases lies
    obtain ⟨_, _, _, later⟩ :=
      failed_imports_leave_what_was_put Store.empty_inMemory (fun _ _ => rfl) failed
    cases read : Dump.parse mendedText with
    | error failure =>
      rw [read] at readable
      cases readable
    | ok dump =>
      rw [read] at readable
      exact ⟨left, rfl, Store.empty_inMemory, taken,
        later taken mendedText dump .standard _ read (of_decide_eq_true readable)⟩

end World
end ThingWorld
