import ThingWorld.Proofs.Snapshot.RoundTrip
namespace ThingWorld
namespace Snapshot

-- What the reader finds is of a kind, and with more bytes behind it finds the same.
def Finds {α : Type} (read : Reader α) (kind : α → Prop) : Prop :=
  ∀ bytes a rest, read bytes = some (a, rest) → kind a ∧ ∀ more, read (bytes ++ more) = some (a, rest ++ more)

section Steps

variable {α β : Type} {read : Reader α} {kind : α → Prop} {kind' : β → Prop}

theorem finds_give {b : β} (is : kind' b) : Finds (fun bytes => some (b, bytes)) kind' := by
  intro bytes a rest read
  cases read
  exact ⟨is, fun more => rfl⟩

theorem finds_none : Finds (fun _ => none) kind := by
  intro bytes a rest read
  cases read

theorem finds_bind {next : α × Bytes → Option (β × Bytes)} (first : Finds read kind)
    (rest : ∀ a, kind a → Finds (fun bytes => next (a, bytes)) kind') : Finds (fun bytes => read bytes >>= next) kind' := by
  intro bytes b left found
  obtain ⟨⟨a, middle⟩, found, others⟩ := Option.bind_eq_some_iff.mp found
  obtain ⟨is, further⟩ := first bytes a middle found
  obtain ⟨is', further'⟩ := rest a is middle b left others
  refine ⟨is', fun more => ?_⟩
  show (read (bytes ++ more)).bind next = _
  rw [further more]
  exact further' more

theorem finds_map {f : α → β} (first : Finds read kind) (is : ∀ a, kind a → kind' (f a)) :
    Finds (fun bytes => (read bytes).map fun (a, bytes) => (f a, bytes)) kind' := by
  intro bytes b left found
  obtain ⟨⟨a, middle⟩, found, same⟩ := Option.map_eq_some_iff.mp found
  cases same
  obtain ⟨is', further⟩ := first bytes a left found
  exact ⟨is a is', fun more => congrArg (Option.map _) (further more)⟩

theorem finds_weaker {wider : α → Prop} (finds : Finds read kind) (implies : ∀ a, kind a → wider a) :
    Finds read wider := by
  intro bytes a rest found
  obtain ⟨is, further⟩ := finds bytes a rest found
  exact ⟨implies a is, further⟩

end Steps

section Words

-- A word stands in its width, the low byte first.
theorem writeWord_getElem (width : Nat) : ∀ n place, place < width →
    (writeWord width n)[place]? = some (UInt8.ofNat (n / 256 ^ place)) := by
  induction width with
  | zero => exact fun n place inside => absurd inside (Nat.not_lt_zero place)
  | succ width ih =>
    intro n place inside
    rw [writeWord]
    cases place with
    | zero =>
      have low : UInt8.ofNat (n % 256) = UInt8.ofNat n := UInt8.ofNat_mod_size
      rw [List.getElem?_cons_zero, low, Nat.pow_zero, Nat.div_one]
    | succ place =>
      rw [List.getElem?_cons_succ, ih (n / 256) place (Nat.lt_of_succ_lt_succ inside), Nat.div_div_eq_div_mul,
        Nat.pow_succ, Nat.mul_comm]

theorem finds_uint8 : Finds readUInt8 fun _ => True := by
  intro bytes n rest found
  cases bytes with
  | nil => cases found
  | cons b bytes =>
    cases found
    exact ⟨trivial, fun more => rfl⟩

theorem finds_word (width : Nat) : Finds (readWord width) (· < 256 ^ width) := by
  induction width with
  | zero => exact finds_give (by decide)
  | succ width ih =>
    intro bytes n rest found
    cases bytes with
    | nil => cases found
    | cons low bytes =>
      have digits : Finds (fun bytes => readWord width bytes >>= fun high => some (low.toNat + 256 * high.1, high.2))
          (· < 256 ^ (width + 1)) := by
        refine finds_bind ih fun high small => finds_give (b := low.toNat + 256 * high) ?_
        have digit := low.toNat_lt
        rw [Nat.pow_succ]
        omega
      exact digits bytes n rest found

theorem finds_uint64 : Finds readUInt64 fun _ => True :=
  finds_bind (finds_word 8) fun _ _ => finds_give trivial

theorem finds_int64 : Finds readInt64 fun _ => True :=
  finds_bind finds_uint64 fun _ _ => finds_give trivial

theorem finds_flag : Finds readFlag fun _ => True := by
  intro bytes b rest found
  rw [readFlag.eq_def] at found
  split at found
  · cases found
    exact ⟨trivial, fun more => rfl⟩
  · cases found
    exact ⟨trivial, fun more => rfl⟩
  · cases found

theorem finds_text : Finds readText FitsText := by
  refine finds_bind (finds_word 8) fun n small => ?_
  intro bytes s rest found
  dsimp only at found
  split at found
  · rename_i whole
    simp only [Option.bind_eq_bind, Option.bind_eq_some_iff] at found
    obtain ⟨s', valid, same⟩ := found
    cases same
    have long : n ≤ bytes.length := by
      rw [List.length_take] at whole
      omega
    have content : s.toByteArray.data.toList = bytes.take n := by
      rw [String.fromUTF8?] at valid
      split at valid
      · cases valid
        rfl
      · cases valid
    refine ⟨?_, fun more => ?_⟩
    · rw [FitsText, content, whole]
      exact small
    · dsimp only
      rw [List.take_append_of_le_length long, List.drop_append_of_le_length long, if_pos whole, valid]
      rfl
  · cases found

end Words

section Sequences

variable {α β : Type} {read : Reader α} {kind : α → Prop}

theorem finds_option (each : Finds read kind) : Finds (readOption read) fun a => ∀ b, a = some b → kind b := by
  intro bytes a rest found
  rw [readOption.eq_def] at found
  split at found
  · cases found
    exact ⟨fun b present => (nomatch present), fun more => rfl⟩
  · rename_i bytes
    have held : Finds (fun bytes => do let (a, bytes) ← read bytes; some (some a, bytes))
        fun a => ∀ b, a = some b → kind b :=
      finds_bind each fun a is => finds_give fun b present => Option.some.inj present ▸ is
    exact held bytes a rest found
  · cases found

theorem finds_times (each : Finds read kind) (count : Nat) :
    Finds (readTimes read count) fun items => items.length = count ∧ ∀ a ∈ items, kind a := by
  induction count with
  | zero => exact finds_give ⟨rfl, fun a member => nomatch member⟩
  | succ count ih =>
    refine finds_bind each fun a is => finds_bind ih fun rest are => finds_give ⟨congrArg Nat.succ are.1, ?_⟩
    intro b member
    rcases List.mem_cons.mp member with rfl | member
    · exact is
    · exact are.2 b member

theorem finds_many (each : Finds read kind) :
    Finds (readMany read) fun items => Fits items.length ∧ ∀ a ∈ items, kind a := by
  refine finds_bind (finds_word 8) fun count small => finds_weaker (finds_times each count) ?_
  rintro items ⟨rfl, are⟩
  exact ⟨small, are⟩

theorem finds_pair {read' : Reader β} {kind' : β → Prop} (first : Finds read kind) (second : Finds read' kind') :
    Finds (readPair read read') fun pair => kind pair.1 ∧ kind' pair.2 :=
  finds_bind first fun _ is => finds_bind second fun _ is' => finds_give ⟨is, is'⟩

end Sequences

section Tables

variable {α : Type}

theorem mem_insertMany (entries : List (String × α)) : ∀ {table : Std.ExtTreeMap String α} {entry : String × α},
    entry ∈ (table.insertMany entries).toList → entry ∈ table.toList ∨ entry ∈ entries := by
  induction entries with
  | nil => exact fun member => .inl member
  | cons first rest ih =>
    intro table entry member
    rw [Std.ExtTreeMap.insertMany_cons] at member
    rcases ih member with member | member
    · rw [Std.ExtTreeMap.mem_toList_iff_getElem?_eq_some, Std.ExtTreeMap.getElem?_insert] at member
      split at member
      · rename_i same
        refine .inr (List.mem_cons.mpr (.inl ?_))
        exact Prod.ext (Std.LawfulEqOrd.eq_of_compare same).symm (Option.some.inj member).symm
      · exact .inl (Std.ExtTreeMap.mem_toList_iff_getElem?_eq_some.mpr member)
    · exact .inr (List.mem_cons_of_mem first member)

-- A table has at most the entries it was made of.
theorem mem_ofList {entries : List (String × α)} {entry : String × α}
    (member : entry ∈ (Std.ExtTreeMap.ofList entries).toList) : entry ∈ entries := by
  rw [Std.ExtTreeMap.ofList_eq_insertMany_empty] at member
  refine (mem_insertMany entries member).resolve_left fun before => ?_
  have found := Std.ExtTreeMap.mem_toList_iff_getElem?_eq_some.mp before
  simp at found

theorem fits_ofList {entries : List (String × α)} (fits : Fits entries.length) :
    Fits (Std.ExtTreeMap.ofList entries).toList.length := by
  rw [Std.ExtTreeMap.length_toList]
  exact Nat.lt_of_le_of_lt Std.ExtTreeMap.size_ofList_le fits

end Tables

section Parts

theorem finds_datum : Finds readDatum FitsDatum := by
  refine finds_bind (finds_word 4) fun tag _ => ?_
  rcases tag with _ | _ | _ | _ | _
  · exact finds_map finds_text fun _ fits => fits
  · exact finds_map finds_int64 fun _ _ => trivial
  · exact finds_map finds_flag fun _ _ => trivial
  · exact finds_map (finds_many finds_text) fun _ fits => fits
  · exact finds_none

theorem finds_edge : Finds readEdge fun edge => FitsText edge.property :=
  finds_bind finds_text fun _ fits => finds_bind finds_uint64 fun _ _ => finds_give fits

theorem finds_properties : Finds readProperties fun properties =>
    Fits properties.toList.length ∧ ∀ entry ∈ properties.toList, FitsText entry.1 ∧ FitsDatum entry.2 := by
  refine finds_bind (finds_many (finds_pair finds_text finds_datum)) fun entries are => finds_give ?_
  exact ⟨fits_ofList are.1, fun entry member => are.2 entry (mem_ofList member)⟩

theorem finds_thing : Finds readThing Thing.Fits := by
  refine finds_bind finds_uint64 fun id _ => finds_bind (finds_option finds_uint64) fun prototype _ => ?_
  refine finds_bind finds_properties fun properties fits => finds_bind (finds_many finds_edge) fun edges fits' => ?_
  exact finds_bind finds_uint8 fun schema _ => finds_give ⟨fits.1, fits.2, fits'.1, fits'.2⟩

theorem finds_info : Finds readInfo Info.Fits := by
  refine finds_bind finds_text fun name named => finds_bind finds_uint64 fun nextId _ => ?_
  refine finds_bind finds_uint64 fun limbo _ => finds_bind finds_uint64 fun lobby _ => ?_
  refine finds_bind finds_uint64 fun hall _ =>
    finds_bind (finds_many (finds_pair finds_text finds_uint64)) fun entries are => ?_
  refine finds_bind finds_uint64 fun clockInterval _ => finds_bind finds_uint8 fun schema _ => finds_give ?_
  exact ⟨named, fits_ofList are.1, fun entry member => (are.2 entry (mem_ofList member)).1⟩

end Parts

-- Snapshots of one entity, written in one schema and read in it.
structure SelfDelimiting {α : Type} (write : α → Bytes) (read : Bytes → Except Failure α) (fits : α → Prop)
    (entity : String) (native : UInt8) (schema : α → UInt8) : Prop where
  -- What stands behind a snapshot does not matter.
  whole : ∀ a, fits a → schema a = native → ∀ junk, read (write a ++ junk) = .ok a
  foreign : ∀ a, fits a → schema a ≠ native → ∀ junk,
    read (write a ++ junk) = .error (.schemaMismatch entity native (schema a))
  cut : ∀ a, fits a → ∀ short, short <+: write a → short ≠ write a → read short = .error .malformedSnapshot
  distinct : ∀ a b, fits a → fits b → write a = write b → a = b
  -- The snapshot that is written of what was read need not be the one that was read, but says the same.
  again : ∀ bytes a, read bytes = .ok a → fits a ∧ read (write a) = .ok a

section Entities

variable {α : Type} {write : α → Bytes} {reader : Reader α} {fits : α → Prop}

-- A snapshot without its end is no snapshot: its reader would have stopped before the end of the whole one.
theorem unread_cut (read : ∀ a, fits a → ∀ rest, reader (write a ++ rest) = some (a, rest)) (finds : Finds reader fits)
    {a : α} (fit : fits a) {short : Bytes} (cut : short <+: write a) (differs : short ≠ write a) :
    reader short = none := by
  obtain ⟨end', same⟩ := cut
  cases found : reader short with
  | none => rfl
  | some pair =>
    obtain ⟨b, rest⟩ := pair
    have further := (finds short b rest found).2 end'
    have complete := read a fit []
    rw [List.append_nil, ← same, further] at complete
    obtain ⟨_, nothing⟩ := List.append_eq_nil_iff.mp (congrArg Prod.snd (Option.some.inj complete))
    rw [nothing, List.append_nil] at same
    exact absurd same differs

theorem selfDelimiting {ofBytes : Bytes → Except Failure α} {entity : String} {native : UInt8} {schema : α → UInt8}
    (read : ∀ a, fits a → ∀ rest, reader (write a ++ rest) = some (a, rest)) (finds : Finds reader fits)
    (unread : ∀ bytes, reader bytes = none → ofBytes bytes = .error .malformedSnapshot)
    (checked : ∀ bytes a rest, reader bytes = some (a, rest) →
      ofBytes bytes = if schema a = native then .ok a else .error (.schemaMismatch entity native (schema a))) :
    SelfDelimiting write ofBytes fits entity native schema where
  whole a fit known junk := by rw [checked _ a junk (read a fit junk), if_pos known]
  foreign a fit unknown junk := by rw [checked _ a junk (read a fit junk), if_neg unknown]
  cut a fit short cut differs := unread short (unread_cut read finds fit cut differs)
  distinct a b fit fit' same := by
    have first := read a fit []
    rw [same, read b fit' []] at first
    exact (congrArg Prod.fst (Option.some.inj first)).symm
  again bytes a given := by
    cases found : reader bytes with
    | none =>
      rw [unread bytes found] at given
      cases given
    | some pair =>
      obtain ⟨b, rest⟩ := pair
      rw [checked bytes b rest found] at given
      split at given
      · rename_i known
        cases given
        have fit := (finds bytes a rest found).1
        have back := read a fit []
        rw [List.append_nil] at back
        exact ⟨fit, by rw [checked _ a [] back, if_pos known]⟩
      · cases given

end Entities
end Snapshot

open Snapshot

theorem Thing.delimited :
    SelfDelimiting Thing.toBytes Thing.ofBytes Thing.Fits "thing" Thing.currentSchema Thing.schema := by
  refine selfDelimiting (fun thing fits => read_thing fits) finds_thing ?_ ?_
  · intro bytes unread
    rw [ofBytes, unread]
  · intro bytes thing rest found
    rw [ofBytes, found]
    rfl

theorem Info.delimited :
    SelfDelimiting Info.toBytes Info.ofBytes Info.Fits "world" Info.currentSchema Info.schema := by
  refine selfDelimiting (fun info fits => read_info fits) finds_info ?_ ?_
  · intro bytes unread
    rw [ofBytes, unread]
  · intro bytes info rest found
    rw [ofBytes, found]
    rfl

-- Words have a fixed width and begin with their low byte, and what is put together of them marks its own end.
theorem snapshots_delimit_themselves :
    (∀ width n, (writeWord width n).length = width ∧
      ∀ place < width, (writeWord width n)[place]? = some (UInt8.ofNat (n / 256 ^ place))) ∧
    SelfDelimiting Thing.toBytes Thing.ofBytes Thing.Fits "thing" Thing.currentSchema Thing.schema ∧
    SelfDelimiting Info.toBytes Info.ofBytes Info.Fits "world" Info.currentSchema Info.schema :=
  ⟨fun width n => ⟨writeWord_length width n, writeWord_getElem width n⟩, Thing.delimited, Info.delimited⟩

-- Values of every kind, an edge that stands twice, and a name beyond plain letters.
def oakDoor : Thing where
  id := 7
  prototype := some 3
  properties := .ofList [(Property.name, Datum.text "Eichentür"), (Property.closed, .flag true), ("weight", .number (-80)),
    (Property.aliases, .list ["door", "扉", ""])]
  edges := [⟨"key", 9⟩, ⟨Relation.location, 1⟩, ⟨"key", 9⟩]
  schema := Thing.currentSchema

theorem doors_are_read_whole :
    oakDoor.Fits ∧ Thing.ofBytes (oakDoor.toBytes ++ [0, 255]) = .ok oakDoor ∧
      Thing.ofBytes oakDoor.toBytes.dropLast = .error .malformedSnapshot ∧
      Thing.ofBytes { oakDoor with schema := 99 }.toBytes = .error (.schemaMismatch "thing" 1 99) := by
  have fits : oakDoor.Fits := by decide +kernel
  have fits' : { oakDoor with schema := 99 }.Fits := ⟨fits.properties, fits.values, fits.edges, fits.relations⟩
  obtain ⟨_, delimited, _⟩ := snapshots_delimit_themselves
  refine ⟨fits, delimited.whole oakDoor fits rfl _, ?_, ?_⟩
  · refine delimited.cut oakDoor fits _ (List.dropLast_prefix _) ?_
    decide +kernel
  · have mismatch := delimited.foreign _ fits' (by decide) []
    rwa [List.append_nil] at mismatch

end ThingWorld
