import Mathlib.Algebra.Group.Nat.Defs
import ThingWorld.Snapshot
namespace ThingWorld
namespace Snapshot

def Fits (length : Nat) : Prop := length < 256 ^ 8

def FitsText (s : String) : Prop := Fits s.toByteArray.data.toList.length

def FitsDatum : Datum → Prop
  | .text s => FitsText s
  | .list items => Fits items.length ∧ ∀ item ∈ items, FitsText item
  | .number _ => True
  | .flag _ => True

instance (length : Nat) : Decidable (Fits length) := inferInstanceAs (Decidable (length < 256 ^ 8))

instance (s : String) : Decidable (FitsText s) := inferInstanceAs (Decidable (Fits _))

instance (datum : Datum) : Decidable (FitsDatum datum) :=
  match datum with
  | .text s => inferInstanceAs (Decidable (FitsText s))
  | .list items => inferInstanceAs (Decidable (Fits items.length ∧ ∀ item ∈ items, FitsText item))
  | .number _ => .isTrue trivial
  | .flag _ => .isTrue trivial

section Words

theorem read_word (width : Nat) : ∀ {n : Nat}, n < 256 ^ width → ∀ rest : Bytes,
    readWord width (writeWord width n ++ rest) = some (n, rest) := by
  induction width with
  | zero =>
    intro n small rest
    have zero : n = 0 := by simpa using small
    rw [zero]
    rfl
  | succ width ih =>
    intro n small rest
    have high : n / 256 < 256 ^ width := by
      rw [Nat.pow_succ] at small
      exact Nat.div_lt_of_lt_mul (Nat.mul_comm _ _ ▸ small)
    have low : (UInt8.ofNat (n % 256)).toNat = n % 256 := by simp
    rw [writeWord, List.cons_append, readWord, ih high rest]
    simp only [bind, Option.bind, low, Nat.mod_add_div]

theorem writeWord_length (width : Nat) : ∀ n, (writeWord width n).length = width := by
  induction width with
  | zero => exact fun n => rfl
  | succ width ih => exact fun n => congrArg (· + 1) (ih (n / 256))

theorem write_read_word (width : Nat) : ∀ {bytes : Bytes}, bytes.length = width →
    ∃ n, readWord width bytes = some (n, []) ∧ writeWord width n = bytes ∧ n < 256 ^ width := by
  induction width with
  | zero =>
    intro bytes long
    obtain rfl := List.length_eq_zero_iff.mp long
    exact ⟨0, rfl, rfl, Nat.one_pos⟩
  | succ width ih =>
    intro bytes long
    cases bytes with
    | nil => cases long
    | cons b rest =>
      obtain ⟨high, read, written, small⟩ := ih (Nat.succ.inj long)
      have byte := b.toNat_lt
      refine ⟨b.toNat + 256 * high, ?_, ?_, ?_⟩
      · rw [readWord, read]
        rfl
      · have low : (b.toNat + 256 * high) % 256 = b.toNat := by omega
        have rest' : (b.toNat + 256 * high) / 256 = high := by omega
        rw [writeWord, low, rest', written, UInt8.ofNat_toNat]
      · rw [Nat.pow_succ]
        omega

theorem read_length {n : Nat} (fits : Fits n) (rest : Bytes) : readLength (writeLength n ++ rest) = some (n, rest) :=
  read_word 8 fits rest

theorem read_uint64 (n : UInt64) (rest : Bytes) : readUInt64 (writeUInt64 n ++ rest) = some (n, rest) := by
  rw [readUInt64, writeUInt64, read_word 8 n.toNat_lt rest]
  simp

theorem read_int64 (n : Int64) (rest : Bytes) : readInt64 (writeInt64 n ++ rest) = some (n, rest) := by
  rw [readInt64, writeInt64, read_uint64]
  simp

theorem read_uint8 (n : UInt8) (rest : Bytes) : readUInt8 (writeUInt8 n ++ rest) = some (n, rest) := rfl

theorem read_flag (b : Bool) (rest : Bytes) : readFlag (writeFlag b ++ rest) = some (b, rest) := by
  cases b <;> rfl

theorem read_text {s : String} (fits : FitsText s) (rest : Bytes) : readText (writeText s ++ rest) = some (s, rest) := by
  rw [readText, writeText]
  dsimp only
  rw [List.append_assoc, read_length fits]
  have valid : (⟨s.toByteArray.data.toList.toArray⟩ : ByteArray).IsValidUTF8 := s.isValidUTF8
  simp only [bind, Option.bind, List.take_left', List.drop_left', ↓reduceIte]
  rw [String.fromUTF8?, dif_pos valid]
  rfl

end Words

section Sequences

variable {α β : Type} {read : Reader α} {write : α → Bytes}

theorem read_option {a : Option α} (each : ∀ b, a = some b → ∀ rest, read (write b ++ rest) = some (b, rest))
    (rest : Bytes) : readOption read (writeOption write a ++ rest) = some (a, rest) := by
  cases a with
  | none => rfl
  | some b =>
    rw [writeOption, List.cons_append, readOption, each b rfl]
    rfl

theorem read_times {items : List α} (each : ∀ a ∈ items, ∀ rest, read (write a ++ rest) = some (a, rest)) :
    ∀ rest, readTimes read items.length (items.flatMap write ++ rest) = some (items, rest) := by
  induction items with
  | nil => exact fun rest => rfl
  | cons a items ih =>
    intro rest
    have first := each a List.mem_cons_self
    have others := ih fun b member => each b (List.mem_cons_of_mem a member)
    rw [List.length_cons, readTimes, List.flatMap_cons, List.append_assoc, first]
    simp [others]

theorem read_many {items : List α} (fits : Fits items.length)
    (each : ∀ a ∈ items, ∀ rest, read (write a ++ rest) = some (a, rest)) (rest : Bytes) :
    readMany read (writeMany write items ++ rest) = some (items, rest) := by
  rw [readMany, writeMany, List.append_assoc, read_length fits]
  exact read_times each rest

theorem read_pair {read' : Reader β} {write' : β → Bytes} {pair : α × β}
    (first : ∀ rest, read (write pair.1 ++ rest) = some (pair.1, rest))
    (second : ∀ rest, read' (write' pair.2 ++ rest) = some (pair.2, rest)) (rest : Bytes) :
    readPair read read' (writePair write write' pair ++ rest) = some (pair, rest) := by
  rw [readPair, writePair, List.append_assoc, first]
  simp [second]

end Sequences

section Parts

theorem read_tag {n : Nat} (small : n < 256 ^ 4) (rest : Bytes) : readTag (writeTag n ++ rest) = some (n, rest) :=
  read_word 4 small rest

theorem read_datum {datum : Datum} (fits : FitsDatum datum) (rest : Bytes) :
    readDatum (writeDatum datum ++ rest) = some (datum, rest) := by
  cases datum with
  | text s =>
    rw [readDatum, writeDatum, List.append_assoc, read_tag (by decide)]
    simp [read_text fits]
  | number n =>
    rw [readDatum, writeDatum, List.append_assoc, read_tag (by decide)]
    simp [read_int64]
  | flag b =>
    rw [readDatum, writeDatum, List.append_assoc, read_tag (by decide)]
    simp [read_flag]
  | list items =>
    rw [readDatum, writeDatum, List.append_assoc, read_tag (by decide)]
    simp [read_many fits.1 fun item member => read_text (fits.2 item member)]

theorem read_edge {edge : Edge} (fits : FitsText edge.property) (rest : Bytes) :
    readEdge (writeEdge edge ++ rest) = some (edge, rest) := by
  rw [readEdge, writeEdge, List.append_assoc, read_text fits]
  simp [read_uint64]

theorem read_entries {α : Type} {read : Reader α} {write : α → Bytes} {table : Std.ExtTreeMap String α}
    (fits : Fits table.toList.length)
    (each : ∀ entry ∈ table.toList, FitsText entry.1 ∧ ∀ rest, read (write entry.2 ++ rest) = some (entry.2, rest))
    (rest : Bytes) :
    readMany (readPair readText read) (writeMany (writePair writeText write) table.toList ++ rest) =
      some (table.toList, rest) := by
  refine read_many fits ?_ rest
  intro entry member
  obtain ⟨name, value⟩ := each entry member
  exact read_pair (read_text name) value

theorem ofList_toList {α : Type} (table : Std.ExtTreeMap String α) : Std.ExtTreeMap.ofList table.toList = table := by
  refine Std.ExtTreeMap.ext_getElem? fun name => ?_
  cases found : table[name]? with
  | some value =>
    exact Std.ExtTreeMap.getElem?_ofList_of_mem Std.compare_self table.distinct_keys_toList
      (Std.ExtTreeMap.mem_toList_iff_getElem?_eq_some.mpr found)
  | none =>
    refine Std.ExtTreeMap.getElem?_ofList_of_contains_eq_false ?_
    rw [Std.ExtTreeMap.map_fst_toList_eq_keys, List.contains_eq_mem, decide_eq_false_iff_not, Std.ExtTreeMap.mem_keys]
    simpa using found

end Parts
end Snapshot

open Snapshot

structure Thing.Fits (thing : Thing) : Prop where
  properties : Snapshot.Fits thing.properties.toList.length
  values : ∀ entry ∈ thing.properties.toList, FitsText entry.1 ∧ FitsDatum entry.2
  edges : Snapshot.Fits thing.edges.length
  relations : ∀ edge ∈ thing.edges, FitsText edge.property

structure Info.Fits (info : Info) : Prop where
  name : FitsText info.name
  prototypes : Snapshot.Fits info.prototypes.toList.length
  names : ∀ entry ∈ info.prototypes.toList, FitsText entry.1

instance (thing : Thing) : Decidable thing.Fits :=
  decidable_of_iff (Snapshot.Fits thing.properties.toList.length ∧
      (∀ entry ∈ thing.properties.toList, FitsText entry.1 ∧ FitsDatum entry.2) ∧
      Snapshot.Fits thing.edges.length ∧ ∀ edge ∈ thing.edges, FitsText edge.property)
    ⟨fun ⟨properties, values, edges, relations⟩ => ⟨properties, values, edges, relations⟩,
      fun fits => ⟨fits.properties, fits.values, fits.edges, fits.relations⟩⟩

instance (info : Info) : Decidable info.Fits :=
  decidable_of_iff (FitsText info.name ∧ Snapshot.Fits info.prototypes.toList.length ∧
      ∀ entry ∈ info.prototypes.toList, FitsText entry.1)
    ⟨fun ⟨name, prototypes, names⟩ => ⟨name, prototypes, names⟩, fun fits => ⟨fits.name, fits.prototypes, fits.names⟩⟩

theorem Snapshot.read_thing {thing : Thing} (fits : thing.Fits) (rest : Bytes) :
    readThing (writeThing thing ++ rest) = some (thing, rest) := by
  have entries := read_entries fits.properties fun entry member =>
    ⟨(fits.values entry member).1, read_datum (fits.values entry member).2⟩
  have edges := read_many fits.edges fun edge member => read_edge (fits.relations edge member)
  have prototype := read_option fun id (_ : thing.prototype = some id) => read_uint64 id
  simp [readThing, writeThing, writeProperties, readProperties, read_uint64, read_uint8, entries, edges, prototype,
    ofList_toList]

theorem Snapshot.read_info {info : Info} (fits : info.Fits) (rest : Bytes) :
    readInfo (writeInfo info ++ rest) = some (info, rest) := by
  have prototypes := read_entries fits.prototypes fun entry member =>
    ⟨fits.names entry member, read_uint64 entry.2⟩
  simp [readInfo, writeInfo, read_uint64, read_uint8, read_text fits.name, prototypes, ofList_toList]

theorem Thing.ofBytes_toBytes {thing : Thing} (fits : thing.Fits) : Thing.ofBytes thing.toBytes = thing.checkSchema := by
  have read := read_thing fits []
  rw [List.append_nil] at read
  rw [ofBytes, toBytes, read]

theorem Info.ofBytes_toBytes {info : Info} (fits : info.Fits) : Info.ofBytes info.toBytes = info.checkSchema := by
  have read := read_info fits []
  rw [List.append_nil] at read
  rw [ofBytes, toBytes, read]

theorem Info.eq_of_ofBytes {info again : Info} (fits : info.Fits) (read : Info.ofBytes info.toBytes = .ok again) :
    again = info := by
  rw [ofBytes_toBytes fits, checkSchema] at read
  split at read
  · exact (Except.ok.inj read).symm
  · cases read

theorem Thing.schema_of_ofBytes {bytes : Bytes} {thing : Thing} (read : Thing.ofBytes bytes = .ok thing) :
    thing.schema = currentSchema := by
  unfold ofBytes checkSchema at read
  split at read
  · cases read
  · split at read
    · rename_i same
      cases read
      exact same
    · cases read

theorem Info.schema_of_ofBytes {bytes : Bytes} {info : Info} (read : Info.ofBytes bytes = .ok info) :
    info.schema = currentSchema := by
  unfold ofBytes checkSchema at read
  split at read
  · cases read
  · split at read
    · rename_i same
      cases read
      exact same
    · cases read

-- The id stands first, so it is read back however long the rest is.
theorem Thing.ofBytes_id {thing other : Thing} (read : Thing.ofBytes thing.toBytes = .ok other) :
    other.id = thing.id := by
  have first (rest : Bytes) : ∀ pair, readThing (writeUInt64 thing.id ++ rest) = some pair → pair.1.id = thing.id := by
    intro pair found
    rw [readThing, read_uint64] at found
    simp only [Option.bind_eq_bind, Option.bind_some, Option.bind_eq_some_iff, Option.some.injEq] at found
    obtain ⟨_, _, _, _, _, _, _, _, rfl⟩ := found
    rfl
  rw [ofBytes] at read
  cases found : readThing thing.toBytes with
  | none =>
    rw [found] at read
    cases read
  | some pair =>
    rw [found] at read
    have same : pair.1.id = thing.id := by
      rw [toBytes, writeThing] at found
      simp only [List.append_assoc] at found
      exact first _ pair found
    obtain ⟨found, left⟩ := pair
    dsimp only at read
    rw [checkSchema] at read
    split at read
    · cases read
      exact same
    · cases read

end ThingWorld
