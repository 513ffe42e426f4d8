import ThingWorld.Dump
import ThingWorld.Proofs.Json.RoundTrip
import ThingWorld.Proofs.Snapshot.RoundTrip
namespace ThingWorld

namespace Json

variable {α : Type} {write : α → Json} {read : Json → Option α}

-- Written as a plain value from which it is read back.
structure Exchanged (write : α → Json) (read : Json → Option α) (value : α) : Prop where
  plain : (write value).isPlain = true
  back : read (write value) = some value

theorem Exchanged.needed {value : α} (exchanged : Exchanged write read value) :
    need read (some (write value)) = some value :=
  exchanged.back

theorem Exchanged.given {value : α} (exchanged : Exchanged write read value) (default : α) :
    orDefault default read (some (write value)) = some value :=
  exchanged.back

section Scalars

theorem isWord_of_bounds {n : Int} (least : -9223372036854775808 ≤ n) (below : n < 18446744073709551616) :
    isWord n = true := by
  rw [isWord, Bool.and_eq_true, decide_eq_true_eq, decide_eq_true_eq]
  exact ⟨least, below⟩

theorem toNat?_integer {n bound : Nat} (below : n < bound) : toNat? bound (integer n) = some n := by
  simp [toNat?, below]

theorem exchanged_uint64 (n : UInt64) : Exchanged uint64 toUInt64? n where
  plain := isWord_of_bounds (by omega) (by have := n.toNat_lt; omega)
  back := by
    have below : n.toNat < Text.wordSize := n.toNat_lt
    rw [uint64, toUInt64?, toNat?_integer below, Option.map_some, UInt64.ofNat_toNat]

theorem exchanged_uint8 (n : UInt8) : Exchanged (fun n : UInt8 => nat n.toNat) toUInt8? n where
  plain := isWord_of_bounds (by omega) (by have := n.toNat_lt; omega)
  back := by
    have below : n.toNat < 256 := n.toNat_lt
    rw [nat, toUInt8?, toNat?_integer below, Option.map_some, UInt8.ofNat_toNat]

theorem exchanged_int64 (n : Int64) : Exchanged int64 toInt64? n where
  plain := isWord_of_bounds n.le_toInt (by have := n.toInt_lt; omega)
  back := by
    have fits : Text.fitsInt64 n.toInt = true := by
      rw [Text.fitsInt64, Bool.and_eq_true, decide_eq_true_eq, decide_eq_true_eq]
      exact ⟨n.le_toInt, n.toInt_lt⟩
    rw [int64, toInt64?, if_pos fits, Int64.ofInt_toInt]

theorem exchanged_text (s : String) : Exchanged text toText? s := ⟨rfl, rfl⟩

end Scalars

section Containers

theorem arePlain_map {values : List α} (each : ∀ value ∈ values, (write value).isPlain = true) :
    arePlain (values.map write) = true := by
  induction values with
  | nil => rfl
  | cons value values ih =>
    obtain ⟨first, others⟩ := List.forall_mem_cons.mp each
    rw [List.map_cons, arePlain, first, ih others]
    rfl

theorem mapM_written {β : Type} {write : α → β} {read : β → Option α} {values : List α}
    (each : ∀ value ∈ values, read (write value) = some value) : (values.map write).mapM read = some values := by
  induction values with
  | nil => rfl
  | cons value values ih =>
    obtain ⟨first, others⟩ := List.forall_mem_cons.mp each
    rw [List.map_cons, List.mapM_cons, first, ih others]
    rfl

theorem exchanged_list {values : List α} (each : ∀ value ∈ values, Exchanged write read value) :
    Exchanged (fun values : List α => array (values.map write)) (toList? read) values where
  plain := arePlain_map fun value among => (each value among).plain
  back := mapM_written fun value among => (each value among).back

theorem fieldsArePlain_map {values : List α} {name : α → String} (each : ∀ value ∈ values, (write value).isPlain = true) :
    fieldsArePlain (values.map fun value => (name value, write value)) = true := by
  induction values with
  | nil => rfl
  | cons value values ih =>
    obtain ⟨first, others⟩ := List.forall_mem_cons.mp each
    rw [List.map_cons, fieldsArePlain, first, ih others]
    rfl

theorem exchanged_map (each : ∀ value, Exchanged write read value) (table : Std.ExtTreeMap String α) :
    Exchanged (ofMap write) (toMap? read) table where
  plain := fieldsArePlain_map fun entry _ => (each entry.2).plain
  back := by
    have entries : ((table.toList.map fun entry => (entry.1, write entry.2)).mapM fun field : String × Json =>
        (read field.2).map fun value => (field.1, value)) = some table.toList :=
      mapM_written fun entry _ => by rw [(each entry.2).back, Option.map_some]
    refine (congrArg (fun found => found.bind fun entries => some (Std.ExtTreeMap.ofList entries)) entries).trans ?_
    rw [Option.bind_some, Snapshot.ofList_toList]

-- Null stands for no value, so no value may be written as null.
theorem exchanged_option (value : Option α) (each : ∀ value, Exchanged write read value)
    (present : ∀ value, write value ≠ null) :
    (ofOption write value).isPlain = true ∧ toOption? read (some (ofOption write value)) = some value := by
  cases value with
  | none => exact ⟨rfl, rfl⟩
  | some value =>
    refine ⟨(each value).plain, ?_⟩
    unfold toOption? ofOption
    split
    · rename_i absent
      cases absent
    · rename_i absent
      exact absurd (Option.some.inj absent) (present value)
    · rename_i same
      cases same
      rw [(each value).back]
      rfl

theorem lookup_distinct {fields : List (String × Json)} (distinct : (fields.map Prod.fst).Nodup) {field : String × Json}
    (among : field ∈ fields) : fields.lookup field.1 = some field.2 := by
  induction fields with
  | nil => cases among
  | cons first others ih =>
    obtain ⟨fresh, distinct⟩ := List.nodup_cons.mp distinct
    rcases List.mem_cons.mp among with rfl | among
    · exact List.lookup_cons_self
    · have other : field.1 ≠ first.1 := fun same => fresh (same ▸ List.mem_map_of_mem among)
      rw [List.lookup_cons, beq_eq_false_iff_ne.mpr other]
      exact ih distinct among

theorem once_of_nodup {fields : List (String × Json)} (distinct : (fields.map Prod.fst).Nodup) (name : String) :
    (fields.filter fun field => field.1 == name).length ≤ 1 := by
  have counted : (fields.filter fun field => field.1 == name).length = (fields.map Prod.fst).count name := by
    rw [List.count, List.countP_map, ← List.countP_eq_length_filter]
    rfl
  rw [counted]
  exact List.nodup_iff_count.mp distinct name

-- A record in which no field stands twice.
theorem record?_object {names : List String} {fields : List (String × Json)} (distinct : names.Nodup)
    (named : fields.map Prod.fst = names) : (object fields).record? names = some (fields.map fun field => some field.2) := by
  subst named
  rw [record?, if_pos (List.all_eq_true.mpr fun name _ => decide_eq_true (once_of_nodup distinct name)), List.map_map]
  exact congrArg some (List.map_congr_left fun field among => lookup_distinct distinct among)

end Containers

end Json

section Records

open Json

-- The writing of words under another name: the kernel counts up to their bound where it looks into it.
theorem words_written : ∃ word : UInt64 → Json, uint64 = word ∧ ∀ n, Exchanged word toUInt64? n :=
  ⟨uint64, rfl, exchanged_uint64⟩

theorem Datum.exchanged (datum : Datum) : Exchanged toJson ofJson? datum := by
  cases datum with
  | text content => exact ⟨rfl, rfl⟩
  | number n =>
    have kept := exchanged_int64 n
    refine ⟨?_, ?_⟩
    · simp [toJson, isPlain, fieldsArePlain, kept.plain]
    · simp [toJson, ofJson?, ofField?, kept.back]
  | flag value => exact ⟨rfl, rfl⟩
  | list items =>
    have kept := exchanged_list fun item (_ : item ∈ items) => exchanged_text item
    refine ⟨?_, ?_⟩
    · simp [toJson, isPlain, fieldsArePlain, texts, arePlain_map fun item (_ : item ∈ items) => (exchanged_text item).plain]
    · simp [toJson, ofJson?, ofField?, texts, kept.back]

theorem Edge.exchanged (edge : Edge) : Exchanged toJson ofJson? edge := by
  have property := exchanged_text edge.property
  obtain ⟨word, written, words⟩ := words_written
  refine ⟨?plain, ?back⟩
  case plain => simp [toJson, isPlain, fieldsArePlain, written, (words _).plain]
  case back =>
    rw [toJson, written, ofJson?, record?_object (by decide : ["prop", "target"].Nodup)]
    · simp only [List.map_cons, List.map_nil, property.needed, (words _).needed, Option.bind_eq_bind, Option.bind_some]
    · rfl

theorem Thing.exchanged (thing : Thing) : Exchanged toJson ofJson? thing := by
  obtain ⟨plainPrototype, prototype⟩ := exchanged_option thing.prototype exchanged_uint64 (fun _ => nofun)
  have properties := exchanged_map Datum.exchanged thing.properties
  have kept := exchanged_list fun edge (_ : edge ∈ thing.edges) => edge.exchanged
  have plainEdges : arePlain (thing.edges.map Edge.toJson) = true := kept.plain
  have edges : orDefault [] (toList? Edge.ofJson?) (some (.array (thing.edges.map Edge.toJson))) = some thing.edges :=
    kept.given []
  have schema := exchanged_uint8 thing.schema
  obtain ⟨word, written, words⟩ := words_written
  rw [written] at plainPrototype prototype
  refine ⟨?plain, ?back⟩
  case plain =>
    simp [toJson, isPlain, fieldsArePlain, written, (words _).plain, plainPrototype, properties.plain, plainEdges,
      schema.plain]
  case back =>
    rw [toJson, written, ofJson?, record?_object (by decide : fieldNames.Nodup)]
    · simp only [List.map_cons, List.map_nil, (words _).needed, prototype, properties.given, edges, schema.needed,
        Option.bind_eq_bind, Option.bind_some]
    · rfl

theorem Info.exchanged (info : Info) : Exchanged toJson ofJson? info := by
  have name := exchanged_text info.name
  have schema := exchanged_uint8 info.schema
  obtain ⟨word, written, words⟩ := words_written
  have prototypes := exchanged_map words info.prototypes
  refine ⟨?plain, ?back⟩
  case plain => simp [toJson, isPlain, fieldsArePlain, written, (words _).plain, prototypes.plain, schema.plain]
  case back =>
    rw [toJson, written, ofJson?, record?_object (by decide : fieldNames.Nodup)]
    · simp only [List.map_cons, List.map_nil, name.needed, (words _).needed, prototypes.needed, schema.needed,
        Option.bind_eq_bind, Option.bind_some]
    · rfl

theorem Timestamp.ofText?_text (timestamp : Timestamp) : ofText? timestamp.text = some timestamp :=
  dif_pos timestamp.named

theorem Dump.exchanged (dump : Dump) : Exchanged toJson ofJson? dump := by
  have format := exchanged_uint8 dump.format
  have exportedAt := exchanged_text dump.exportedAt.text
  have info := dump.info.exchanged
  have kept := exchanged_list fun thing (_ : thing ∈ dump.things) => thing.exchanged
  have plainThings : arePlain (dump.things.map Thing.toJson) = true := kept.plain
  have things : need (toList? Thing.ofJson?) (some (.array (dump.things.map Thing.toJson))) = some dump.things :=
    kept.needed
  refine ⟨?plain, ?back⟩
  case plain => simp [toJson, isPlain, fieldsArePlain, format.plain, info.plain, plainThings]
  case back =>
    rw [toJson, ofJson?, record?_object (by decide : fieldNames.Nodup)]
    · simp only [List.map_cons, List.map_nil, format.needed, exportedAt.needed, dump.exportedAt.ofText?_text, info.needed,
        things, Option.bind_eq_bind, Option.bind_some]
    · rfl

theorem Dump.parse_render (dump : Dump) : parse dump.render = .ok dump := by
  rw [parse, render, parse?_pretty dump.exchanged.plain, Option.bind_some, dump.exchanged.back]

end Records

end ThingWorld
