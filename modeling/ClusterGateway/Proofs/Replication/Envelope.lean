import ClusterGateway.Proofs.Json.Document
import ClusterGateway.Proofs.Replication.Agreement
import ClusterGateway.Proofs.Text.Date

/-! # Snapshots on disk

On its way to the disk and back a snapshot passes through a document of any shape, in which the
members of every object are put in order, and through a text on several lines. What comes back is
the same snapshot in the same envelope.
-/

namespace ClusterGateway

open Json (Spells Fills Value Patient)
open Json.Reader (spells_string spells_strings spells_list spells_dict spells_integer)
open Json.Value (Regular Writing compact_list compact_object)

/-- A list of texts is written as such a list is written as a document. -/
theorem Json.Value.compact_strings (items : List String) :
    (Value.list (items.map .string)).compact = Json.Write.strings items := by
  rw [compact_list, List.map_map]
  rfl

/-- A dictionary is written as its document is. -/
theorem Json.Value.compact_dict {α : Type} (value : α → Value) (d : Dict α) :
    (Value.object (d.map fun _ a => value a).entries).compact =
      Json.Write.dict (fun a => (value a).compact) d := by
  rw [compact_object, Json.Write.dict, Dict.map, List.map_map]
  rfl

theorem Json.Value.Writing.strings (depth : Nat) (items : List String) :
    Writing (depth + 2) (Json.Write.strings items) (.list (items.map .string)) :=
  .list fun s _ => .string depth s

/-! ### The documents of a state -/

namespace Location

/-- A location as a document. -/
def document (l : Location) : Value :=
  .object
    [("balance_mode", .string l.balanceMode), ("pattern", .string l.pattern),
     ("proxy_pass", .list (l.proxyPass.map .string))]

/-- The fields of a location as they are written. -/
def members (l : Location) : List (String × String × Value) :=
  [("pattern", Json.Write.string l.pattern, .string l.pattern),
   ("proxy_pass", Json.Write.strings l.proxyPass, .list (l.proxyPass.map .string)),
   ("balance_mode", Json.Write.string l.balanceMode, .string l.balanceMode)]

/-- The members of a location put in order of their names are its document. -/
theorem ofMembers_members (l : Location) :
    Value.ofMembers (l.members.map fun m => (m.1, m.2.2)) = l.document := by
  simp +decide only [Value.ofMembers, Dict.ofList, Dict.insert, Dict.empty, Dict.place, members,
    List.map, List.foldl, if_true, if_false, document]

/-- A location spells its document. -/
theorem writing (depth : Nat) (l : Location) : Writing (depth + 3) l.json l.document := by
  rw [← ofMembers_members]
  refine Writing.object (depth + 1) l.members ?_
  simp only [members, List.forall_mem_cons, List.not_mem_nil, false_imp_iff, implies_true, and_true]
  exact ⟨.string _ _, .strings _ _, .string _ _⟩

/-- A location is read from its document as well, with the fields in another order. -/
theorem spells_document (l : Location) : Spells reader (utf8 l.document.compact) l := by
  rw [document, compact_object]
  exact Json.Record.spells_object
    { pattern := some l.pattern, proxyPass := some l.proxyPass, balanceMode := some l.balanceMode }
    (.step _ rfl rfl ((spells_string _).andThen fun _ => rfl) <|
      .step _ rfl rfl ((spells_string _).andThen fun _ => rfl) <|
      .step _ rfl rfl ((Value.compact_strings _ ▸ spells_strings _).andThen fun _ => rfl) <|
      .done _) rfl

end Location

namespace LimiterSetting

/-- A setting as a document. -/
def document (s : LimiterSetting) : Value :=
  .object
    [("duration", .whole s.duration), ("limiterType", .string s.kind), ("pathName", .string s.path),
     ("prefix", .string s.pattern), ("speed", .whole s.speed), ("volume", .whole s.volume)]

/-- The fields of a setting as they are written. -/
def members (s : LimiterSetting) : List (String × String × Value) :=
  [("prefix", Json.Write.string s.pattern, .string s.pattern),
   ("pathName", Json.Write.string s.path, .string s.path),
   ("limiterType", Json.Write.string s.kind, .string s.kind),
   ("volume", Json.Write.integer s.volume, .whole s.volume),
   ("speed", Json.Write.integer s.speed, .whole s.speed),
   ("duration", Json.Write.integer s.duration, .whole s.duration)]

theorem ofMembers_members (s : LimiterSetting) :
    Value.ofMembers (s.members.map fun m => (m.1, m.2.2)) = s.document := by
  simp +decide only [Value.ofMembers, Dict.ofList, Dict.insert, Dict.empty, Dict.place, members,
    List.map, List.foldl, if_true, if_false, document]

/-- A setting whose numbers fit spells its document. -/
theorem writing (depth : Nat) {s : LimiterSetting} (fits : s.Fits) :
    Writing (depth + 2) s.json s.document := by
  rw [← ofMembers_members]
  refine Writing.object depth s.members ?_
  simp only [members, List.forall_mem_cons, List.not_mem_nil, false_imp_iff, implies_true, and_true]
  obtain ⟨volume, speed, duration⟩ := fits
  exact ⟨.string _ _, .string _ _, .string _ _, .whole _ volume.1 (by omega),
    .whole _ speed.1 (by omega), .whole _ (by omega) (by omega)⟩

/-- A setting is read from its document as well. -/
theorem spells_document {s : LimiterSetting} (fits : s.Fits) :
    Spells reader (utf8 s.document.compact) s := by
  rw [document, compact_object]
  exact Json.Record.spells_object
    { pattern := some s.pattern, path := some s.path, kind := some s.kind,
      volume := some s.volume, speed := some s.speed, duration := some s.duration }
    (.step _ rfl rfl ((spells_unsigned fits.duration).andThen fun _ => rfl) <|
      .step _ rfl rfl ((spells_string _).andThen fun _ => rfl) <|
      .step _ rfl rfl ((spells_string _).andThen fun _ => rfl) <|
      .step _ rfl rfl ((spells_string _).andThen fun _ => rfl) <|
      .step _ rfl rfl ((spells_signed fits.speed).andThen fun _ => rfl) <|
      .step _ rfl rfl ((spells_signed fits.volume).andThen fun _ => rfl) <| .done _) rfl

end LimiterSetting

namespace RoutingState

/-- The limiter settings of each pattern as a document. -/
def limitersDocument (s : RoutingState) : Value :=
  .object (s.limiters.map fun _ settings => .list (settings.map LimiterSetting.document)).entries

/-- The locations as a document. -/
def locationsDocument (s : RoutingState) : Value :=
  .object (s.locations.map fun _ l => l.document).entries

/-- The routing part as a document. -/
def document (s : RoutingState) : Value :=
  .object
    [("limiters", s.limitersDocument), ("locations", s.locationsDocument),
     ("router_type", .string s.routerType)]

/-- The fields of the routing part as they are written. -/
def members (s : RoutingState) : List (String × String × Value) :=
  [("router_type", Json.Write.string s.routerType, .string s.routerType),
   ("locations", Json.Write.dict Location.json s.locations, s.locationsDocument),
   ("limiters", Json.Write.dict
      (fun settings => Json.Write.list (settings.map LimiterSetting.json)) s.limiters,
    s.limitersDocument)]

theorem ofMembers_members (s : RoutingState) :
    Value.ofMembers (s.members.map fun m => (m.1, m.2.2)) = s.document := by
  simp +decide only [Value.ofMembers, Dict.ofList, Dict.insert, Dict.empty, Dict.place, members,
    List.map, List.foldl, if_true, if_false, document]

/-- The routing part spells its document, if all of its numbers fit. -/
theorem writing (depth : Nat) {s : RoutingState} (fits : s.Fits) :
    Writing (depth + 6) s.json s.document := by
  have each (e : String × List LimiterSetting) (member : e ∈ s.limiters.entries) :
      ∀ l ∈ e.2, l.Fits := fits e.1 e.2 (Dict.get?_eq_some_iff.2 member)
  rw [← ofMembers_members]
  refine Writing.object (depth + 4) s.members ?_
  simp only [members, List.forall_mem_cons, List.not_mem_nil, false_imp_iff, implies_true, and_true]
  exact ⟨.string _ _, .dict fun e _ => e.2.writing (depth + 1), .dict fun e member =>
    .list fun l listed => LimiterSetting.writing (depth + 1) (each e member l listed)⟩

/-- The routing part is read from its document as well. -/
theorem spells_document {s : RoutingState} (fits : s.Fits) :
    Spells reader (utf8 s.document.compact) s := by
  have limiters : Spells (Json.Reader.dict (Json.Reader.list LimiterSetting.reader))
      (utf8 s.limitersDocument.compact) s.limiters := by
    rw [limitersDocument, Value.compact_dict]
    refine spells_dict _ fun e member => ?_
    rw [compact_list, List.map_map]
    exact spells_list e.2 fun l listed =>
      LimiterSetting.spells_document (fits e.1 e.2 (Dict.get?_eq_some_iff.2 member) l listed)
  have locations : Spells (Json.Reader.dict Location.reader)
      (utf8 s.locationsDocument.compact) s.locations := by
    rw [locationsDocument, Value.compact_dict]
    exact spells_dict _ fun e _ => e.2.spells_document
  rw [document, compact_object]
  exact Json.Record.spells_object
    ⟨some s.routerType, some s.locations, some s.limiters⟩
    (.step _ rfl rfl (limiters.andThen fun _ => rfl) <|
      .step _ rfl rfl (locations.andThen fun _ => rfl) <|
      .step _ rfl rfl ((spells_string _).andThen fun _ => rfl) <| .done _) rfl

end RoutingState

namespace StateSnapshot

/-- The blocked networks as a document. -/
def recordsDocument (s : StateSnapshot) : Value :=
  .object [("records", .list (s.records.map .string))]

/-- A snapshot as a document. -/
def document (s : StateSnapshot) : Value :=
  .object [("acl", s.recordsDocument), ("routing", s.routing.document)]

/-- A snapshot whose numbers fit spells its document, at any depth that leaves room for it. -/
theorem writing {s : StateSnapshot} (fits : s.routing.Fits) (depth : Nat) :
    Writing (depth + 7) s.json s.document := by
  have records : Writing (depth + 6)
      (Json.Write.object [("records", Json.Write.strings s.records)]) s.recordsDocument :=
    Writing.object (depth + 4)
      [("records", Json.Write.strings s.records, .list (s.records.map .string))]
      (List.forall_mem_singleton.2 (.strings _ _))
  have written := Writing.object (depth + 5)
    [("routing", s.routing.json, s.routing.document),
     ("acl", Json.Write.object [("records", Json.Write.strings s.records)], s.recordsDocument)] (by
      simp only [List.forall_mem_cons, List.not_mem_nil, false_imp_iff, implies_true, and_true]
      exact ⟨RoutingState.writing depth fits, records⟩)
  have sorted : Value.ofMembers
      [("routing", s.routing.document), ("acl", s.recordsDocument)] = s.document := by
    simp +decide only [Value.ofMembers, Dict.ofList, Dict.insert, Dict.empty, Dict.place,
      List.foldl, if_true, document]
  rw [← sorted]
  exact written

/-- A snapshot is read from its document as well. -/
theorem ofBytes_document {s : StateSnapshot} (fits : s.routing.Fits) :
    ofBytes (utf8 s.document.compact) = .ok s := by
  have records : Spells aclRecord.read (utf8 s.recordsDocument.compact) s.records := by
    rw [recordsDocument, compact_object]
    exact Json.Record.spells_object _
      (.step _ rfl rfl ((Value.compact_strings _ ▸ spells_strings _).andThen fun _ => rfl) <|
        .done _) rfl
  have spelt : Spells record.read (utf8 s.document.compact) s := by
    rw [document, compact_object]
    exact Json.Record.spells_object (some s.routing, some s.records)
      (.step _ rfl rfl (records.andThen fun _ => rfl) <|
        .step _ rfl rfl ((RoutingState.spells_document fits).andThen fun _ => rfl) <|
        .done _) rfl
  rw [ofBytes, Json.readAll_of_spells spelt]
  rfl

end StateSnapshot

/-! ### The envelope -/

namespace PersistedSnapshot

/-- The state in an envelope is a document that can be read back. -/
theorem wrap_toBytes {s : StateSnapshot} (fits : s.routing.Fits) (index : LogIndex)
    (date : Timestamp) (node : NodeName) :
    wrap index date node s.toBytes = .ok ⟨index, date, node, s.document⟩ := by
  have parsed : Value.parse s.toBytes = .ok s.document :=
    (StateSnapshot.writing fits 121).parse
  rw [wrap, parsed]
  rfl

/-- The fields of the record on disk are patient readers: none of them gives up before the end of
its value. -/
theorem patient_fill : ∀ field ∈ record.fields, ∀ draft, Patient (field.fill draft) := by
  intro field member draft
  simp only [record, List.mem_cons, List.not_mem_nil, or_false] at member
  rcases member with rfl | rfl | rfl | rfl
  · exact (Json.patient_integer _ _).bind _
  · exact (Json.patient_string.bind _).bind _
  · exact Json.patient_string.bind _
  · exact (Value.patient_reader _).bind _

/-- The index of a record on disk is read back. -/
theorem spells_index (index : LogIndex) :
    Spells (Json.Reader.integer 0 (Nat.pow 2 64 - 1 : Nat))
      (utf8 (Json.Write.integer index.val.toNat)) index.val.toNat := by
  have small := index.val.toNat_lt
  exact spells_integer (by omega) (by omega)
    ⟨Int.natCast_nonneg _, Int.ofNat_le.2 (Nat.le_sub_one_of_lt small)⟩

/-- The date of a record on disk is read back, if it is a valid one. -/
theorem spells_timestamp {t : Timestamp} (valid : t.Valid) :
    Spells timestamp (utf8 (Json.Write.string t.text)) t :=
  (spells_string t.text).andThen fun rest => by
    simp only [Timestamp.parse?_text valid]
    rfl

/-- An envelope that is written on several lines is read back. -/
theorem ofBytes_toBytes {p : PersistedSnapshot} (valid : p.createdAt.Valid)
    (regular : Regular Value.nesting p.state) : ofBytes p.toBytes = .ok p := by
  have fills : Fills record.fields record.blank
      ([("index", Value.whole p.index.val.toNat), ("created_at", .string p.createdAt.text),
        ("node", .string p.node.text), ("state", p.state)].map fun m => (m.1, m.2.pretty 1))
      ⟨some p.index.val.toNat, some p.createdAt, some p.node.text, some p.state⟩ :=
    .step _ rfl rfl ((spells_index p.index).andThen fun _ => rfl) <|
    .step _ rfl rfl ((spells_timestamp valid).andThen fun _ => rfl) <|
    .step _ rfl rfl ((spells_string p.node.text).andThen fun _ => rfl) <|
    .step _ rfl rfl ((regular.spells_pretty 1).andThen fun _ => rfl) <| .done _
  have complete : record.finish
      ⟨some p.index.val.toNat, some p.createdAt, some p.node.text, some p.state⟩ = some p := by
    obtain ⟨⟨index⟩, createdAt, node, state⟩ := p
    change some (PersistedSnapshot.mk ⟨index.toNat.toUInt64⟩ createdAt node state) = _
    rw [show index.toNat.toUInt64 = index from UInt64.ofNat_toNat]
  have spelt := Value.spells_prettyObject patient_fill 0 _ fills complete
  rw [ofBytes, toBytes, document, Json.readAll_of_spells spelt]
  rfl

/-- A snapshot that is wrapped and written is read back with the same index, and the state in it is
the same. -/
theorem ofBytes_wrapped {s : StateSnapshot} (fits : s.routing.Fits) {index : LogIndex}
    {date : Timestamp} (valid : date.Valid) {node : NodeName} {wrapped : PersistedSnapshot}
    (done : wrap index date node s.toBytes = .ok wrapped) :
    ofBytes wrapped.toBytes = .ok wrapped ∧ wrapped.index = index ∧ wrapped.node = node ∧
      StateSnapshot.ofBytes wrapped.stateBytes = .ok s := by
  rw [wrap_toBytes fits] at done
  obtain rfl := Except.ok.inj done
  exact ⟨ofBytes_toBytes valid (StateSnapshot.writing fits 120).regular, rfl, rfl,
    StateSnapshot.ofBytes_document fits⟩

end PersistedSnapshot

namespace Storage

/-- What is written to a directory is read back. -/
theorem load_write {storage after : Storage} {works : Bool} {p : PersistedSnapshot}
    (kept : storage ≠ .memory) (written : storage.write works p = .ok after) :
    after ≠ .memory ∧
      (PersistedSnapshot.ofBytes p.toBytes = .ok p → after.load = .ok (some p)) := by
  rw [write.eq_def] at written
  split at written
  · exact absurd rfl kept
  · exact nomatch written
  · exact nomatch written
  · split at written
    · obtain rfl := Except.ok.inj written
      refine ⟨(fun same => nomatch same), fun back => ?_⟩
      simp only [load, content?, back, bind, Except.bind, pure, Except.pure]
    · exact nomatch written

end Storage

/-- The greatest index that fits into 64 bits. -/
def LogIndex.greatest : LogIndex := ⟨0xFFFFFFFFFFFFFFFF⟩

namespace StateSnapshot

/-- A state is read back from its stored form; and wrapped up with any index and name, in which its
objects are put in order, and written to disk, it is read back from there with that index and
name. -/
theorem read_back_from_disk {s : StateSnapshot} (fits : s.routing.Fits) (index : LogIndex)
    {date : Timestamp} (valid : date.Valid) (node : NodeName) :
    ofBytes s.toBytes = .ok s ∧
      ∃ p, PersistedSnapshot.wrap index date node s.toBytes = .ok p ∧
        Regular Value.nesting p.state ∧ PersistedSnapshot.ofBytes p.toBytes = .ok p ∧
        p.index = index ∧ p.createdAt = date ∧ p.node = node ∧ ofBytes p.stateBytes = .ok s ∧
        ∀ path file, (∀ fault, file ≠ .unreadable fault) →
          ∃ after, (Storage.folder path file).write true p = .ok after ∧
            after.load = .ok (some p) := by
  have regular : Regular Value.nesting s.document := (writing fits 120).regular
  have back : PersistedSnapshot.ofBytes (PersistedSnapshot.mk index date node s.document).toBytes =
      .ok ⟨index, date, node, s.document⟩ := PersistedSnapshot.ofBytes_toBytes valid regular
  refine ⟨ofBytes_toBytes fits, _, PersistedSnapshot.wrap_toBytes fits index date node, regular,
    back, rfl, rfl, rfl, ofBytes_document fits, fun path file readable => ?_⟩
  have written : (Storage.folder path file).write true ⟨index, date, node, s.document⟩ =
      .ok (.folder path (.file (PersistedSnapshot.mk index date node s.document).toBytes)) := by
    cases file with
    | unreadable fault => exact absurd rfl (readable fault)
    | absent => rfl
    | file content => rfl
  have kept : Storage.folder path file ≠ .memory := nofun
  exact ⟨_, written, (Storage.load_write kept written).2 back⟩

/-- A state with names of all kinds, of which some are out of order in the stored form, and with
numbers at their bounds. -/
def extremeState : StateSnapshot where
  routing :=
    { routerType := "\"\\\x00\x7f"
      locations := Dict.ofList
        [("/b", ⟨"/b", ["http://[::1]:80", "é\u2028😀"], ""⟩), ("", ⟨"/a", [], "\n"⟩)]
      limiters := Dict.ofList
        [("/b",
          [{ pattern := "/b", path := "\t", kind := "qps"
             volume := -2 ^ 63, speed := 2 ^ 63 - 1, duration := 2 ^ 64 - 1 }]),
         ("/", [])] }
  records := ["10.0.0.0/8", "no network", "10.0.0.0/8"]

/-- The extreme state is read back from disk, though its text there is another one. -/
theorem read_back_from_disk_extremes :
    extremeState.routing.Fits ∧ Timestamp.epoch.Valid ∧
      ofBytes extremeState.toBytes = .ok extremeState ∧
      ∃ p, PersistedSnapshot.wrap .greatest .epoch ⟨"né\""⟩ extremeState.toBytes = .ok p ∧
        PersistedSnapshot.ofBytes p.toBytes = .ok p ∧ p.index = .greatest ∧
        p.node = ⟨"né\""⟩ ∧ ofBytes p.stateBytes = .ok extremeState ∧
        p.stateBytes ≠ extremeState.toBytes := by
  have fits : extremeState.routing.Fits := by
    intro pattern settings found
    have all : ∀ e ∈ extremeState.routing.limiters.entries, ∀ l ∈ e.2, l.Fits := by
      have entries : extremeState.routing.limiters.entries =
          [("/", []), ("/b",
            [{ pattern := "/b", path := "\t", kind := "qps"
               volume := -2 ^ 63, speed := 2 ^ 63 - 1, duration := 2 ^ 64 - 1 }])] := by
        decide +kernel
      rw [entries]
      simp only [List.forall_mem_cons, List.not_mem_nil, false_imp_iff, implies_true, and_true,
        true_and]
      exact ⟨by decide, by decide, by decide⟩
    exact all _ (Dict.get?_eq_some_iff.1 found)
  have reordered : (PersistedSnapshot.wrap .greatest .epoch ⟨"né\""⟩
      extremeState.toBytes).toOption.map PersistedSnapshot.stateBytes ≠
        some extremeState.toBytes := by decide +kernel
  obtain ⟨plain, p, wrapped, -, back, index, -, node, state, -⟩ :=
    read_back_from_disk fits .greatest Timestamp.valid_epoch ⟨"né\""⟩
  rw [wrapped] at reordered
  exact ⟨fits, Timestamp.valid_epoch, plain, p, wrapped, back, index, node, state,
    fun same => reordered (congrArg some same)⟩

end StateSnapshot

namespace Consensus

/-- A snapshot that is taken is written to the directory, if there is one. -/
theorem takeSnapshot_written {c after : Consensus} {ctx : StepContext} {index : LogIndex}
    (kept : c.storage ≠ .memory) (taken : c.takeSnapshot ctx = .ok (index, after)) :
    ∃ wrapped, PersistedSnapshot.wrap c.lastIndex ctx.date c.node c.primary.snapshot =
        .ok wrapped ∧ c.storage.write ctx.storageWorks wrapped = .ok after.storage := by
  rw [takeSnapshot] at taken
  dsimp only at taken
  split at taken
  · next memory => exact absurd memory kept
  · obtain ⟨wrapped, wrap, taken⟩ := exists_of_bind_ok taken
    obtain ⟨storage, written, taken⟩ := exists_of_bind_ok taken
    obtain ⟨-, rfl⟩ := Prod.mk.inj (Except.ok.inj taken)
    exact ⟨wrapped, wrap, written⟩

/-- A commit after which a snapshot is due does not change where snapshots are kept. -/
theorem storage_takeDueSnapshot {c : Consensus} (kept : c.storage ≠ .memory) (ctx : StepContext) :
    (c.takeDueSnapshot ctx).storage ≠ .memory := by
  rw [takeDueSnapshot]
  split
  · cases taken : c.takeSnapshot ctx with
    | ok result =>
        obtain ⟨index, after⟩ := result
        obtain ⟨wrapped, -, written⟩ := takeSnapshot_written kept taken
        exact (Storage.load_write kept written).1
    | error error => exact kept
  · exact kept

end Consensus

end ClusterGateway
