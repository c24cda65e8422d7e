import ClusterGateway.Proofs.Replication.EntryCodec
import ClusterGateway.Replication.Snapshot

/-! # The stored form of snapshots

A snapshot whose numbers fit into 64 bits is read back from its stored form, so two snapshots with
one stored form are one snapshot. What is read from any octets has such numbers.
-/

namespace ClusterGateway

open Json (Spells Fills Gives)
open Json.Reader (spells_string spells_strings spells_list spells_dict)

namespace RoutingState

/-- The numbers of all limiter settings fit into 64 bits. -/
def Fits (s : RoutingState) : Prop :=
  ∀ pattern settings, s.limiters.get? pattern = some settings → ∀ l ∈ settings, l.Fits

/-- The limiters of all patterns are read back from the text in which they are written. -/
theorem spells_limiters {s : RoutingState} (fits : s.Fits) :
    Spells (Json.Reader.dict (Json.Reader.list LimiterSetting.reader))
      (utf8 (Json.Write.dict
        (fun settings => Json.Write.list (settings.map LimiterSetting.json)) s.limiters))
      s.limiters :=
  spells_dict _ fun e member => spells_list e.2 fun l listed =>
    LimiterSetting.spells (fits e.1 e.2 (Dict.get?_eq_some_iff.2 member) l listed)

/-- The routing part of a snapshot is read back from the text in which it is written. -/
theorem spells {s : RoutingState} (fits : s.Fits) : Spells reader (utf8 s.json) s :=
  Json.Record.spells_object
    ⟨some s.routerType, some s.locations, some s.limiters⟩
    (.step _ rfl rfl ((spells_string _).andThen fun _ => rfl) <|
      .step _ rfl rfl ((spells_dict _ fun e _ => e.2.spells).andThen fun _ => rfl) <|
      .step _ rfl rfl ((spells_limiters fits).andThen fun _ => rfl) <| .done _) rfl

/-- The numbers of the limiter settings that a draft has so far fit into 64 bits. -/
def Draft.Fits (d : Draft) : Prop :=
  ∀ limiters ∈ d.limiters, ∀ pattern settings, limiters.get? pattern = some settings →
    ∀ l ∈ settings, l.Fits

/-- A routing part that is made of a draft whose numbers fit has numbers that fit. -/
theorem fits_of_finish {d : Draft} {s : RoutingState} (kept : d.Fits)
    (complete : record.finish d = some s) : s.Fits := by
  obtain ⟨routerType, locations, limiters⟩ := d
  simp only [record, Option.bind_eq_bind, Option.bind_eq_some_iff, Option.pure_def,
    Option.some.injEq] at complete
  obtain ⟨_, rfl, _, rfl, all, rfl, rfl⟩ := complete
  exact kept all rfl

/-- Whatever is read as a routing part has numbers that fit into 64 bits. -/
theorem gives_fits : Gives reader Fits := by
  refine Gives.record record Draft.Fits ?_ ?_ fun _ _ => fits_of_finish
  · intro field member draft kept
    simp only [record, List.mem_cons, List.not_mem_nil, or_false] at member
    rcases member with rfl | rfl | rfl
    · exact .after fun _ => .pure kept
    · exact .after fun _ => .pure kept
    · exact .bind (.dict (.list LimiterSetting.gives_fits)) fun limiters each =>
        .pure fun all same => Option.some.inj same ▸ each
  · exact fun limiters given => absurd given (by simp [record])

end RoutingState

namespace StateSnapshot

/-- The blocked networks of a snapshot are read back from the text in which they are written. -/
theorem spells_records (records : List String) :
    Spells aclRecord.read
      (utf8 (Json.Write.object [("records", Json.Write.strings records)])) records :=
  Json.Record.spells_object _
    (.step _ rfl rfl ((spells_strings _).andThen fun _ => rfl) <| .done _) rfl

/-- A snapshot is read back from the text in which it is written. -/
theorem spells {s : StateSnapshot} (fits : s.routing.Fits) : Spells record.read (utf8 s.json) s :=
  Json.Record.spells_object (some s.routing, some s.records)
    (.step _ rfl rfl ((RoutingState.spells fits).andThen fun _ => rfl) <|
      .step _ rfl rfl ((spells_records _).andThen fun _ => rfl) <| .done _) rfl

/-- A snapshot whose numbers fit into 64 bits is read back from its stored form. -/
theorem ofBytes_toBytes {s : StateSnapshot} (fits : s.routing.Fits) :
    ofBytes s.toBytes = .ok s := by
  rw [ofBytes, toBytes, Json.readAll_of_spells (spells fits)]
  rfl

/-- A snapshot is made of a routing part whose numbers fit, if it has one, and its own numbers
fit. -/
theorem fits_of_finish {d : Option RoutingState × Option (List String)} {s : StateSnapshot}
    (kept : ∀ routing ∈ d.1, routing.Fits) (complete : record.finish d = some s) :
    s.routing.Fits := by
  obtain ⟨routing, records⟩ := d
  simp only [record, Option.bind_eq_bind, Option.bind_eq_some_iff, Option.pure_def,
    Option.some.injEq] at complete
  obtain ⟨known, rfl, _, rfl, rfl⟩ := complete
  exact kept known rfl

theorem gives_fits : Gives record.read fun s => s.routing.Fits := by
  refine Gives.record record (fun d => ∀ routing ∈ d.1, routing.Fits) ?_ ?_
    fun _ _ => fits_of_finish
  · intro field member draft kept
    simp only [record, List.mem_cons, List.not_mem_nil, or_false] at member
    rcases member with rfl | rfl
    · exact .bind RoutingState.gives_fits fun routing fits => .pure fun all same =>
        Option.some.inj same ▸ fits
    · exact .after fun _ => .pure kept
  · exact fun routing given => absurd given (by simp [record])

/-- The numbers of a snapshot that is read fit into 64 bits. -/
theorem fits_of_ofBytes {bytes : Bytes} {s : StateSnapshot} (read : ofBytes bytes = .ok s) :
    s.routing.Fits := by
  rw [ofBytes] at read
  cases whole : Json.readAll record.read bytes with
  | ok given =>
      rw [whole] at read
      exact Except.ok.inj read ▸ gives_fits.readAll whole
  | error fault =>
      rw [whole] at read
      exact absurd read (by simp [Except.mapError])

end StateSnapshot

end ClusterGateway
