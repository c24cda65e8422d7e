import ClusterGateway.Proofs.Replication.Answers

/-! # When a machine has diverged

A machine diverges with the first entry that it cannot read, and follows the log again with the next
snapshot that it can read; nothing else sets or clears the mark. In between it refuses every entry
and changes nothing but its counters and the last index. Afterwards it has the state that the
snapshot gives, and shows no trace of the time in between: it gives the answers that a machine which
never diverged gives in that state.
-/

namespace ClusterGateway

namespace Machine

/-- An entry that cannot be read. -/
def Event.Strays : Event → Prop
  | .apply _ _ bytes => ∃ error, LogEntry.decode bytes = .error error
  | _ => False

/-- A snapshot that can be read. -/
def Event.Recovers : Event → Prop
  | .restore _ bytes => ∃ s, StateSnapshot.ofBytes bytes = .ok s
  | _ => False

/-- An entry could not be read, and no snapshot could be read since. -/
def Astray (events : List Event) : Prop :=
  ∃ before event after, events = before ++ event :: after ∧ event.Strays ∧
    ∀ later ∈ after, ¬ later.Recovers

variable {m : Machine}

theorem not_astray_nil : ¬ Astray [] := by
  rintro ⟨before, event, after, whole, -⟩
  exact absurd whole (by simp)

/-- One more event leads astray, or leaves astray unless it is a snapshot that can be read. -/
theorem astray_append_singleton (events : List Event) (event : Event) :
    Astray (events ++ [event]) ↔ event.Strays ∨ Astray events ∧ ¬ event.Recovers := by
  constructor
  · rintro ⟨before, cause, after, whole, strays, lasting⟩
    rcases List.eq_nil_or_concat after with rfl | ⟨between, last, rfl⟩
    · obtain ⟨rfl, rfl⟩ := List.append_singleton_inj.1 whole
      exact Or.inl strays
    · rw [List.concat_eq_append, ← List.cons_append, ← List.append_assoc] at whole
      obtain ⟨rfl, rfl⟩ := List.append_singleton_inj.1 whole
      exact Or.inr ⟨⟨before, cause, between, rfl, strays, fun later member =>
        lasting later (by simp [member])⟩, lasting event (by simp)⟩
  · rintro (strays | ⟨⟨before, cause, after, rfl, strays, lasting⟩, lost⟩)
    · exact ⟨events, event, [], rfl, strays, by simp⟩
    · refine ⟨before, cause, after ++ [event], by simp, strays, fun later member => ?_⟩
      rcases List.mem_append.1 member with known | known
      · exact lasting later known
      · exact List.mem_singleton.1 known ▸ lost

/-! ### One event -/

/-- A machine that has diverged refuses every entry. -/
theorem apply_of_diverged (diverged : m.diverged = true) (around : Surroundings) (index : LogIndex)
    (bytes : Bytes) :
    m.apply around index bytes = (.error .diverged,
      { m with lastApplied := index, table := countFailure m.table .diverged }) := by
  rw [Machine.apply]
  exact if_pos diverged

/-- A machine diverges with an entry that it cannot read. -/
theorem apply_of_unread (following : m.diverged = false) {bytes : Bytes} {error : DecodeError}
    (unread : LogEntry.decode bytes = .error error) (around : Surroundings) (index : LogIndex) :
    m.apply around index bytes = (.error (.decode error),
      { m with
        lastApplied := index, diverged := true
        table := countFailure m.table (.decode error) }) := by
  rw [Machine.apply]
  simp only [following, Bool.false_eq_true, if_false, unread]

/-- An entry that can be read leaves the mark as it is, whether it is refused or not. -/
theorem diverged_apply_of_read {bytes : Bytes} {entry : LogEntry}
    (read : LogEntry.decode bytes = .ok entry) (around : Surroundings) (index : LogIndex) :
    (m.apply around index bytes).2.diverged = m.diverged := by
  cases diverged : m.diverged with
  | true =>
      rw [apply_of_diverged diverged]
      exact diverged
  | false =>
      rw [Machine.apply]
      simp only [diverged, Bool.false_eq_true, if_false, read]
      split <;> rfl

/-- A machine takes over a snapshot just if it can be read, whatever the machine was like. -/
theorem restore_iff_recovers (m : Machine) (around : Surroundings) (bytes : Bytes) :
    (∃ next, m.restore around bytes = .ok next) ↔ (Event.restore around bytes).Recovers := by
  rw [restore, Event.Recovers]
  cases StateSnapshot.ofBytes bytes <;> simp [Except.map]

/-- An event leaves a machine diverged if it leads astray, or if the machine has diverged and the
event is no snapshot that can be read. -/
theorem diverged_undergo (m : Machine) (event : Event) :
    (m.undergo event).diverged = true ↔
      event.Strays ∨ m.diverged = true ∧ ¬ event.Recovers := by
  cases event with
  | apply around index bytes =>
      simp only [undergo, Event.Strays, Event.Recovers, not_false_eq_true, and_true]
      cases read : LogEntry.decode bytes with
      | ok entry => simp [diverged_apply_of_read read]
      | error error =>
          cases diverged : m.diverged with
          | true => simp [apply_of_diverged diverged, diverged]
          | false => simp [apply_of_unread diverged read]
  | restore around bytes =>
      simp only [undergo, restore, Event.Strays, Event.Recovers, false_or]
      cases StateSnapshot.ofBytes bytes with
      | ok s => simp [Except.map, Except.toOption, adopt]
      | error error => simp [Except.map, Except.toOption]
  | traffic event => simp [undergo, serve, Event.Strays, Event.Recovers]

/-! ### Runs -/

/-- A machine that followed the log before a run has diverged after it if the run leads astray. -/
theorem diverged_run (following : m.diverged = false) (events : List Event) :
    (m.run events).diverged = true ↔ Astray events := by
  induction events using List.reverseRecOn with
  | nil => simp [run, following, not_astray_nil]
  | append_singleton events event ih =>
      rw [run, List.foldl_append, List.foldl_cons, List.foldl_nil, diverged_undergo,
        astray_append_singleton]
      exact or_congr_right (and_congr_left' ih)

/-- The answers to entries that are applied one after another. -/
def answers (around : Delivery → Surroundings) (m : Machine) :
    List Delivery → List (Except ApplyError Unit)
  | [] => []
  | d :: deliveries =>
    let (answer, m) := m.apply (around d) d.index d.bytes
    answer :: m.answers around deliveries

/-- No entries tell a machine from another one: both have the same state, do the same for requests
and have diverged or not, now and after any further entries, and they answer alike as long as the
checks of removed hosts stop in time. -/
structure ActsLike (m other : Machine) : Prop where
  state : ∀ deliveries : List Delivery,
    (m.receive (·.here) deliveries).state = (other.receive (·.there) deliveries).state
  services : ∀ deliveries : List Delivery,
    (m.receive (·.here) deliveries).table.services =
      (other.receive (·.there) deliveries).table.services
  diverged : ∀ deliveries : List Delivery,
    (m.receive (·.here) deliveries).diverged = (other.receive (·.there) deliveries).diverged
  answers : ∀ deliveries : List Delivery,
    (∀ d ∈ deliveries, d.here.checksStop = true ∧ d.there.checksStop = true) →
      m.answers (·.here) deliveries = other.answers (·.there) deliveries

theorem Sound.answers_alike {other : Machine} (sound : m.Sound) (others : other.Sound)
    (same : other.replica = m.replica) (deliveries : List Delivery)
    (stop : ∀ d ∈ deliveries, d.here.checksStop = true ∧ d.there.checksStop = true) :
    m.answers (·.here) deliveries = other.answers (·.there) deliveries := by
  induction deliveries generalizing m other with
  | nil => rfl
  | cons d deliveries ih =>
      obtain ⟨here, there⟩ := stop d List.mem_cons_self
      have first := sound.apply_alike others same here there d.index d.bytes
      obtain ⟨kept, step⟩ := sound.apply d.here d.index d.bytes
      obtain ⟨held, pace⟩ := others.apply d.there d.index d.bytes
      have rest := ih kept held (by rw [step, pace, same])
        fun later member => stop later (List.mem_cons_of_mem d member)
      exact congrArg₂ List.cons first.symm rest

/-- Machines with one replica act alike. -/
theorem Sound.actsLike {other : Machine} (sound : m.Sound) (others : other.Sound)
    (same : other.replica = m.replica) : m.ActsLike other := by
  have alike (deliveries : List Delivery) := (sound.receive_alike others same deliveries).symm
  have located (deliveries : List Delivery) :=
    congrArg (fun r : Replica => r.configuration.locations) (alike deliveries)
  exact
    { state := fun deliveries =>
        congrArg (fun r : Replica => r.configuration.state) (alike deliveries)
      services := fun deliveries => (others.receive _ deliveries).1.table.services_eq
        (sound.receive _ deliveries).1.table (located deliveries)
      diverged := fun deliveries => congrArg Replica.diverged (alike deliveries)
      answers := sound.answers_alike others same }

/-- How a machine keeps to the log after some events. -/
structure KeepsToLog (m : Machine) (events : List Event) : Prop where
  /-- It has diverged when an entry could not be read and no snapshot could be read since. -/
  diverged_iff : m.diverged = true ↔ Astray events
  /-- From the entry on that it cannot read, and until it can read a snapshot, it refuses every
  entry and changes nothing but its counters and the last index. -/
  refuses : ∀ around index bytes, Astray (events ++ [.apply around index bytes]) →
    ∃ (error : ApplyError) (metrics : Metrics), Report.kind error = .applyDecode ∧
      m.apply around index bytes = (.error error,
        { m with lastApplied := index, diverged := true, table := { m.table with metrics } })
  /-- An entry that it can read does not change the mark, even if it is refused. -/
  keeps_mark : ∀ around index bytes entry, LogEntry.decode bytes = .ok entry →
    (m.apply around index bytes).2.diverged = m.diverged
  /-- It takes over a snapshot if it can read it. -/
  restores_iff : ∀ around bytes,
    (∃ next, m.restore around bytes = .ok next) ↔ (Event.restore around bytes).Recovers
  /-- A snapshot that it cannot read changes nothing. -/
  keeps_machine : ∀ around bytes error, m.restore around bytes = .error error →
    m.undergo (.restore around bytes) = m
  /-- With a snapshot it follows the log again. It has the state that is rebuilt from what stands in
  the snapshot, and acts like any machine that has come to the same state by any other run and has
  not diverged. -/
  recovers : ∀ around bytes next, m.restore around bytes = .ok next →
    next.diverged = false ∧
    (∃ s, StateSnapshot.ofBytes bytes = .ok s ∧ next.state = (Configuration.restored s).state) ∧
    ∀ settings hostWait others,
      ((fresh settings hostWait).run others).diverged = false →
        ((fresh settings hostWait).run others).state = next.state →
          next.ActsLike ((fresh settings hostWait).run others)

/-- A machine that has diverged just if it is astray refuses an entry after which it is astray, and
marks itself diverged. -/
theorem refuses_of_astray {events : List Event} (kept : m.diverged = true ↔ Astray events)
    (around : Surroundings) (index : LogIndex) (bytes : Bytes)
    (astray : Astray (events ++ [.apply around index bytes])) :
    ∃ (error : ApplyError) (metrics : Metrics), Report.kind error = .applyDecode ∧
      m.apply around index bytes = (.error error,
        { m with lastApplied := index, diverged := true, table := { m.table with metrics } }) := by
  cases diverged : m.diverged with
  | true => exact ⟨_, _, rfl, by rw [apply_of_diverged diverged, ← diverged]; rfl⟩
  | false =>
      rcases (astray_append_singleton events _).1 astray with ⟨error, unread⟩ | ⟨before, -⟩
      · exact ⟨_, _, rfl, apply_of_unread diverged unread around index⟩
      · exact absurd (kept.2 before) (by simp [diverged])

/-- Every machine keeps to its log. It diverges with the first entry that it cannot read and follows
the log again with the next snapshot that it can read; in between it changes nothing, and afterwards
nothing tells it from a machine that has never diverged. -/
theorem run_keeps_to_log (settings : PoolSettings) (hostWait : Nat) (events : List Event) :
    ((fresh settings hostWait).run events).KeepsToLog events := by
  have marked := diverged_run (m := fresh settings hostWait) rfl events
  have sound := (sound_fresh settings hostWait).run events
  generalize (fresh settings hostWait).run events = m at *
  refine
    { diverged_iff := marked
      refuses := refuses_of_astray marked
      keeps_mark := fun around index bytes entry read => diverged_apply_of_read read around index
      restores_iff := m.restore_iff_recovers
      keeps_machine := fun around bytes error refused => by rw [undergo, refused]; rfl
      recovers := ?_ }
  intro around bytes next restored
  obtain ⟨s, read⟩ := (m.restore_iff_recovers around bytes).1 ⟨next, restored⟩
  obtain ⟨after, taken, kept, replica⟩ := sound.restore_of_read around read
  obtain rfl : after = next := Except.ok.inj (taken.symm.trans restored)
  rw [Replica.adopt, read] at replica
  have following : after.diverged = false := congrArg Replica.diverged replica
  have state : after.state = (Configuration.restored s).state :=
    congrArg (fun r => r.configuration.state) replica
  refine ⟨following, ⟨s, read, state⟩, fun settings hostWait others alert same => ?_⟩
  refine kept.actsLike ((sound_fresh settings hostWait).run others) ?_
  have configuration := Configuration.state_injective
    ((state_eq _).symm.trans (same.trans (state_eq after)))
  exact congrArg₂ Replica.mk configuration (alert.trans following.symm)

/-- A run with a pool. -/
def steadyRun : List Event :=
  [entryEvent (.createPool ⟨"/a", ["http://[::1]:80"], "round-robin"⟩)]

/-- The run goes on with an operation that nobody knows. -/
def unknownOperationRun : List Event := steadyRun ++ [.apply {} ⟨2⟩ [0, 42]]

/-- A machine that was given an unknown operation refuses the next pool, and acts as if nothing had
been once it takes over the snapshot that it still has. -/
theorem run_keeps_to_log_unknownOperation :
    ((fresh {} 0).run unknownOperationRun).diverged = true ∧
      (∃ (error : ApplyError) (metrics : Metrics), Report.kind error = .applyDecode ∧
        ((fresh {} 0).run unknownOperationRun).apply {} ⟨3⟩
            (LogEntry.createPool ⟨"/b", ["http://[::2]:80"], "round-robin"⟩).encode =
          (.error error,
            { (fresh {} 0).run unknownOperationRun with
              lastApplied := ⟨3⟩, diverged := true
              table := { ((fresh {} 0).run unknownOperationRun).table with metrics } })) ∧
      ∃ next, ((fresh {} 0).run unknownOperationRun).restore {}
          ((fresh {} 0).run unknownOperationRun).snapshot = .ok next ∧
        next.diverged = false ∧ next.state = ((fresh {} 0).run steadyRun).state ∧
        next.ActsLike ((fresh {} 0).run steadyRun) := by
  have kept := run_keeps_to_log {} 0 unknownOperationRun
  have astray : Astray unknownOperationRun :=
    ⟨steadyRun, _, [], rfl, ⟨.unknownOpCode 42, by decide +kernel⟩, by simp⟩
  refine ⟨kept.diverged_iff.2 astray, kept.refuses {} ⟨3⟩ _ ?_, ?_⟩
  · exact (astray_append_singleton _ _).2 (Or.inr ⟨astray, id⟩)
  · have recovered : (((fresh {} 0).run unknownOperationRun).restore {}
        ((fresh {} 0).run unknownOperationRun).snapshot).toOption.map Machine.state =
          some ((fresh {} 0).run steadyRun).state := by decide +kernel
    cases taken : ((fresh {} 0).run unknownOperationRun).restore {}
        ((fresh {} 0).run unknownOperationRun).snapshot with
    | error error =>
        rw [taken] at recovered
        exact absurd recovered (by simp [Except.toOption])
    | ok next =>
        rw [taken] at recovered
        obtain ⟨following, -, alike⟩ := kept.recovers {} _ next taken
        have same := Option.some.inj recovered
        exact ⟨next, rfl, following, same, alike {} 0 steadyRun (by decide +kernel) same.symm⟩

end Machine

end ClusterGateway
