import ClusterGateway.Proofs.Control.Site

/-! # Every request comes to one end

A request is refused and changes nothing, or exactly one entry is committed for it, which every
machine can read. The entry is applied, unless it asks a host to leave that is not there or whose
checks do not stop. Requests alone never let a machine diverge.
-/

namespace ClusterGateway

/-- No commit is under way, and no proposal is in line. -/
structure Site.Quiet (s : Site) : Prop where
  idle : s.underway = none
  alone : s.control.consensus.pending = []

/-- An event puts nothing in line but what the control plane accepts. -/
def SiteEvent.Orderly : SiteEvent → Prop
  | ask request => request.Fits
  | cluster (.submit _) => False
  | _ => True

/-- An event in order brings only entries that can be read. -/
theorem SiteEvent.Orderly.within {event : SiteEvent} (orderly : event.Orderly) :
    event.Within Machine.Readable := by
  cases event with
  | ask request =>
      intro t entry prepared
      have fits := (ControlPlane.accepts_of_prepare prepared).fits orderly
      exact ⟨entry, LogEntry.decode_encode fits⟩
  | cluster event =>
      cases event with
      | submit bytes => exact orderly.elim
      | _ => trivial
  | _ => trivial

namespace ControlPlane

/-- A request was refused before anything was proposed. -/
def Refused (result : Except ControlError LogIndex) : Prop :=
  ∃ error, result = .error error ∧ error.Early

/-- Just one entry was committed for a request. -/
structure Commits (c after : ControlPlane) (ctx : StepContext) (request : WriteRequest)
    (entry : LogEntry) : Prop where
  /-- It is the entry for the request. -/
  accepted : c.table.Accepts request entry
  /-- It can be read. -/
  decodes : LogEntry.decode entry.encode = .ok entry
  /-- It has the next index. -/
  lastIndex : after.consensus.lastIndex = c.consensus.lastIndex.next
  /-- Nothing else is in line. -/
  alone : after.consensus.pending = []
  /-- Every machine has applied it, and nothing else. -/
  machines : after.consensus.machines = c.consensus.machines.mapIdx fun i m =>
    (m.apply (ctx.around i) c.consensus.lastIndex.next entry.encode).2
  /-- No machine has diverged because of it. -/
  following : after.consensus.machines.map (·.diverged) = c.consensus.machines.map (·.diverged)

variable {c : ControlPlane} {ctx : StepContext} {request : WriteRequest} {entry : LogEntry}

/-- A write that was committed was not refused. -/
theorem verdict_not_refused (done : Commit) : ¬ Refused (verdict (.ok done)) := by
  rintro ⟨error, failed, early⟩
  rw [verdict] at failed
  cases outcome : done.outcome with
  | ok =>
      rw [outcome] at failed
      cases failed
  | error cause =>
      rw [outcome] at failed
      cases failed
      exact early

/-- A request that passes the first check while writes are on is committed. -/
theorem write_of_prepare (ctx : StepContext) (prepared : prepare c.table request = .ok entry)
    (enabled : c.writeEnabled = true) (alone : c.consensus.pending = [])
    (patient : c.proposeTimeout ≠ 0) (fits : request.Fits) :
    ∃ after, c.write ctx request = (verdict (.ok ⟨c.consensus.lastIndex.next,
        (c.consensus.primary.apply (ctx.around 0) c.consensus.lastIndex.next entry.encode).1⟩),
        after) ∧
      c.Commits after ctx request entry := by
  have accepted := accepts_of_prepare prepared
  have decodes := LogEntry.decode_encode (accepted.fits fits)
  let next : Consensus := { c.consensus with nextProposal := c.consensus.nextProposal + 1 }
  obtain ⟨done, lastIndex, pending, machines⟩ := next.commit_spec ctx entry.encode
  refine ⟨{ c with consensus := (next.commit ctx entry.encode).2 }, ?_, accepted, decodes,
    lastIndex, pending.trans alone, machines, ?_⟩
  · simp only [write, prepared, propose, enabled, ↓reduceIte,
      Consensus.propose_alone alone ctx entry.encode patient]
    exact congrArg (fun done => (verdict (.ok done), _)) done
  · apply List.ext_getElem?
    intro n
    dsimp only
    rw [machines, List.getElem?_map, List.getElem?_mapIdx, List.getElem?_map, Option.map_map]
    refine congrFun (congrArg Option.map (funext fun m => ?_)) _
    exact m.diverged_apply ⟨entry, decodes⟩ (ctx.around n) _

/-- A request that nothing comes between is carried out in one step. -/
theorem run_ask {s : Site} (quiet : s.Quiet)
    (prepared : prepare s.control.table request = .ok entry)
    (enabled : s.control.writeEnabled = true) (patient : s.control.proposeTimeout ≠ 0) :
    s.run (.ask request ::
        (Cluster.commitEvents ctx s.control.consensus.machines.length).map .cluster) =
      { s with control := (s.control.write ctx request).2 } := by
  let asked : Consensus := (s.control.consensus.submit entry.encode).2
  have waiting : asked.pending = [(s.control.consensus.nextProposal, entry.encode)] := by
    change s.control.consensus.pending ++ _ = _
    rw [quiet.alone, List.nil_append]
  have submitted : s.step (.ask request) = s.putCluster ⟨asked, none, s.loaded⟩ := by
    simp only [Site.step, prepared, enabled, ↓reduceIte, Cluster.step, Site.cluster, quiet.idle]
    rfl
  have committed := Cluster.run_commitEvents asked ctx s.loaded waiting
  have written : (s.control.write ctx request).2 =
      { s.control with
        consensus := (({ asked with pending := [] } : Consensus).commit ctx entry.encode).2 } := by
    simp only [write, prepared, propose, enabled, ↓reduceIte,
      Consensus.propose_alone quiet.alone ctx entry.encode patient, asked, Consensus.submit]
    rw [← quiet.alone]
  rw [written, Site.run, List.foldl_cons, submitted, ← Site.run, Site.run_cluster]
  change Site.putCluster _ (Cluster.run ⟨asked, none, s.loaded⟩ _) = _
  rw [show s.control.consensus.machines.length = asked.machines.length from rfl, committed]
  exact congrArg (fun underway => Site.mk _ underway s.loaded) quiet.idle.symm

/-- A request ends as far as the operator can see: applied, or committed in vain since the host that
was to leave does not do so. -/
theorem verdict_of_accepts {m : Machine} (sound : m.Sound) (following : m.diverged = false)
    (accepted : m.table.Accepts request entry)
    (decodes : LogEntry.decode entry.encode = .ok entry) (around : Surroundings)
    (index : LogIndex) :
    verdict (.ok ⟨index, (m.apply around index entry.encode).1⟩) = .ok index ∨
      ∃ error, verdict (.ok ⟨index, (m.apply around index entry.encode).1⟩) =
        .error (.apply index error) ∧ Table.Accepts.MayFail request error := by
  rw [Machine.apply_fst following decodes]
  rcases accepted.execute sound.table sound.acl around with done | ⟨error, failed, expected⟩
  · rw [done]
    exact Or.inl rfl
  · rw [failed]
    exact Or.inr ⟨error, rfl, expected⟩

/-- A request with no other proposal in line is refused early, or committed, or out of time at
once. -/
theorem write_cases (ctx : StepContext) (alone : c.consensus.pending = []) (fits : request.Fits) :
    (∃ error, error.Early ∧ c.write ctx request = (.error error, c)) ∨
      (∃ entry after, c.Commits after ctx request entry ∧
        c.write ctx request = (verdict (.ok ⟨c.consensus.lastIndex.next,
          (c.consensus.primary.apply (ctx.around 0) c.consensus.lastIndex.next entry.encode).1⟩),
          after)) ∨
      ∃ time, (c.write ctx request).1 = .error (.consensus (.timeout time)) := by
  cases prepared : prepare c.table request with
  | error error =>
      refine Or.inl ⟨error, early_of_prepare prepared, ?_⟩
      rw [write, prepared]
  | ok entry =>
      cases enabled : c.writeEnabled with
      | false =>
          refine Or.inl ⟨.writesOff, trivial, ?_⟩
          simp only [write, prepared, propose, enabled, Bool.false_eq_true, ↓reduceIte]
      | true =>
          refine Or.inr ?_
          -- Nobody else is in line, so only a proposal that is given no time at all is late.
          by_cases patient : c.proposeTimeout = 0
          · refine Or.inr ⟨0, ?_⟩
            simp only [write, prepared, propose, enabled, ↓reduceIte, Consensus.propose, patient]
            rfl
          · obtain ⟨after, written, commits⟩ :=
              write_of_prepare ctx prepared enabled alone patient fits
            exact Or.inl ⟨entry, after, commits, written⟩

/-- Where no commit is under way and no other proposal in line, a request that does not run out of
time is refused and changes nothing, or just one entry is committed for it; that entry is applied
unless it asks a host to leave. A run in which entries come from the control plane alone lets no
machine diverge. -/
theorem write_ends (config : Config) (storage : Storage) (followers : List Cluster.MachineSetup)
    (events : List SiteEvent) :
    let s := (Site.fresh config storage followers).run events
    (∀ ctx request result after, s.Quiet → request.Fits →
        s.control.write ctx request = (result, after) →
        (∀ time, result ≠ .error (.consensus (.timeout time))) →
        (Refused result → after = s.control) ∧
          (¬ Refused result → ∃ entry, s.control.Commits after ctx request entry) ∧
          (¬ Refused result → s.control.consensus.primary.diverged = false →
            result = .ok s.control.consensus.lastIndex.next ∨
              ∃ error, result = .error (.apply s.control.consensus.lastIndex.next error) ∧
                Table.Accepts.MayFail request error)) ∧
      ((∀ event ∈ events, event.Orderly) →
        ∀ m ∈ s.control.consensus.machines, m.diverged = false) := by
  intro s
  constructor
  · intro ctx request result after quiet fits written inTime
    have held : s.cluster.Holds Machine.Sound fun _ => True :=
      Site.holds_run (Site.holds_fresh config storage followers _ Machine.sound_fresh)
        Machine.lasting_sound fun event _ => Site.within_true event
    have sound : s.control.consensus.primary.Sound := held.machines _ List.mem_cons_self
    -- The request is refused early, or its entry is committed, or time has run out.
    rcases write_cases ctx quiet.alone fits with
      ⟨error, early, refusal⟩ | ⟨entry, done, commits, committed⟩ | ⟨time, late⟩
    · rw [refusal] at written
      cases written
      have refused : Refused (.error error) := ⟨error, rfl, early⟩
      exact ⟨fun _ => rfl, fun accepted => absurd refused accepted,
        fun accepted => absurd refused accepted⟩
    · rw [committed] at written
      cases written
      refine ⟨fun refused => absurd refused (verdict_not_refused _), fun _ => ⟨entry, commits⟩,
        fun _ following => ?_⟩
      exact verdict_of_accepts sound following commits.accepted commits.decodes (ctx.around 0) _
    · rw [written] at late
      exact absurd late (inTime time)
  · intro orderly
    exact (Site.holds_run (Site.holds_fresh config storage followers _ fun _ _ => rfl)
      Machine.lasting_following fun event member => (orderly event member).within).machines

/-- A pool is created at a node and another machine. -/
def sampleRun : List SiteEvent :=
  [.ask (.createPool ⟨"/a", ["http://[::1]:80", "http://[::1]:81"], "round-robin"⟩),
   .cluster .begin, .cluster (.deliver {}), .cluster (.deliver {}), .cluster (.conclude {})]

/-- The node after the sample run. -/
def sampleSite : Site := (Site.fresh {} .memory [{}]).run sampleRun

/-- The removal of a host whose checks do not stop in time at the node. -/
def sampleRequest : WriteRequest := .removeHost "/a" "http://[::1]:80/x"

/-- The surroundings of that removal. -/
def sampleContext : StepContext := { around := fun n => { checksStop := n ≠ 0 } }

/-- The removal of a host whose checks do not stop is committed after the sample run. -/
theorem write_ends_sampleRun :
    (sampleSite.control.write sampleContext sampleRequest).1 =
        .error (.apply ⟨2⟩ (.routing (.pool (.checkStillRuns "[::1]:80")))) ∧
      (∃ entry, sampleSite.control.Commits
        (sampleSite.control.write sampleContext sampleRequest).2 sampleContext sampleRequest
        entry) ∧
      sampleSite.control.consensus.primary.diverged = false := by
  have ends := write_ends {} .memory [{}] sampleRun
  have quiet : sampleSite.Quiet := ⟨by decide +kernel, by decide +kernel⟩
  have failed : (sampleSite.control.write sampleContext sampleRequest).1 =
      .error (.apply ⟨2⟩ (.routing (.pool (.checkStillRuns "[::1]:80")))) := by decide +kernel
  have accepted : ¬ Refused (sampleSite.control.write sampleContext sampleRequest).1 := by
    rw [failed]
    rintro ⟨error, same, early⟩
    cases same
    exact early
  have inTime (time : Nat) : (sampleSite.control.write sampleContext sampleRequest).1 ≠
      .error (.consensus (.timeout time)) := by
    rw [failed]
    exact fun same => nomatch same
  have orderly : ∀ event ∈ sampleRun, event.Orderly := by
    simp [sampleRun, SiteEvent.Orderly, WriteRequest.Fits]
  have fits : sampleRequest.Fits := trivial
  obtain ⟨-, commits, -⟩ :=
    ends.1 sampleContext sampleRequest _ _ quiet fits (Prod.eta _).symm inTime
  exact ⟨failed, commits accepted, ends.2 orderly _ List.mem_cons_self⟩

end ControlPlane

end ClusterGateway
