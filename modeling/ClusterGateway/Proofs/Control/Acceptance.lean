import ClusterGateway.Control.Plane
import ClusterGateway.Proofs.Replication.Agreement

/-! # What the control plane accepts is applied

The control plane checks a request against the table before it proposes an entry, and the machines
check the entry once more when they apply it. What passes the first check passes the second one,
with the one exception that a host may not be part of its pool, or its checks may not stop in time.
-/

namespace ClusterGateway

namespace Location

/-- The check of a location, in the order in which its faults are reported. -/
theorem check_eq (l : Location) :
    l.check = match Pattern.check l.pattern with
      | .error fault => .error (.pattern fault)
      | .ok () =>
        if l.proxyPass.isEmpty then .error .noHosts
        else
          match l.backendErrors with
          | error :: _ => .error (.backend error)
          | [] => if l.lacksMode then .error .noMode else .ok () := by
  rw [check]
  cases Pattern.check l.pattern with
  | error fault => rfl
  | ok =>
      cases l.proxyPass.isEmpty with
      | true => rfl
      | false =>
          cases l.backendErrors with
          | cons error errors => rfl
          | nil => cases l.lacksMode <;> rfl

/-- Where no backend is faulty, every backend has an address. -/
theorem address?_of_backendErrors {l : Location} (faultless : l.backendErrors = []) {raw : String}
    (member : raw ∈ l.proxyPass) : (Backend.address? raw).isSome = true := by
  rw [backendErrors, List.filterMap_eq_nil_iff] at faultless
  have read := faultless raw member
  rw [Backend.address?]
  cases parsed : Backend.parse raw with
  | ok url => rfl
  | error error =>
      rw [parsed] at read
      exact absurd read (by simp)

/-- A location without faults whose mode is known can be built. -/
theorem buildable_of_check {l : Location} (sound : l.check = .ok ())
    (mode : l.balanceMode ∈ BalanceMode.names) : l.Buildable := by
  rw [check_eq] at sound
  split at sound
  · exact absurd sound (by simp)
  · next pattern =>
    split at sound
    · exact absurd sound (by simp)
    · next hosts =>
      split at sound
      · exact absurd sound (by simp)
      · next faultless =>
        exact ⟨⟨pattern, fun raw => address?_of_backendErrors faultless, mode⟩,
          fun none => hosts (by rw [none]; rfl)⟩

end Location

/-- A request that a table gives rise to accept, with the entry for it. -/
inductive Table.Accepts (t : Table) : WriteRequest → LogEntry → Prop where
  | createPool {l : Location} (buildable : l.Buildable) : t.Accepts (.createPool l) (.createPool l)
  | setRateLimiter {s : LimiterSetting} (kind : s.kind ∈ LimiterKind.names)
      (pool : (t.pool? s.pattern).isSome = true) : t.Accepts (.setRateLimiter s) (.setRateLimiter s)
  | mutateAcl {action : AclAction} {cidr : String} {net : Network}
      (read : parseCidr cidr = .ok net)
      (blocked : action = .delete → t.acl.records.contains net.text = true) :
      t.Accepts (.mutateAcl action cidr) (.aclMutate action net.text)
  | removePool {pattern : String} (pool : (t.pool? pattern).isSome = true) :
      t.Accepts (.removePool pattern) (.removePool pattern)
  | addHost {pattern raw : String} {url : WebUrl} (read : Backend.parse raw = .ok url)
      (pool : (t.pool? pattern).isSome = true) :
      t.Accepts (.addHost pattern raw) (.addHost pattern raw)
  | removeHost {pattern host : String} (pool : (t.pool? pattern).isSome = true) :
      t.Accepts (.removeHost pattern host) (.removeHost pattern host)
  | changeBalancer {pattern mode : String} (known : mode ∈ BalanceMode.names)
      (pool : (t.pool? pattern).isSome = true) :
      t.Accepts (.changeBalancer pattern mode) (.changeBalancer pattern mode)

/-- The numbers in a request fit into 64 bits. -/
def WriteRequest.Fits : WriteRequest → Prop
  | setRateLimiter setting => setting.Fits
  | _ => True

/-- What is true of the errors of two steps is true of the errors of one after the other. -/
theorem refusal_of_bind {ε α β : Type} {P : ε → Prop} {first : Except ε α} {next : α → Except ε β}
    (refuses : ∀ error, first = .error error → P error)
    (later : ∀ a error, next a = .error error → P error) :
    ∀ error, first >>= next = .error error → P error := by
  intro error failed
  cases first with
  | error cause => exact refuses error (congrArg Except.error (Except.error.inj failed))
  | ok a => exact later a error failed

/-- A last step that cannot fail adds no errors. -/
theorem refusal_of_last {ε α β : Type} {P : ε → Prop} {first : Except ε α} {b : β}
    (refuses : ∀ error, first = .error error → P error) :
    ∀ error, (first >>= fun _ => pure b) = .error error → P error :=
  refusal_of_bind refuses fun _ _ done => nomatch done

/-- The control plane refused a request before it proposed anything. -/
def ControlError.Early : ControlError → Prop
  | writesOff => True
  | validation _ => True
  | notFound _ => True
  | _ => False

/-! ### The first check -/

namespace ControlPlane

variable {t u : Table}

/-- Renaming the error does not turn a failure into a success. -/
theorem ok_of_mapError {ε δ α : Type} {result : Except ε α} {wrap : ε → δ} {a : α}
    (done : result.mapError wrap = .ok a) : result = .ok a := by
  cases result with
  | error error => cases done
  | ok b => exact congrArg Except.ok (Except.ok.inj done)

/-- Only a pattern with a pool passes as one. -/
theorem pool_of_requirePool {pattern : String} (passed : requirePool t pattern = .ok ()) :
    (t.pool? pattern).isSome = true := by
  rw [requirePool] at passed
  split at passed
  · next known => exact known
  · exact absurd passed (by simp)

/-- Only the name of a mode passes as one. -/
theorem mem_names_of_requireMode {mode : String} (passed : requireMode mode = .ok ()) :
    mode ∈ BalanceMode.names := by
  rw [requireMode] at passed
  split at passed
  · next known => exact BalanceMode.mem_names.2 ⟨_, BalanceMode.ofName_eq_ok_iff.1 known⟩
  · exact absurd passed (by simp)

/-- Only the name of a kind of limiter passes as one. -/
theorem mem_names_of_requireKind {kind : String} (passed : requireKind kind = .ok ()) :
    kind ∈ LimiterKind.names := by
  rw [requireKind] at passed
  split at passed
  · next known => exact LimiterKind.mem_names.2 ⟨_, LimiterKind.ofName_eq_ok_iff.1 known⟩
  · exact absurd passed (by simp)

/-- A request that passes the first check is one that the table gives rise to accept. -/
theorem accepts_of_prepare {request : WriteRequest} {entry : LogEntry}
    (prepared : prepare t request = .ok entry) : t.Accepts request entry := by
  cases request with
  | createPool l =>
      cases checked : l.check with
      | error fault =>
          simp only [prepare, checked] at prepared
          exact absurd prepared (throw_bind_ne_ok _ _ _)
      | ok =>
          simp only [prepare, checked] at prepared
          obtain ⟨_, mode, prepared⟩ := exists_of_bind_ok prepared
          cases prepared
          exact .createPool (Location.buildable_of_check checked (mem_names_of_requireMode mode))
  | setRateLimiter s =>
      simp only [prepare] at prepared
      split at prepared
      · exact absurd prepared (throw_bind_ne_ok _ _ _)
      · obtain ⟨_, kind, prepared⟩ := exists_of_bind_ok prepared
        obtain ⟨_, pool, prepared⟩ := exists_of_bind_ok prepared
        cases prepared
        exact .setRateLimiter (mem_names_of_requireKind kind) (pool_of_requirePool pool)
  | mutateAcl action cidr =>
      obtain ⟨net, read, prepared⟩ := exists_of_bind_ok prepared
      split at prepared
      · exact absurd prepared (throw_bind_ne_ok _ _ _)
      · next known =>
        cases prepared
        refine .mutateAcl (ok_of_mapError read) fun delete => ?_
        rw [← Dict.mem_keys]
        -- A network that is not listed is refused before anything is proposed.
        by_contra absent
        exact known ⟨delete, by simpa [AccessList.toList] using absent⟩
  | removePool pattern =>
      obtain ⟨_, pool, prepared⟩ := exists_of_bind_ok prepared
      cases prepared
      exact .removePool (pool_of_requirePool pool)
  | addHost pattern raw =>
      cases read : Backend.parse raw with
      | error error =>
          simp only [prepare, read] at prepared
          exact absurd prepared (throw_bind_ne_ok _ _ _)
      | ok url =>
          simp only [prepare, read] at prepared
          obtain ⟨_, pool, prepared⟩ := exists_of_bind_ok prepared
          cases prepared
          exact .addHost read (pool_of_requirePool pool)
  | removeHost pattern host =>
      simp only [prepare] at prepared
      split at prepared
      · exact absurd prepared (throw_bind_ne_ok _ _ _)
      · obtain ⟨_, pool, prepared⟩ := exists_of_bind_ok prepared
        cases prepared
        exact .removeHost (pool_of_requirePool pool)
  | changeBalancer pattern mode =>
      obtain ⟨_, known, prepared⟩ := exists_of_bind_ok prepared
      obtain ⟨_, pool, prepared⟩ := exists_of_bind_ok prepared
      cases prepared
      exact .changeBalancer (mem_names_of_requireMode known) (pool_of_requirePool pool)

/-- A missing pool is told before anything is proposed. -/
theorem early_of_requirePool {pattern : String} {error : ControlError}
    (refused : requirePool t pattern = .error error) : error.Early := by
  rw [requirePool] at refused
  split at refused
  · cases refused
  · cases refused
    trivial

/-- An unknown mode is told before anything is proposed. -/
theorem early_of_requireMode {mode : String} {error : ControlError}
    (refused : requireMode mode = .error error) : error.Early := by
  rw [requireMode] at refused
  split at refused
  · cases refused
  · cases refused
    trivial

theorem early_of_requireKind {kind : String} {error : ControlError}
    (refused : requireKind kind = .error error) : error.Early := by
  rw [requireKind] at refused
  split at refused
  · cases refused
  · cases refused
    trivial

/-- What does not pass the first check is refused early. -/
theorem early_of_prepare {request : WriteRequest} {error : ControlError}
    (refused : prepare t request = .error error) : error.Early := by
  cases request with
  | createPool l =>
      simp only [prepare] at refused
      split at refused
      · cases refused
        trivial
      · exact refusal_of_last (fun _ => early_of_requireMode) _ refused
  | setRateLimiter s =>
      simp only [prepare] at refused
      split at refused
      · cases refused
        trivial
      · refine refusal_of_bind (fun _ => early_of_requireKind) (fun _ => ?_) _ refused
        exact refusal_of_last fun _ => early_of_requirePool
  | mutateAcl action cidr =>
      refine refusal_of_bind (fun error failed => ?_) (fun net error failed => ?_) _ refused
      · cases read : parseCidr cidr with
        | ok net =>
            rw [read] at failed
            cases failed
        | error cause =>
            rw [read] at failed
            cases failed
            trivial
      · split at failed
        · cases failed
          trivial
        · cases failed
  | removePool pattern =>
      exact refusal_of_last (fun _ => early_of_requirePool) _ refused
  | addHost pattern raw =>
      simp only [prepare] at refused
      split at refused
      · cases refused
        trivial
      · exact refusal_of_last (fun _ => early_of_requirePool) _ refused
  | removeHost pattern host =>
      simp only [prepare] at refused
      split at refused
      · cases refused
        trivial
      · exact refusal_of_last (fun _ => early_of_requirePool) _ refused
  | changeBalancer pattern mode =>
      refine refusal_of_bind (fun _ => early_of_requireMode) (fun _ => ?_) _ refused
      exact refusal_of_last fun _ => early_of_requirePool

/-- What is proposed depends on the outlines of the pools and on the access list alone. -/
theorem prepare_steady (steady : t.Steady u) (request : WriteRequest) :
    prepare u request = prepare t request := by
  have pool (pattern : String) : requirePool u pattern = requirePool t pattern := by
    have same : (u.pool? pattern).isSome = (t.pool? pattern).isSome := by
      have known := congrArg (Dict.contains · pattern) steady.outlines
      rw [← Table.contains_router, ← Table.contains_router] at known
      exact known
    rw [requirePool, requirePool, same]
  cases request <;> simp only [prepare, pool, steady.acl]

/-- Requests and checks that come before a proposal do not change what is proposed. -/
theorem prepare_serve {m : Machine} (sound : m.Sound) (event : Traffic) (request : WriteRequest) :
    prepare (m.serve event).table request = prepare m.table request :=
  prepare_steady (sound.table.steady_serve event) request

end ControlPlane

namespace Table.Accepts

variable {m : Machine} {t : Table} {request : WriteRequest} {entry : LogEntry}

/-- What is accepted of a request whose numbers fit is an entry whose numbers fit. -/
theorem fits (accepted : t.Accepts request entry) (fits : request.Fits) : entry.Fits := by
  cases accepted with
  | setRateLimiter => exact fits
  | _ => trivial

/-! ### The second check -/

/-- What the removal of a host may come to on a table that has the pool. -/
def MayFail (request : WriteRequest) (error : ApplyError) : Prop :=
  ∃ pattern host, request = .removeHost pattern host ∧
    (error = .routing (.pool (.hostNotFound pattern ((Backend.address? host).getD host))) ∨
      error = .routing (.pool (.checkStillRuns ((Backend.address? host).getD host))))

/-- A table executes what it gave rise to accept. -/
theorem execute (accepted : t.Accepts request entry) (sound : t.Sound) (acl : t.acl.Sound)
    (around : Surroundings) :
    (Machine.execute t around entry).1 = .ok () ∨
      ∃ error, (Machine.execute t around entry).1 = .error error ∧ MayFail request error := by
  cases accepted with
  | @createPool l buildable =>
      refine Or.inl ?_
      rw [Machine.execute, Table.addPool]
      cases known : t.locations.contains l.pattern with
      | true =>
          rw [sound.insertPool_of_known buildable.pattern buildable.hosts known]
          rfl
      | false =>
          obtain ⟨u, inserted, -⟩ := sound.insertPool_of_buildable buildable known
          rw [inserted]
          rfl
  | @setRateLimiter s kind pool =>
      obtain ⟨p, found⟩ := Option.isSome_iff_exists.1 pool
      obtain ⟨u, set, -⟩ := sound.setLimiter_of_pool found kind around.instant
      rw [Machine.execute, set]
      exact Or.inl rfl
  | @mutateAcl action cidr net read blocked =>
      refine Or.inl ?_
      cases action with
      | insert =>
          simp only [Machine.execute, Machine.mutate, AccessList.block, parseCidr_text]
          rfl
      | delete =>
          obtain ⟨left, deleted, -⟩ := (acl.delete (parseCidr_text net)).1 (blocked rfl)
          simp only [Machine.execute, Machine.mutate, deleted]
          rfl
  | removePool pool =>
      obtain ⟨p, found⟩ := Option.isSome_iff_exists.1 pool
      rw [Machine.execute, removePool_of_pool found]
      exact Or.inl rfl
  | addHost read pool =>
      obtain ⟨p, found⟩ := Option.isSome_iff_exists.1 pool
      obtain ⟨u, added, -⟩ := sound.addHost_of_pool found read
      rw [Machine.execute, added]
      exact Or.inl rfl
  | @removeHost pattern host pool =>
      obtain ⟨p, found⟩ := Option.isSome_iff_exists.1 pool
      -- Nobody has looked whether the host is there, and its checks may not stop in time.
      have results := removeHost_of_pool found host around.checksStop
      rw [Machine.execute]
      dsimp only
      rcases results with removed | unknown | late
      · rw [removed]
        exact Or.inl rfl
      · rw [unknown]
        exact Or.inr ⟨_, rfl, pattern, host, rfl, Or.inl rfl⟩
      · rw [late]
        exact Or.inr ⟨_, rfl, pattern, host, rfl, Or.inr rfl⟩
  | @changeBalancer pattern mode known pool =>
      obtain ⟨p, found⟩ := Option.isSome_iff_exists.1 pool
      obtain ⟨u, changed, -⟩ := sound.changeBalancer_of_pool found known
      rw [Machine.execute, changed]
      exact Or.inl rfl

end Table.Accepts

end ClusterGateway
