import ClusterGateway.Proofs.Limit.Queue

/-! # Calls at a gate, move by move

Between any two accesses of a call to the gate other calls may act. A call that may wait first gets a
wake-up, then puts itself into the queue, then looks for room, and then waits, so a slot that is
given back after the look finds the call in the queue. Giving a slot back and changing the volume
take two moves each: first the count or the volume changes, then calls are woken. Here every such
access is a move of its own, and a crowd may make its moves in any order.
-/

namespace ClusterGateway

/-- Where a call that may wait has got to. -/
inductive CallStage where
  /-- It has a wake-up but is not in the queue. -/
  | coming
  /-- It is about to look for room. -/
  | looking
  /-- It has found room and is about to leave the queue. -/
  | entered
  /-- It has found no room. -/
  | waiting
deriving DecidableEq, Repr

/-- A call that may wait. -/
structure Call where
  stage : CallStage
  /-- Whether its wake-up has come while it was not in the queue. -/
  ready : Bool := false
deriving DecidableEq, Repr

/-- A gate and all that goes on at it. -/
structure Crowd where
  gate : Gate := {}
  /-- The calls that may wait, by their tickets. -/
  calls : List (Nat × Call) := []
  /-- How many slots were given back for which no call has been woken yet. -/
  freed : Nat := 0
  /-- How many changes of the volume have not woken the calls yet. -/
  changed : Nat := 0
deriving DecidableEq, Repr

/-- A move of a call, or of one who gives a slot back or changes the volume. -/
inductive Move where
  /-- A call that does not wait asks for a slot. -/
  | take
  /-- A call that may wait comes and gets a wake-up. -/
  | arrive (ticket : Nat)
  /-- A call joins the queue, unless its wake-up has come. -/
  | enlist (ticket : Nat)
  /-- A call looks for room. -/
  | look (ticket : Nat)
  /-- A call that has entered drops its wake-up. -/
  | leave (ticket : Nat)
  /-- A call that was woken gets a new wake-up. -/
  | resume (ticket : Nat)
  /-- A waiting call gives up, because its time is over or because nobody wants it any more. -/
  | giveUp (ticket : Nat)
  /-- A slot is given back. -/
  | giveBack
  /-- Whoever gave a slot back wakes a call. -/
  | wakeOne
  /-- The volume is changed. -/
  | change (volume : Int)
  /-- Whoever changed the volume wakes all calls. -/
  | wakeAll
deriving DecidableEq, Repr

/-- A move that is made as soon as it can be: it waits neither for a clock nor for a new wish. -/
def Move.Continues : Move → Prop
  | .enlist _ | .look _ | .leave _ | .resume _ | .wakeOne | .wakeAll => True
  | _ => False

/-- A volume that is changed while a call is coming counts as its wake-up. -/
def Call.hear (call : Call) : Call :=
  if call.stage = .coming then { call with ready := true } else call

namespace Crowd

/-- The call with a ticket. -/
def call? (c : Crowd) (t : Nat) : Option Call := c.calls.lookup t

/-- The crowd at a changed gate, with a call in place of the one with a ticket, or without any. -/
def put (c : Crowd) (gate : Gate) (t : Nat) (call : Option Call) : Crowd :=
  { c with gate, calls := (call.map (t, ·)).toList ++ c.calls.filter (·.1 ≠ t) }

/-- A call goes and drops its wake-up; if a slot was given back for it, the next one is woken. -/
def dismiss (c : Crowd) (t : Nat) : Crowd := c.put (c.gate.abandon t).2 t none

/-- The crowd after a move, if the move is possible. -/
def step? (c : Crowd) : Move → Option Crowd
  | .take => c.gate.take?.map fun gate => { c with gate }
  | .arrive t =>
    match c.call? t with
    | none => some (c.put c.gate t (some ⟨.coming, false⟩))
    | some _ => none
  | .enlist t =>
    match c.call? t with
    | some ⟨.coming, ready⟩ =>
      if c.gate.stored then
        some (c.put { c.gate with stored := false } t (some ⟨.looking, true⟩))
      else if ready then some (c.put c.gate t (some ⟨.looking, true⟩))
      else
        some (c.put { c.gate with waiting := c.gate.waiting ++ [t] } t (some ⟨.looking, false⟩))
    | _ => none
  | .look t =>
    match c.call? t with
    | some ⟨.looking, ready⟩ =>
      match c.gate.take? with
      | some gate => some (c.put gate t (some ⟨.entered, ready⟩))
      | none => some (c.put c.gate t (some ⟨.waiting, ready⟩))
    | _ => none
  | .leave t =>
    match c.call? t with
    | some ⟨.entered, _⟩ => some (c.dismiss t)
    | _ => none
  | .resume t =>
    match c.call? t with
    | some ⟨.waiting, ready⟩ =>
      if ready ∨ t ∈ c.gate.woken.map (·.1) then
        some (c.put { c.gate with woken := c.gate.woken.filter (·.1 ≠ t) } t
          (some ⟨.coming, false⟩))
      else none
    | _ => none
  | .giveUp t =>
    match c.call? t with
    | some ⟨.waiting, _⟩ => some (c.dismiss t)
    | _ => none
  | .giveBack =>
    some { c with gate := { c.gate with inUse := c.gate.inUse - 1 }, freed := c.freed + 1 }
  | .wakeOne =>
    if c.freed = 0 then none
    else some { c with gate := c.gate.wakeOne.2, freed := c.freed - 1 }
  | .change volume =>
    some { c with gate := { c.gate with volume := volume.toNat }, changed := c.changed + 1 }
  | .wakeAll =>
    if c.changed = 0 then none
    else some { c with
      gate := c.gate.wakeAll
      calls := c.calls.map fun e => (e.1, e.2.hear)
      changed := c.changed - 1 }

/-- Makes a move; one that is not possible changes nothing. -/
def step (c : Crowd) (move : Move) : Crowd := (c.step? move).getD c

/-- Makes moves one after another. -/
def run (c : Crowd) (moves : List Move) : Crowd := moves.foldl step c

/-! ### Tickets -/

variable {c : Crowd} {t u : Nat}

/-- A call that comes first in the list is found under its ticket, and every other call as
before. -/
theorem lookup_cons_eq (e : Nat × Call) (calls : List (Nat × Call)) (u : Nat) :
    (e :: calls).lookup u = if u = e.1 then some e.2 else calls.lookup u := by
  by_cases same : u = e.1
  · rw [if_pos same, List.lookup_cons, same, beq_self_eq_true]
  · rw [if_neg same, List.lookup_cons, beq_false_of_ne same]

/-- A call that is taken out of the list is not found any more, and every other call is found as
before. -/
theorem lookup_filter_ne (calls : List (Nat × Call)) (t u : Nat) :
    (calls.filter (·.1 ≠ t)).lookup u = if u = t then none else calls.lookup u := by
  induction calls with
  | nil => simp
  | cons e calls ih =>
      by_cases same : e.1 = t
      · rw [List.filter_cons_of_neg (by simpa using same), ih, lookup_cons_eq, same]
        split <;> rfl
      · rw [List.filter_cons_of_pos (by simpa using same), lookup_cons_eq, ih, lookup_cons_eq]
        by_cases here : u = e.1
        · simp [here, same]
        · simp [here]

/-- Putting a call changes what is known under its ticket and nothing else. -/
@[simp] theorem call?_put (c : Crowd) (gate : Gate) (t : Nat) (call : Option Call) (u : Nat) :
    (c.put gate t call).call? u = if u = t then call else c.call? u := by
  cases call with
  | none => exact lookup_filter_ne c.calls t u
  | some call =>
      refine (lookup_cons_eq (t, call) (c.calls.filter (·.1 ≠ t)) u).trans ?_
      rw [lookup_filter_ne]
      split <;> rfl

@[simp] theorem gate_put (c : Crowd) (gate : Gate) (t : Nat) (call : Option Call) :
    (c.put gate t call).gate = gate := rfl

/-- Of two calls that are put under one ticket the second one counts. -/
@[simp] theorem put_put (c : Crowd) (before gate : Gate) (t : Nat) (first call : Option Call) :
    (c.put before t first).put gate t call = c.put gate t call := by
  cases first <;> simp [put, List.filter_filter]

/-- If no ticket has a call there are no calls. -/
theorem calls_eq_nil (none_ : ∀ t, c.call? t = none) : c.calls = [] := by
  cases calls : c.calls with
  | nil => rfl
  | cons e rest =>
      have absent := none_ e.1
      rw [call?, calls, lookup_cons_eq, if_pos rfl] at absent
      exact absurd absent (by simp)

/-! ### Crowds in which nothing goes on -/

/-- Nothing can go on by itself. -/
def Quiet (c : Crowd) : Prop := ∀ move : Move, move.Continues → c.step? move = none

/-- In a quiet crowd no slot is still to be told of. -/
theorem Quiet.freed (quiet : c.Quiet) : c.freed = 0 := by
  have stuck := quiet .wakeOne trivial
  by_contra owed
  simp [step?, owed] at stuck

/-- In a quiet crowd no change of the volume is still to be told of. -/
theorem Quiet.changed (quiet : c.Quiet) : c.changed = 0 := by
  have stuck := quiet .wakeAll trivial
  by_contra owed
  simp [step?, owed] at stuck

/-- In a quiet crowd every call waits without a wake-up. -/
theorem Quiet.waiting (quiet : c.Quiet) {call : Call} (found : c.call? t = some call) :
    call = ⟨.waiting, false⟩ ∧ t ∉ c.gate.woken.map (·.1) := by
  obtain ⟨stage, ready⟩ := call
  cases stage with
  | coming =>
      have stuck := quiet (.enlist t) trivial
      simp only [step?, found] at stuck
      split at stuck
      · exact absurd stuck (by simp)
      · split at stuck <;> exact absurd stuck (by simp)
  | looking =>
      have stuck := quiet (.look t) trivial
      simp only [step?, found] at stuck
      split at stuck <;> exact absurd stuck (by simp)
  | entered =>
      have stuck := quiet (.leave t) trivial
      simp [step?, found] at stuck
  | waiting =>
      have stuck := quiet (.resume t) trivial
      simp only [step?, found] at stuck
      split at stuck
      · exact absurd stuck (by simp)
      · next idle =>
          rw [not_or, Bool.not_eq_true] at idle
          exact ⟨by rw [idle.1], idle.2⟩

/-- A crowd is quiet when every slot given back and every change of the volume has woken its calls,
and every call waits without having been woken. -/
theorem quiet_iff :
    c.Quiet ↔ c.freed = 0 ∧ c.changed = 0 ∧ ∀ t call, c.call? t = some call →
      call = ⟨.waiting, false⟩ ∧ t ∉ c.gate.woken.map (·.1) := by
  refine ⟨fun quiet => ⟨quiet.freed, quiet.changed, fun _ _ => quiet.waiting⟩, ?_⟩
  rintro ⟨freed, changed, waits⟩ move continues
  have each {t : Nat} {call : Call} (found : c.call? t = some call) := waits t call found
  cases move with
  | enlist t | look t | leave t =>
      cases found : c.call? t with
      | none => simp [step?, found]
      | some call =>
          obtain rfl := (each found).1
          simp [step?, found]
  | resume t =>
      cases found : c.call? t with
      | none => simp [step?, found]
      | some call =>
          obtain ⟨rfl, unwoken⟩ := each found
          simp [step?, found, unwoken]
  | wakeOne => simp [step?, freed]
  | wakeAll => simp [step?, changed]
  | take | arrive | giveUp | giveBack | change => exact continues.elim

end Crowd

end ClusterGateway
