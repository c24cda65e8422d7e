import ClusterGateway.Clock.Agenda
import ClusterGateway.Dict
import ClusterGateway.Limit.Limiter

/-! # Requests at one limiter

Requests come to a limiter under names and may wait there while others come, give permits back or
change its rate. A counter runs them on a clock: after every step all woken requests look again, and
a request whose time is over gives up.
-/

namespace ClusterGateway

/-- What a request at a limiter is waiting for. -/
inductive CounterEvent where
  /-- The request may look again. -/
  | look (ticket : Nat)
  /-- The time of the request is over. -/
  | deadline (ticket : Nat)
deriving DecidableEq, Repr

/-- A limiter with the requests that wait there. -/
structure LimiterCounter where
  limiter : Limiter
  /-- The clock and what is to come. -/
  agenda : Agenda CounterEvent := {}
  nextTicket : Nat := 0
  /-- The requests that wait, with the time at which they give up. -/
  waiting : List (Nat × Nat) := []
  /-- Whether a request got its permit, by request. -/
  results : List (Nat × Bool) := []
  names : Dict Nat := ∅
deriving Inhabited

namespace LimiterCounter

/-- The time in nanoseconds. -/
def instant (c : LimiterCounter) : Nat := c.agenda.now * 1000000

/-- Ends a request. -/
def conclude (c : LimiterCounter) (ticket : Nat) (granted : Bool) : LimiterCounter :=
  { c with
    waiting := c.waiting.filter (·.1 ≠ ticket)
    results := (ticket, granted) :: c.results
    agenda := c.agenda.cancel fun event =>
      event = .look ticket || event = .deadline ticket }

/-- A request that waits looks whether there is a permit. -/
def look (c : LimiterCounter) (ticket deadline : Nat) : LimiterCounter :=
  let (granted, limiter) := c.limiter.attempt ticket c.instant
  let c := { c with limiter }
  if granted then c.conclude ticket true
  else
    match limiter.readyAt? with
    | some ready =>
      let time := (ready + 999999) / 1000000
      if time ≤ deadline then { c with agenda := c.agenda.at_ time (.look ticket) } else c
    | none => c

/-- A request comes and may wait for `timeout` milliseconds; answers with its number. -/
def arrive (c : LimiterCounter) (timeout : Nat) : Nat × LimiterCounter :=
  let ticket := c.nextTicket
  let deadline := c.agenda.now + timeout
  let c := { c with
    nextTicket := ticket + 1
    waiting := c.waiting ++ [(ticket, deadline)]
    agenda := c.agenda.at_ deadline (.deadline ticket) }
  (ticket, c.look ticket deadline)

/-- What becomes of an event. -/
def handle (c : LimiterCounter) : CounterEvent → LimiterCounter
  | .look ticket =>
    match c.waiting.find? (·.1 = ticket) with
    | some (_, deadline) => c.look ticket deadline
    | none => c
  | .deadline ticket =>
    if c.waiting.any (·.1 = ticket) then
      let (woken, limiter) := c.limiter.abandon ticket
      let c := { c with limiter, agenda := c.agenda.wakeAll (woken.toList.map .look) }
      c.conclude ticket false
    else c

/-- Lets all ready events happen. -/
def settle : Nat → LimiterCounter → LimiterCounter
  | 0, c => c
  | fuel + 1, c =>
    match c.agenda.pop? with
    | some (event, agenda) => settle fuel (handle { c with agenda } event)
    | none => c

/-- A bound on the ready events in a row. -/
def eventBound (c : LimiterCounter) : Nat :=
  4 * (c.agenda.ready.length + c.agenda.timers.length + c.waiting.length + 1)

/-- Lets all ready events happen. -/
def flush (c : LimiterCounter) : LimiterCounter := settle c.eventBound c

/-- Lets all happen up to a time. -/
def runTo (limit : Nat) : Nat → LimiterCounter → LimiterCounter
  | 0, c => c
  | fuel + 1, c =>
    match c.agenda.advance? limit with
    | some agenda => runTo limit fuel (flush { c with agenda })
    | none => c

/-- A bound on the times at which something is due, one request looking twice at most. -/
def timeBound (c : LimiterCounter) : Nat := 2 * (c.agenda.timers.length + c.waiting.length + 1)

/-- Lets all happen that can happen without time passing. -/
def idle (c : LimiterCounter) : LimiterCounter :=
  let c := c.flush
  runTo c.agenda.now c.timeBound c

/-- Lets time pass. -/
def advance (c : LimiterCounter) (time : Nat) : LimiterCounter :=
  let c := c.idle
  let limit := c.agenda.now + time
  let c := runTo limit c.timeBound c
  { c with agenda := c.agenda.moveTo limit }

/-- Takes a permit without waiting. -/
def take (c : LimiterCounter) : Except LimiterError Unit × LimiterCounter :=
  match c.limiter.take? c.instant with
  | some limiter => (.ok (), { c with limiter })
  | none => (.error .noToken, c)

/-- The result of a request with a number, once there is one. -/
def result? (c : LimiterCounter) (ticket : Nat) : Option (Except LimiterError Unit) :=
  (c.results.find? (·.1 = ticket)).map fun r => if r.2 then .ok () else .error .noToken

/-- Waits until a request has its result. -/
def await (ticket : Nat) : Nat → LimiterCounter → LimiterCounter
  | 0, c => c
  | fuel + 1, c =>
    if (c.result? ticket).isSome then c
    else
      match c.agenda.nextDue? with
      | some due => await ticket fuel (flush { c with agenda := c.agenda.moveTo due })
      | none => c

/-- Takes a permit, waiting for it if need be; the clock moves on meanwhile. -/
def takeWithin (c : LimiterCounter) (timeout : Nat) : Except LimiterError Unit × LimiterCounter :=
  let (ticket, c) := c.arrive timeout
  let c := await ticket c.timeBound c.idle
  ((c.result? ticket).getD (.error .noToken), c)

/-- Lets a request wait under a name. -/
def spawn (c : LimiterCounter) (name : String) (timeout : Nat) : LimiterCounter :=
  let (ticket, c) := c.arrive timeout
  (({ c with names := c.names.insert name ticket } : LimiterCounter)).idle

/-- The result of the request with a name, if it has one. -/
def join (c : LimiterCounter) (name : String) : Option (Except LimiterError Unit) :=
  (c.names.get? name).bind c.result?

/-- Gives a permit back. -/
def release (c : LimiterCounter) : LimiterCounter :=
  let (woken, limiter) := c.limiter.release
  idle { c with limiter, agenda := c.agenda.wakeAll (woken.toList.map .look) }

def setRate (c : LimiterCounter) (volume speed : Int) : LimiterCounter :=
  let (woken, limiter) := c.limiter.setRate volume speed c.instant
  idle { c with limiter, agenda := c.agenda.wakeAll (woken.map .look) }

/-- Sets how long a request may wait by default. -/
def setTimeout (c : LimiterCounter) (timeout : Nat) : LimiterCounter :=
  { c with limiter := c.limiter.setTimeout timeout }

end LimiterCounter

end ClusterGateway
