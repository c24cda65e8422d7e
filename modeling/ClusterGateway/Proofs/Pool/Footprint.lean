import ClusterGateway.Proofs.Pool.Bare

/-! # What a request touches at its pool

All that requests do to a pool is to take turns, to change limiters and to wait. A step of one
request changes one limiter, the one that its path was given or that it came to when it began to
wait. The limiters with other numbers, those of other paths and the other waiting requests stay as
they are.
-/

namespace ClusterGateway

namespace Pool

variable {p q r : Pool} {ticket number instant : Nat} {path client : String} {turn : Turn}

/-! ### One limiter and whose turn it is -/

/-- A pool differs from another one at most in whose turn it is and in the limiter with a number. -/
structure Beside (p q : Pool) (number : Nat) : Prop where
  bare : q.bare = p.bare
  installed : q.installed = p.installed
  waiting : q.waiting = p.waiting
  length : q.limiters.length = p.limiters.length
  limiters : ∀ {n}, n ≠ number → q.limiters[n]? = p.limiters[n]?

theorem Beside.refl (p : Pool) (number : Nat) : p.Beside p number :=
  ⟨rfl, rfl, rfl, rfl, fun _ => rfl⟩

/-- Two steps that change the limiter with a number alone do so together. -/
theorem Beside.trans (first : p.Beside q number) (second : q.Beside r number) :
    p.Beside r number :=
  ⟨second.bare.trans first.bare, second.installed.trans first.installed,
    second.waiting.trans first.waiting, second.length.trans first.length,
    fun other => (second.limiters other).trans (first.limiters other)⟩

/-- Putting a limiter changes the limiter with its number alone. -/
theorem beside_putLimiter (p : Pool) (number : Nat) (limiter : Limiter) :
    p.Beside (p.putLimiter number limiter) number :=
  ⟨rfl, rfl, rfl, List.length_set, fun other => List.getElem?_set_ne other.symm⟩

theorem beside_giveBack (p : Pool) (number : Nat) : p.Beside (p.giveBack number).2 number := by
  rw [giveBack]
  split
  · exact .refl p number
  · exact p.beside_putLimiter number _

/-- Choosing a host changes no limiter. -/
theorem beside_choose (p : Pool) (client : String) (number : Nat) :
    p.Beside (p.choose client).2 number := by
  have bare := p.bare_choose client
  rw [choose] at bare ⊢
  split
  · exact .refl p number
  · next chosen =>
      rw [chosen] at bare
      exact ⟨bare, rfl, rfl, rfl, fun _ => rfl⟩

theorem beside_serve (p : Pool) (path client : String) (number : Nat) :
    p.Beside (p.serve path client number).2 number := by
  have chosen := p.beside_choose client number
  rw [serve]
  generalize p.choose client = choice at *
  obtain ⟨host, q⟩ := choice
  cases host with
  | some found => exact chosen
  | none => exact chosen.trans (q.beside_giveBack number)

/-! ### A step of a request -/

/-- A pool after a step of a request for a path that uses the limiter with a number. -/
structure Touches (p q : Pool) (ticket : Nat) (path : String) (number : Nat) : Prop where
  bare : q.bare = p.bare
  length : p.limiters.length ≤ q.limiters.length
  limiters : ∀ {n}, n ≠ number → n < p.limiters.length → q.limiters[n]? = p.limiters[n]?
  /-- At most the path itself is given a limiter. -/
  installed : ∀ {other}, other ≠ path → q.installed.get? other = p.installed.get? other
  here : q.installed.get? path = p.installed.get? path ∨ q.installed.get? path = some number
  /-- At most the request itself begins to wait. -/
  waiting : ∀ {w}, w ∈ q.waiting →
    w ∈ p.waiting ∨ w.ticket = ticket ∧ w.path = path ∧ w.limiter = number
  others : q.waiting.filter (·.ticket ≠ ticket) = p.waiting.filter (·.ticket ≠ ticket)

/-- A pool that differs in one limiter is one after a step of any request that uses this limiter. -/
theorem Beside.touches (beside : p.Beside q number) (ticket : Nat) (path : String) :
    p.Touches q ticket path number where
  bare := beside.bare
  length := Nat.le_of_eq beside.length.symm
  limiters := fun other _ => beside.limiters other
  installed := fun {other} _ => by rw [beside.installed]
  here := Or.inl (by rw [beside.installed])
  waiting := fun {w} member => Or.inl (beside.waiting ▸ member)
  others := by rw [beside.waiting]

/-- After a step of a request its limiter may change further. -/
theorem Touches.beside (touches : p.Touches q ticket path number) (beside : q.Beside r number) :
    p.Touches r ticket path number where
  bare := beside.bare.trans touches.bare
  length := beside.length.symm ▸ touches.length
  limiters := fun other inside => (beside.limiters other).trans (touches.limiters other inside)
  installed := fun {other} different => by rw [beside.installed, touches.installed different]
  here := by
    rw [beside.installed]
    exact touches.here
  waiting := fun {w} member => touches.waiting (beside.waiting ▸ member)
  others := by rw [beside.waiting, touches.others]

/-- A request that leaves the queue has taken its step within its bounds. -/
theorem Touches.dismiss (touches : p.Touches q ticket path number) :
    p.Touches (q.dismiss ticket) ticket path number :=
  { touches with
    bare := touches.bare
    waiting := fun {w} member => touches.waiting (List.mem_of_mem_filter member)
    others := by
      rw [← touches.others, Pool.dismiss, List.filter_filter]
      simp }

theorem Touches.wait (touches : p.Touches q ticket path number) (client : String) :
    p.Touches
      { q with waiting := q.waiting ++ [{ ticket, path, client, limiter := number }] }
      ticket path number :=
  { touches with
    bare := touches.bare
    waiting := fun {w} member => by
      rcases List.mem_append.1 member with old | new
      · exact touches.waiting old
      · obtain rfl := List.mem_singleton.1 new
        exact Or.inr ⟨rfl, rfl, rfl⟩
    others := by
      rw [← touches.others, List.filter_append]
      simp }

/-- A path has a limiter, or it is given a new one. -/
theorem limiterFor_spec (limited : p.limiterFor path = (number, r)) :
    p.installed.get? path = some number ∧ r = p ∨
      p.installed.get? path = none ∧ number = p.limiters.length ∧
        r = p.installLimiter path (Limiter.ofKind .qps) := by
  rw [limiterFor] at limited
  split at limited
  · next found =>
      obtain ⟨rfl, rfl⟩ := Prod.mk.inj limited
      exact Or.inl ⟨found, rfl⟩
  · next absent =>
      obtain ⟨rfl, rfl⟩ := Prod.mk.inj limited
      exact Or.inr ⟨absent, rfl, rfl⟩

/-- Installing a limiter is like a step of a request for its path: the limiter is the next one. -/
theorem touches_installLimiter (p : Pool) (path : String) (limiter : Limiter) (ticket : Nat) :
    p.Touches (p.installLimiter path limiter) ticket path p.limiters.length where
  bare := rfl
  length := by
    rw [installLimiter, List.length_append]
    exact Nat.le_add_right _ _
  limiters := fun _ inside => List.getElem?_append_left inside
  installed := fun different => by rw [installLimiter, Dict.get?_insert, if_neg different.symm]
  here := Or.inr (by rw [installLimiter, Dict.get?_insert, if_pos rfl])
  waiting := Or.inl
  others := rfl

/-- Looking a limiter up, or installing one where the path has none, is such a step. -/
theorem touches_limiterFor (limited : p.limiterFor path = (number, r)) (ticket : Nat) :
    p.Touches r ticket path number := by
  rcases limiterFor_spec limited with ⟨-, rfl⟩ | ⟨-, rfl, rfl⟩
  · exact (Beside.refl r number).touches ticket path
  · exact p.touches_installLimiter path _ ticket

/-- A request that comes touches the limiter of its path alone. -/
theorem touches_acquire (limited : p.limiterFor path = (number, r)) (ticket : Nat)
    (client : String) (instant : Nat) :
    p.Touches (p.acquire ticket path client instant).2 ticket path number := by
  have touches := touches_limiterFor limited ticket
  rcases acquire_spec limited ticket client instant with
    whole | ⟨l, after, -, ⟨-, whole⟩ | ⟨-, whole⟩⟩ <;> rw [whole]
  · exact touches
  · exact (touches.beside (r.beside_putLimiter number after)).beside
      (beside_serve _ path client number)
  · exact (touches.beside (r.beside_putLimiter number after)).wait client

/-- A request that comes adds no limiter but that of its path. -/
theorem length_acquire (limited : p.limiterFor path = (number, r)) (ticket : Nat)
    (client : String) (instant : Nat) :
    (p.acquire ticket path client instant).2.limiters.length = r.limiters.length := by
  rcases acquire_spec limited ticket client instant with
    whole | ⟨l, after, -, ⟨-, whole⟩ | ⟨-, whole⟩⟩ <;> rw [whole]
  · rw [(beside_serve _ path client number).length]
    exact List.length_set
  · exact List.length_set

/-- A request that looks again touches the limiter for which it waits alone. -/
theorem touches_look {w : Waiter} (waits : p.waiter? ticket = some w)
    (looked : p.look ticket instant = some (turn, q)) : p.Touches q ticket w.path w.limiter := by
  obtain ⟨v, l, after, waits', -, ⟨-, whole⟩ | ⟨-, -, rfl⟩⟩ := look_spec looked <;>
    obtain rfl := Option.some.inj (waits'.symm.trans waits)
  · have touches := ((p.beside_putLimiter v.limiter after).touches ticket v.path).dismiss.beside
      (beside_serve _ v.path v.client v.limiter)
    rwa [whole] at touches
  · exact (p.beside_putLimiter v.limiter after).touches ticket v.path

/-- A request whose time is over touches the limiter for which it waits alone. -/
theorem touches_expire {w : Waiter} (waits : p.waiter? ticket = some w)
    (expired : p.expire ticket = some (turn, q)) : p.Touches q ticket w.path w.limiter := by
  obtain ⟨v, l, waits', -, -, rfl⟩ := expire_spec expired
  obtain rfl := Option.some.inj (waits'.symm.trans waits)
  exact ((p.beside_putLimiter v.limiter _).touches ticket v.path).dismiss

/-! ### Guards -/

/-- A guard of a pool for a path, which holds a permit of the limiter with a number. -/
def Signed (p : Pool) (path : String) (number : Nat) (guard : Guard) : Prop :=
  guard.serial = p.serial ∧ guard.path = path ∧ guard.limiter = number

/-- A guard that is handed out is one of the pool, for the path and with the limiter. -/
def Signs (p : Pool) (path : String) (number : Nat) (admission : Admission) : Prop :=
  ∀ guard, admission = .granted guard → p.Signed path number guard

/-- A request that is served gets a guard of the pool, for its path and with its limiter. -/
theorem signs_serve (p : Pool) (path client : String) (number : Nat) :
    p.Signs path number (p.serve path client number).1.admission := by
  have chosen := p.bare_choose client
  rw [serve]
  generalize p.choose client = choice at *
  obtain ⟨host, q⟩ := choice
  cases host with
  | some found =>
      intro guard granted
      obtain rfl := Admission.granted.inj granted
      exact ⟨serial_eq_of_bare chosen, rfl, rfl⟩
  | none => exact fun guard granted => absurd granted (by simp)

/-- A guard of a pool is one of every pool that is bare alike. -/
theorem Signs.of_bare {admission : Admission} (signs : q.Signs path number admission)
    (same : q.bare = p.bare) : p.Signs path number admission := by
  intro guard granted
  rw [Signed, ← serial_eq_of_bare same]
  exact signs guard granted

/-- A request that comes and is served gets a guard with the limiter of its path. -/
theorem signs_acquire (limited : p.limiterFor path = (number, r)) (ticket : Nat)
    (client : String) (instant : Nat) :
    p.Signs path number (p.acquire ticket path client instant).1.admission := by
  have bare := (touches_limiterFor limited ticket).bare
  rcases acquire_spec limited ticket client instant with
    whole | ⟨l, after, -, ⟨-, whole⟩ | ⟨-, whole⟩⟩ <;> rw [whole]
  · exact fun guard granted => absurd granted (by simp)
  · exact (signs_serve (r.putLimiter number after) path client number).of_bare bare
  · exact fun guard granted => absurd granted (by simp)

theorem signs_look {w : Waiter} (waits : p.waiter? ticket = some w)
    (looked : p.look ticket instant = some (turn, q)) :
    p.Signs w.path w.limiter turn.admission := by
  obtain ⟨v, l, after, waits', -, ⟨-, whole⟩ | ⟨-, rfl, -⟩⟩ := look_spec looked
  · obtain rfl := Option.some.inj (waits'.symm.trans waits)
    have signs := signs_serve ((p.putLimiter v.limiter after).dismiss ticket) v.path v.client
      v.limiter
    rw [whole] at signs
    exact signs.of_bare rfl
  · exact fun guard granted => absurd granted (by simp)

/-- A request whose time is over gets no guard. -/
theorem signs_expire (expired : p.expire ticket = some (turn, q)) (path : String) (number : Nat) :
    p.Signs path number turn.admission := by
  obtain ⟨w, l, -, -, rfl, -⟩ := expire_spec expired
  exact fun guard granted => absurd granted (by simp)

end Pool

end ClusterGateway
