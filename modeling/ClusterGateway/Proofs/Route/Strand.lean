import ClusterGateway.Proofs.Pool.Footprint
import ClusterGateway.Proofs.Route.Likeness

/-! # One path below two pools

We compare a pool that serves requests for many paths with one that serves only those for a single
path, and otherwise has lived through the same. The limiters that the path was given have other
numbers in the one than in the other, since fewer have been installed there. But they correspond one
to one and are in the same state, and so are the requests for the path that wait and the guards that
they hold. What requests for other paths do in the first pool does not disturb this, nor does it
when a request for the path does the same at both.
-/

namespace ClusterGateway

/-! ### Calls -/

/-- What is noted of the calls at a table. -/
structure Calls where
  /-- The pattern and the path below it for which a call came. -/
  came : Nat → Option (String × String) := fun _ => none
  held : Nat → Option Guard := fun _ => none

namespace Calls

/-- A call comes for a path below a pattern. -/
def arrive (c : Calls) (ticket : Nat) (pair : String × String) : Calls :=
  { c with came := Function.update c.came ticket (some pair) }

/-- A call that is granted holds its guard. -/
def note (c : Calls) (ticket : Nat) : Admission → Calls
  | .granted guard => { c with held := Function.update c.held ticket (some guard) }
  | .refused _ | .waiting _ => c

/-- A call holds no guard any more. -/
def drop (c : Calls) (ticket : Nat) : Calls :=
  { c with held := Function.update c.held ticket none }

/-- Nothing is noted but what a call holds after a step: what it held before, nothing, or a guard
that fits. -/
structure Settles (c d : Calls) (ticket : Nat) (fits : Guard → Prop) : Prop where
  came : d.came = c.came
  others : ∀ {k}, k ≠ ticket → d.held k = c.held k
  fits : ∀ {g}, d.held ticket = some g → c.held ticket = some g ∨ fits g

/-- No call is forgotten, and none is given a guard of the pool with a number. -/
structure Spares (c d : Calls) (serial : Nat) : Prop where
  came : ∀ {k v}, c.came k = some v → d.came k = some v
  held : ∀ {k g}, d.held k = some g → g.serial = serial → c.held k = some g

variable {c : Calls} {ticket : Nat} {a : Admission}

@[simp] theorem came_note (c : Calls) (ticket : Nat) (a : Admission) :
    (c.note ticket a).came = c.came := by
  cases a <;> rfl

/-- What comes of one call does not change what another one holds. -/
theorem held_note_of_ne {k : Nat} (other : k ≠ ticket) (c : Calls) (a : Admission) :
    (c.note ticket a).held k = c.held k := by
  cases a with
  | granted guard => exact Function.update_of_ne other _ _
  | refused error => rfl
  | waiting time => rfl

/-- A call that is granted holds its guard from then on. -/
theorem held_note_granted (c : Calls) (ticket : Nat) (guard : Guard) :
    (c.note ticket (.granted guard)).held ticket = some guard := Function.update_self _ _ _

/-- A call that is told nothing holds what it held. -/
theorem settles_refl (c : Calls) (ticket : Nat) (fits : Guard → Prop) : c.Settles c ticket fits :=
  ⟨rfl, fun _ => rfl, Or.inl⟩

/-- After a step a call holds what it held or the guard that it was granted. -/
theorem settles_note {fits : Guard → Prop} (granted : ∀ guard, a = .granted guard → fits guard)
    (c : Calls) (ticket : Nat) : c.Settles (c.note ticket a) ticket fits := by
  refine ⟨came_note c ticket a, fun other => held_note_of_ne other c a, fun {g} holds => ?_⟩
  cases a with
  | granted guard =>
      rw [held_note_granted] at holds
      obtain rfl := Option.some.inj holds
      exact Or.inr (granted _ rfl)
  | refused error => exact Or.inl holds
  | waiting time => exact Or.inl holds

theorem held_drop (c : Calls) (ticket : Nat) : (c.drop ticket).held ticket = none :=
  Function.update_self _ _ _

/-- A call that gives its guard back holds none of which something would have to fit. -/
theorem settles_drop (c : Calls) (ticket : Nat) (fits : Guard → Prop) :
    c.Settles (c.drop ticket) ticket fits :=
  ⟨rfl, fun other => Function.update_of_ne other _ _, fun {g} holds =>
    absurd ((c.held_drop ticket).symm.trans holds) (by simp)⟩

/-- A guard that is held after a step was held before, or was granted to the one call that had the
step. -/
theorem Settles.cases {d : Calls} {fits : Guard → Prop} (settles : c.Settles d ticket fits)
    {k : Nat} {g : Guard} (holds : d.held k = some g) :
    c.held k = some g ∨ k = ticket ∧ fits g := by
  by_cases own : k = ticket
  · subst own
    exact (settles.fits holds).imp_right fun fits => ⟨rfl, fits⟩
  · rw [settles.others own] at holds
    exact Or.inl holds

/-- A step of a call that is granted no guard of a pool spares that pool. -/
theorem Settles.spares {d : Calls} {fits : Guard → Prop} (settles : c.Settles d ticket fits)
    {serial : Nat} (other : ∀ {g}, fits g → g.serial ≠ serial) : c.Spares d serial :=
  ⟨fun {k v} known => by rw [settles.came, known], fun holds same =>
    (settles.cases holds).resolve_right fun mine => other mine.2 same⟩

end Calls

namespace Pool

variable {pair : String × String} {c c' d d' : Calls} {p q r s : Pool} {path : String}
  {ticket number number' : Nat} {link : Nat → Nat → Prop}

/-- A limiter is the one of a path, or a request for the path waits for it or holds a permit of it.
-/
inductive Uses (c : Calls) (p : Pool) : String → Nat → Prop
  | installed {path : String} {number : Nat} :
    p.installed.get? path = some number → Uses c p path number
  | waiting {w : Waiter} : w ∈ p.waiting → Uses c p w.path w.limiter
  | held {ticket : Nat} {g : Guard} :
    c.held ticket = some g → g.serial = p.serial → Uses c p g.path g.limiter

/-- Two waiting requests that differ at most in the numbers of their limiters, which are linked. -/
structure Twins (link : Nat → Nat → Prop) (w v : Waiter) : Prop where
  ticket : v.ticket = w.ticket
  path : v.path = w.path
  client : v.client = w.client
  limiter : link w.limiter v.limiter

/-- All that the first pool knows of a path corresponds to what the second one knows, with the
numbers of limiters linked. -/
structure Braid (path : String) (c c' : Calls) (link : Nat → Nat → Prop) (p q : Pool) : Prop where
  same : ∀ {a b}, link a b → ∃ l, p.limiters[a]? = some l ∧ q.limiters[b]? = some l
  paired : ∀ {a b x y}, link a b → link x y → (a = x ↔ b = y)
  within : ∀ {other a}, p.Uses c other a → a < p.limiters.length
  /-- Only the path itself uses limiters that are linked. -/
  apart : ∀ {other a b}, p.Uses c other a → link a b → other = path
  installed : Option.Rel link (p.installed.get? path) (q.installed.get? path)
  waiting : List.Forall₂ (Twins link) (p.waiting.filter (·.path = path)) q.waiting
  held : ∀ {k g g'}, c.held k = some g → g.serial = p.serial → c'.held k = some g' →
    g'.serial = q.serial → link g.limiter g'.limiter

/-- Two pools of which the second one serves only the calls for one path below one pattern. -/
structure Kin (pair : String × String) (c c' : Calls) (p q : Pool) : Prop where
  bare : q.bare = p.bare
  stocked : p.Stocked
  waits : ∀ {w}, w ∈ p.waiting → c.came w.ticket = some (p.pattern, w.path)
  guards : ∀ {k g}, c.held k = some g → g.serial = p.serial → c.came k = some (p.pattern, g.path)
  elsewhere : p.pattern ≠ pair.1 → q.waiting = []
  braid : p.pattern = pair.1 → ∃ link, Braid pair.2 c c' link p q

/-- A request that waits at a pool came for its pattern and the path that it waits for. -/
theorem Kin.came_of_waiter (kin : Kin pair c c' p q) {w : Waiter}
    (waits : p.waiter? ticket = some w) : c.came ticket = some (p.pattern, w.path) := by
  obtain ⟨member, same⟩ := mem_waiting_of_waiter waits
  rw [← same, kin.waits member]

/-- A waiting call waits for what it came for. -/
theorem Kin.pair_of_waiter (kin : Kin pair c c' p q) {other : String × String}
    (arrived : c.came ticket = some other) {w : Waiter} (waits : p.waiter? ticket = some w) :
    (p.pattern, w.path) = other :=
  Option.some.inj ((kin.came_of_waiter waits).symm.trans arrived)

/-! ### Calls at other pools, and changes of a pool -/

/-- Who uses a limiter used it before, if the calls of the pool were spared. -/
theorem Uses.of_spares {a : Nat} (uses : p.Uses d path a) (spares : c.Spares d p.serial) :
    p.Uses c path a := by
  cases uses with
  | installed found => exact .installed found
  | waiting member => exact .waiting member
  | held holds serial => exact .held (spares.held holds serial) serial

/-- What corresponds still does when the calls of both pools were spared. -/
theorem Braid.spared (braid : Braid path c c' link p q) (spares : c.Spares d p.serial)
    (spares' : c'.Spares d' q.serial) : Braid path d d' link p q :=
  { braid with
    within := fun uses => braid.within (uses.of_spares spares)
    apart := fun uses => braid.apart (uses.of_spares spares)
    held := fun holds serial holds' serial' =>
      braid.held (spares.held holds serial) serial (spares'.held holds' serial') serial' }

/-- Calls at other pools change nothing, nor does it if a guard is given back. -/
theorem Kin.spared (kin : Kin pair c c' p q) (spares : c.Spares d p.serial)
    (spares' : c'.Spares d' q.serial) : Kin pair d d' p q where
  bare := kin.bare
  stocked := kin.stocked
  waits := fun member => spares.came (kin.waits member)
  guards := fun holds serial => spares.came (kin.guards (spares.held holds serial) serial)
  elsewhere := kin.elsewhere
  braid := fun here => (kin.braid here).imp fun _ braid => braid.spared spares spares'

/-- Who uses a limiter of a pool used it before something else happened there. -/
theorem Uses.of_aside {a : Nat} (aside : p.Aside r) (uses : r.Uses c path a) :
    p.Uses c path a := by
  obtain ⟨hosts, balancer, checks, shutDown, rfl⟩ := aside
  cases uses with
  | installed found => exact .installed found
  | waiting member => exact .waiting (p := p) member
  | held holds serial => exact .held holds serial

/-- What corresponds still does when something happens at both pools that is no step of a
request. -/
theorem Braid.aside (braid : Braid path c c' link p q) (aside : p.Aside r) (aside' : q.Aside s) :
    Braid path c c' link r s := by
  have before {other : String} {a : Nat} (uses : r.Uses c other a) : p.Uses c other a :=
    uses.of_aside aside
  obtain ⟨hosts, balancer, checks, shutDown, rfl⟩ := aside
  obtain ⟨hosts', balancer', checks', shutDown', rfl⟩ := aside'
  exact ⟨braid.same, braid.paired, fun uses => braid.within (before uses),
    fun uses => braid.apart (before uses), braid.installed, braid.waiting, braid.held⟩

/-! ### A call for another path -/

/-- What a pool uses after a step of a call it used before, or the call uses it. -/
theorem Touches.uses {other : String} {a : Nat} (touches : p.Touches r ticket path number)
    (settles : c.Settles d ticket (p.Signed path number)) (uses : r.Uses d other a) :
    p.Uses c other a ∨ other = path ∧ a = number := by
  cases uses with
  | installed found =>
      by_cases same : other = path
      · subst same
        rcases touches.here with here | here <;> rw [here] at found
        · exact Or.inl (.installed found)
        · exact Or.inr ⟨rfl, (Option.some.inj found).symm⟩
      · rw [touches.installed same] at found
        exact Or.inl (.installed found)
  | waiting member =>
      rcases touches.waiting member with old | ⟨-, path, limiter⟩
      · exact Or.inl (.waiting old)
      · exact Or.inr ⟨path, limiter⟩
  | held holds serial =>
      have serial := serial.trans (serial_eq_of_bare touches.bare)
      rcases settles.cases holds with old | ⟨-, -, path, limiter⟩
      · exact Or.inl (.held old serial)
      · exact Or.inr ⟨path, limiter⟩

/-- A step of a call for another path leaves what corresponds for the path as it is: the limiter
that it uses is linked to none. -/
theorem Braid.stray (braid : Braid path c c' link p q) {other : String}
    (touches : p.Touches r ticket other number)
    (settles : c.Settles d ticket (p.Signed other number))
    (uses : p.Uses c other number ∨ number = p.limiters.length ∧ number < r.limiters.length)
    (foreign : other ≠ path)
    (held : ∀ {g g'}, d.held ticket = some g → c'.held ticket = some g' → c.held ticket = some g)
    (waiting : r.waiting.filter (·.path = path) = p.waiting.filter (·.path = path)) :
    Braid path d c' link r q := by
  have inside {a b : Nat} (linked : link a b) : a < p.limiters.length := by
    obtain ⟨l, found, -⟩ := braid.same linked
    exact (List.getElem?_eq_some_iff.1 found).1
  -- A linked limiter is used by the path alone, and a new one by nobody.
  have unlinked {a b : Nat} (linked : link a b) : a ≠ number := by
    rintro rfl
    rcases uses with uses | ⟨new, -⟩
    · exact foreign (braid.apart uses linked)
    · exact absurd (inside linked) (by omega)
  refine ⟨fun {a b} linked => ?_, braid.paired, fun {x a} used => ?_, fun {x a b} used linked => ?_,
    ?_, waiting ▸ braid.waiting, fun {k g g'} holds serial holds' serial' => ?_⟩
  · obtain ⟨l, found, found'⟩ := braid.same linked
    exact ⟨l, (touches.limiters (unlinked linked) (inside linked)).trans found, found'⟩
  · rcases touches.uses settles used with old | ⟨-, rfl⟩
    · exact Nat.lt_of_lt_of_le (braid.within old) touches.length
    · rcases uses with old | ⟨-, new⟩
      · exact Nat.lt_of_lt_of_le (braid.within old) touches.length
      · exact new
  · rcases touches.uses settles used with old | ⟨-, rfl⟩
    · exact braid.apart old linked
    · exact absurd rfl (unlinked linked)
  · rw [touches.installed foreign.symm]
    exact braid.installed
  · have serial := serial.trans (serial_eq_of_bare touches.bare)
    rcases settles.cases holds with old | ⟨rfl, -⟩
    · exact braid.held old serial holds' serial'
    · exact braid.held (held holds holds') serial holds' serial'

/-- After a step of a call for a path, every request that waits came for the pattern of the pool and
its own path. -/
theorem Kin.waits_touches (kin : Kin pair c c' p q) (touches : p.Touches r ticket path number)
    (arrived : c.came ticket = some (p.pattern, path)) {w : Waiter} (member : w ∈ r.waiting) :
    c.came w.ticket = some (r.pattern, w.path) := by
  rw [pattern_eq_of_bare touches.bare]
  rcases touches.waiting member with old | ⟨same, path, -⟩
  · exact kin.waits old
  · rw [same, path, arrived]

/-- After a step of a call for a path, every guard of the pool is held by a call that came for its
pattern and path. -/
theorem Kin.guards_touches (kin : Kin pair c c' p q) (touches : p.Touches r ticket path number)
    (arrived : c.came ticket = some (p.pattern, path))
    (settles : c.Settles d ticket (p.Signed path number)) {k : Nat} {g : Guard}
    (holds : d.held k = some g) (serial : g.serial = r.serial) :
    c.came k = some (r.pattern, g.path) := by
  rw [pattern_eq_of_bare touches.bare]
  rcases settles.cases holds with old | ⟨rfl, -, path, -⟩
  · exact kin.guards old (serial.trans (serial_eq_of_bare touches.bare))
  · rw [path, arrived]

/-- A step of a call for another path leaves the calls for the one path as they are. -/
theorem Kin.stray (kin : Kin pair c c' p q) (touches : p.Touches r ticket path number)
    (arrived : c.came ticket = some (p.pattern, path))
    (settles : c.Settles d ticket (p.Signed path number))
    (uses : p.Uses c path number ∨ number = p.limiters.length ∧ number < r.limiters.length)
    (foreign : (p.pattern, path) ≠ pair)
    (held : ∀ {g g'}, d.held ticket = some g → c'.held ticket = some g' → c.held ticket = some g) :
    Kin pair d c' r q where
  bare := kin.bare.trans touches.bare.symm
  stocked := kin.stocked.of_bare touches.bare
  waits := by
    rw [settles.came]
    exact kin.waits_touches touches arrived
  guards := by
    rw [settles.came]
    exact kin.guards_touches touches arrived settles
  elsewhere := fun different =>
    kin.elsewhere fun same => different ((pattern_eq_of_bare touches.bare).trans same)
  braid := fun same => by
    have here : p.pattern = pair.1 := (pattern_eq_of_bare touches.bare).symm.trans same
    have other : path ≠ pair.2 := fun same => foreign (Prod.ext here same)
    obtain ⟨link, braid⟩ := kin.braid here
    refine ⟨link, braid.stray touches settles uses other held ?_⟩
    -- A request that waits for the one path is none of this call.
    have apart {w : Waiter} (member : w ∈ r.waiting ∨ w ∈ p.waiting) (own : w.path = pair.2) :
        w.ticket ≠ ticket := by
      intro same
      have old : w ∈ p.waiting := by
        rcases member with new | old
        · refine (touches.waiting new).resolve_right fun mine => other ?_
          rw [← mine.2.1, own]
        · exact old
      have twice : some (p.pattern, path) = some (p.pattern, w.path) := by
        rw [← arrived, ← same]
        exact kin.waits old
      exact other ((Prod.mk.inj (Option.some.inj twice)).2.trans own)
    have through {x : Pool} (known : ∀ w ∈ x.waiting, w ∈ r.waiting ∨ w ∈ p.waiting) :
        x.waiting.filter (·.path = pair.2) =
          (x.waiting.filter (·.ticket ≠ ticket)).filter (·.path = pair.2) := by
      rw [List.filter_filter]
      refine List.filter_congr fun w member => ?_
      by_cases own : w.path = pair.2
      · simp [own, apart (known w member) own]
      · simp [own]
    rw [through fun w member => Or.inl member, touches.others,
      ← through fun w member => Or.inr member]

/-! ### A call for the path -/

theorem Twins.weaken {w v : Waiter} (twins : Twins link w v) :
    Twins (fun x y => link x y ∨ x = number ∧ y = number') w v :=
  ⟨twins.ticket, twins.path, twins.client, Or.inl twins.limiter⟩

/-- Two pools take the same step of a call for a path, each with a limiter of its own. These are
linked, or both are new, and they are in the same state afterwards. -/
structure Abreast (link : Nat → Nat → Prop) (c c' d d' : Calls) (p q r s : Pool) (ticket : Nat)
    (path : String) (number number' : Nat) : Prop where
  touches : p.Touches r ticket path number
  touches' : q.Touches s ticket path number'
  settles : c.Settles d ticket (p.Signed path number)
  settles' : c'.Settles d' ticket (q.Signed path number')
  linked : link number number' ∨ number = p.limiters.length ∧ number' = q.limiters.length
  limiter : ∃ l, r.limiters[number]? = some l ∧ s.limiters[number']? = some l
  installed : r.installed.get? path = p.installed.get? path ∧
      s.installed.get? path = q.installed.get? path ∨
    r.installed.get? path = some number ∧ s.installed.get? path = some number'
  waiting : List.Forall₂ (Twins fun a b => link a b ∨ a = number ∧ b = number')
    (r.waiting.filter (·.path = path)) s.waiting
  held : ∀ {g g'}, d.held ticket = some g → d'.held ticket = some g' →
    c.held ticket = some g ∧ c'.held ticket = some g' ∨ g.limiter = number ∧ g'.limiter = number'

/-- After a step that both pools take, all that is known of the path corresponds again. -/
theorem Braid.turn (braid : Braid path c c' link p q)
    (abreast : Abreast link c c' d d' p q r s ticket path number number') :
    Braid path d d' (fun a b => link a b ∨ a = number ∧ b = number') r s := by
  obtain ⟨touches, touches', settles, settles', linked, ⟨l, found, found'⟩, installed, waiting,
    held⟩ := abreast
  have inside {a b : Nat} (linked : link a b) : a < p.limiters.length ∧ b < q.limiters.length := by
    obtain ⟨l, found, found'⟩ := braid.same linked
    exact ⟨(List.getElem?_eq_some_iff.1 found).1, (List.getElem?_eq_some_iff.1 found').1⟩
  -- The two limiters are linked with each other or new at both pools; no other link meets either.
  have meets {a b : Nat} (other : link a b) : a = number ↔ b = number' := by
    rcases linked with linked | ⟨rfl, rfl⟩
    · exact braid.paired other linked
    · have := inside other
      omega
  refine ⟨fun {a b} either => ?_, fun {a b x y} first second => ?_, fun {x a} used => ?_,
    fun {x a b} used either => ?_, ?_, waiting, fun {k g g'} holds serial holds' serial' => ?_⟩
  · rcases either with old | ⟨rfl, rfl⟩
    · by_cases same : a = number
      · obtain rfl := same
        obtain rfl := (meets old).1 rfl
        exact ⟨l, found, found'⟩
      · obtain ⟨m, known, known'⟩ := braid.same old
        have other : b ≠ number' := fun equal => same ((meets old).2 equal)
        exact ⟨m, (touches.limiters same (inside old).1).trans known,
          (touches'.limiters other (inside old).2).trans known'⟩
    · exact ⟨l, found, found'⟩
  · rcases first with old | ⟨rfl, rfl⟩ <;> rcases second with old' | ⟨rfl, rfl⟩
    · exact braid.paired old old'
    · exact meets old
    · rw [eq_comm, meets old', eq_comm]
    · exact iff_of_true rfl rfl
  · rcases touches.uses settles used with old | ⟨-, rfl⟩
    · exact Nat.lt_of_lt_of_le (braid.within old) touches.length
    · exact (List.getElem?_eq_some_iff.1 found).1
  · rcases touches.uses settles used with old | ⟨same, -⟩
    · rcases either with either | ⟨rfl, rfl⟩
      · exact braid.apart old either
      · rcases linked with linked | ⟨new, -⟩
        · exact braid.apart old linked
        · exact absurd (braid.within old) (by omega)
    · exact same
  · rcases installed with ⟨same, same'⟩ | ⟨new, new'⟩
    · rw [same, same']
      rcases none_or_some_of_rel braid.installed with ⟨none, none'⟩ | ⟨a, b, known, known', old⟩
      · rw [none, none']
        exact .none
      · rw [known, known']
        exact .some (Or.inl old)
    · rw [new, new']
      exact .some (Or.inr ⟨rfl, rfl⟩)
  · have serial := serial.trans (serial_eq_of_bare touches.bare)
    have serial' := serial'.trans (serial_eq_of_bare touches'.bare)
    by_cases own : k = ticket
    · subst own
      rcases held holds holds' with ⟨old, old'⟩ | new
      · exact Or.inl (braid.held old serial old' serial')
      · exact Or.inr new
    · have old := (settles.cases holds).resolve_right fun mine => own mine.1
      have old' := (settles'.cases holds').resolve_right fun mine => own mine.1
      exact Or.inl (braid.held old serial old' serial')

/-- Two kin pools are kin after they have taken the same step of a call for the path. -/
theorem Kin.turn (kin : Kin pair c c' p q) (here : p.pattern = pair.1)
    (arrived : c.came ticket = some pair) (braid : Braid pair.2 c c' link p q)
    (abreast : Abreast link c c' d d' p q r s ticket pair.2 number number') :
    Kin pair d d' r s where
  bare := abreast.touches'.bare.trans (kin.bare.trans abreast.touches.bare.symm)
  stocked := kin.stocked.of_bare abreast.touches.bare
  waits := by
    rw [abreast.settles.came]
    exact kin.waits_touches abreast.touches (here ▸ arrived)
  guards := by
    rw [abreast.settles.came]
    exact kin.guards_touches abreast.touches (here ▸ arrived) abreast.settles
  elsewhere := fun different =>
    absurd ((pattern_eq_of_bare abreast.touches.bare).trans here) different
  braid := fun _ => ⟨_, braid.turn abreast⟩

/-! ### What is done to both pools -/

/-- A limiter that another path is given at the second pool plays no part. -/
theorem Braid.installLimiter_right (braid : Braid path c c' link p q) {other : String}
    (foreign : other ≠ path) (limiter : Limiter) :
    Braid path c c' link p (q.installLimiter other limiter) :=
  { braid with
    same := fun {a b} linked => by
      obtain ⟨l, found, found'⟩ := braid.same linked
      have inside := (List.getElem?_eq_some_iff.1 found').1
      exact ⟨l, found, (List.getElem?_append_left inside).trans found'⟩
    installed := by
      rw [installLimiter, Dict.get?_insert, if_neg foreign]
      exact braid.installed }

/-- A limiter that is installed at both pools keeps what corresponds: it is linked to its copy if it
is one for the path. -/
theorem Braid.installLimiter (braid : Braid path c c' link p q) (other : String)
    (limiter : Limiter) :
    ∃ link, Braid path c c' link (p.installLimiter other limiter)
      (q.installLimiter other limiter) := by
  have last {x : Pool} :
      (x.installLimiter other limiter).limiters[x.limiters.length]? = some limiter :=
    List.getElem?_concat_length
  have here {x : Pool} :
      (x.installLimiter other limiter).installed.get? other = some x.limiters.length := by
    rw [Pool.installLimiter, Dict.get?_insert, if_pos rfl]
  by_cases own : other = path
  · subst own
    exact ⟨_, braid.turn {
      touches := p.touches_installLimiter other limiter 0
      touches' := q.touches_installLimiter other limiter 0
      settles := c.settles_refl 0 _
      settles' := c'.settles_refl 0 _
      linked := Or.inr ⟨rfl, rfl⟩
      limiter := ⟨limiter, last, last⟩
      installed := Or.inr ⟨here, here⟩
      waiting := braid.waiting.imp fun _ _ twins => twins.weaken
      held := fun holds holds' => Or.inl ⟨holds, holds'⟩ }⟩
  · refine ⟨link, Braid.installLimiter_right ?_ own limiter⟩
    exact braid.stray (p.touches_installLimiter other limiter 0) (c.settles_refl 0 _)
      (Or.inr ⟨rfl, (List.getElem?_eq_some_iff.1 last).1⟩) own (fun holds _ => holds) rfl

/-- Kin pools are kin after the same limiter is installed at both of them. -/
theorem Kin.installLimiter (kin : Kin pair c c' p q) (other : String) (limiter : Limiter) :
    Kin pair c c' (p.installLimiter other limiter) (q.installLimiter other limiter) where
  bare := kin.bare
  stocked := kin.stocked
  waits := kin.waits
  guards := kin.guards
  elsewhere := kin.elsewhere
  braid := fun here => by
    obtain ⟨link, braid⟩ := kin.braid here
    exact braid.installLimiter other limiter

/-- Kin pools are kin after something has happened at both of them that is no step of a request. -/
theorem Kin.aside (kin : Kin pair c c' p q) (aside : p.Aside r) (aside' : q.Aside s)
    (bare : s.bare = r.bare) (stocked : r.Stocked) : Kin pair c c' r s := by
  have braid (here : p.pattern = pair.1) : ∃ link, Braid pair.2 c c' link r s :=
    (kin.braid here).imp fun _ braid => braid.aside aside aside'
  obtain ⟨hosts, balancer, checks, shutDown, rfl⟩ := aside
  obtain ⟨hosts', balancer', checks', shutDown', rfl⟩ := aside'
  exact ⟨bare, stocked, kin.waits, kin.guards, kin.elsewhere, braid⟩

/-- A new pool is as it is without other calls, since there have been none at it. -/
theorem kin_of_build {serial base : Nat} {settings : PoolSettings} {l : Location}
    (early : ∀ {k g}, c.held k = some g → g.serial < base) (late : base ≤ serial)
    (built : build serial settings l = .ok p) : Kin pair c c' p p := by
  have stocked := stocked_of_build built
  obtain ⟨fresh, aside, number, -, limiters, installed, waiting⟩ := aside_of_build built
  have new {k : Nat} {g : Guard} (holds : c.held k = some g) : g.serial ≠ p.serial := by
    have before := early holds
    rw [aside.goesOn.serial, number]
    omega
  obtain ⟨hosts, balancer, checks, shutDown, rfl⟩ := aside
  have unused {other : String} {a : Nat}
      (uses : ({ fresh with hosts, balancer, checks, shutDown } : Pool).Uses c other a) :
      False := by
    cases uses with
    | installed found =>
        change fresh.installed.get? other = some a at found
        rw [installed] at found
        exact absurd found (by simp)
    | waiting member =>
        change _ ∈ fresh.waiting at member
        rw [waiting] at member
        exact absurd member List.not_mem_nil
    | held holds serial => exact new holds serial
  refine ⟨rfl, stocked, fun {w} member => ?_, fun holds serial => absurd serial (new holds),
    fun _ => waiting, fun _ => ⟨fun _ _ => False, False.elim, False.elim, fun uses =>
      (unused uses).elim, fun uses => (unused uses).elim, ?_, ?_, fun holds serial =>
      absurd serial (new holds)⟩⟩
  · exact (unused (.waiting member)).elim
  · change Option.Rel _ (fresh.installed.get? pair.2) (fresh.installed.get? pair.2)
    rw [installed]
    exact .none
  · change List.Forall₂ _ (fresh.waiting.filter _) fresh.waiting
    rw [waiting]
    exact .nil

/-- Whatever is done to both pools other than for a request, the calls for the path fare alike. -/
theorem lasting_kin {base : Nat} (pair : String × String) (c' : Calls)
    (early : ∀ {k g}, c.held k = some g → g.serial < base) : Lasting (Kin pair c c') base where
  bare := Kin.bare
  stocked := Kin.stocked
  aside := Kin.aside
  install := Kin.installLimiter
  build := fun built late => kin_of_build early late built

end Pool

end ClusterGateway
