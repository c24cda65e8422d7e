import ClusterGateway.Proofs.Limit.Reading
import ClusterGateway.Proofs.Pool.Permits

/-! # The limits of a pool

A pool is governed by settings if it enforces each on its path and lets every request in on all
other paths. Only a new setting changes that. Requests use the limiters that are there, and where
there is none they install the one that lets every request in; so a request is refused for want of a
permit, or waits for one, only on a path that has a setting.
-/

namespace ClusterGateway

namespace Pool

variable {p q r : Pool} {path : String} {number ticket instant : Nat} {l m : Limiter}

/-- The limiter of a path is the one that is listed under the number installed there. -/
theorem limiter?_eq_some :
    p.limiter? path = some l ↔
      ∃ number, p.installed.get? path = some number ∧ p.limiters[number]? = some l :=
  Option.bind_eq_some_iff

/-! ### Steps that replace no limiter -/

/-- A pool goes on with the limiters of another one: none is replaced or reads otherwise, and where
one is added it lets every request in. -/
structure Upholds (p q : Pool) : Prop where
  serial : q.serial = p.serial
  pattern : q.pattern = p.pattern
  limiters : ∀ {number : Nat} {l : Limiter}, p.limiters[number]? = some l →
    ∃ m, q.limiters[number]? = some m ∧ m.reading = l.reading
  installed : ∀ {path number}, p.installed.get? path = some number →
    q.installed.get? path = some number
  added : ∀ {path number}, q.installed.get? path = some number → p.installed.get? path = none →
    q.limiters[number]? = some .unlimited

/-- A pool with the same limiters, installed at the same paths, goes on with them. -/
theorem Upholds.of_same (serial : q.serial = p.serial) (pattern : q.pattern = p.pattern)
    (limiters : q.limiters = p.limiters) (installed : q.installed = p.installed) :
    p.Upholds q :=
  ⟨serial, pattern, fun {_ l} found => ⟨l, limiters ▸ found, rfl⟩,
    fun found => installed ▸ found,
    fun found absent => absurd ((installed ▸ found).symm.trans absent) (by simp)⟩

theorem Upholds.refl (p : Pool) : p.Upholds p := .of_same rfl rfl rfl rfl

/-- A pool that goes on with the limiters of another one hands them on. -/
theorem Upholds.trans (first : p.Upholds q) (second : q.Upholds r) : p.Upholds r := by
  refine ⟨second.serial.trans first.serial, second.pattern.trans first.pattern,
    fun {number l} found => ?_, second.installed ∘ first.installed, fun {path number} found absent =>
      ?_⟩
  · obtain ⟨m, there, early⟩ := first.limiters found
    obtain ⟨n, present, late⟩ := second.limiters there
    exact ⟨n, present, late.trans early⟩
  · cases between : q.installed.get? path with
    | none => exact second.added found between
    | some k =>
        obtain rfl := Option.some.inj ((second.installed between).symm.trans found)
        obtain ⟨m, there, reading⟩ := second.limiters (first.added between absent)
        rwa [Limiter.reading_eq_unlimited.1 reading] at there

theorem Aside.upholds (aside : p.Aside q) : p.Upholds q := by
  obtain ⟨_, _, _, _, rfl⟩ := aside
  exact .of_same rfl rfl rfl rfl

/-- The limiter of a path stays in its place. -/
theorem Upholds.limiter? (upholds : p.Upholds q) (found : p.limiter? path = some l) :
    ∃ m, q.limiter? path = some m ∧ m.reading = l.reading := by
  obtain ⟨number, here, known⟩ := limiter?_eq_some.1 found
  obtain ⟨m, there, reading⟩ := upholds.limiters known
  exact ⟨m, limiter?_eq_some.2 ⟨number, upholds.installed here, there⟩, reading⟩

/-- A limiter may be put in the place of one that reads the same. -/
theorem upholds_putLimiter (known : p.limiters[number]? = some l) (same : m.reading = l.reading) :
    p.Upholds (p.putLimiter number m) := by
  have inside : number < p.limiters.length := (List.getElem?_eq_some_iff.1 known).1
  refine ⟨rfl, rfl, fun {k n} found => ?_, id, fun found absent => ?_⟩
  · rw [putLimiter, List.getElem?_set]
    by_cases here : number = k
    · subst here
      obtain rfl := Option.some.inj (known.symm.trans found)
      exact ⟨m, by rw [if_pos rfl, if_pos inside], same⟩
    · exact ⟨n, by rw [if_neg here, found], rfl⟩
  · exact absurd (found.symm.trans absent) (by simp)

/-- A path without a limiter gets one that lets every request in. -/
theorem upholds_install (absent : p.installed.get? path = none) :
    p.Upholds (p.installLimiter path .unlimited) := by
  refine ⟨rfl, rfl, fun {k n} found => ⟨n, ?_, rfl⟩, fun {other k} found => ?_,
    fun {other k} found missing => ?_⟩
  · rw [installLimiter, List.getElem?_append_left (List.getElem?_eq_some_iff.1 found).1]
    exact found
  · rw [installLimiter, Dict.get?_insert]
    by_cases same : path = other
    · subst same
      exact absurd (found.symm.trans absent) (by simp)
    · rw [if_neg same]
      exact found
  · rw [installLimiter, Dict.get?_insert] at found
    by_cases same : path = other
    · rw [if_pos same] at found
      obtain rfl := Option.some.inj found
      exact List.getElem?_concat_length
    · rw [if_neg same] at found
      exact absurd (found.symm.trans missing) (by simp)

/-- A path that is given a limiter had none before. -/
theorem provision_spec (provided : p.provision path = .ok q) :
    p.installed.get? path = none ∧ q = p.installLimiter path .unlimited := by
  rw [provision] at provided
  split at provided
  · exact absurd provided (by simp)
  · next absent =>
      rw [Dict.contains, Bool.not_eq_true, Option.isSome_eq_false_iff,
        Option.isNone_iff_eq_none] at absent
      exact ⟨absent, (Except.ok.inj provided).symm⟩

/-- Looking a limiter up replaces none: a path without one gets one that lets everything through. -/
theorem upholds_limiterFor (p : Pool) (path : String) : p.Upholds (p.limiterFor path).2 := by
  rw [limiterFor]
  split
  · exact .refl p
  · next absent => exact upholds_install absent

/-- Giving a permit back replaces no limiter. -/
theorem upholds_giveBack (p : Pool) (number : Nat) : p.Upholds (p.giveBack number).2 := by
  rw [giveBack]
  split
  · exact .refl p
  · next l known => exact upholds_putLimiter known l.reading_release

/-! ### Turns of requests -/

/-- Choosing a host changes at most whose turn it is. -/
theorem aside_choose (p : Pool) (client : String) : p.Aside (p.choose client).2 := by
  rw [choose]
  split
  · exact .refl p
  · exact ⟨_, _, _, _, rfl⟩

/-- Serving a request replaces no limiter. -/
theorem upholds_serve (p : Pool) (path client : String) (number : Nat) :
    p.Upholds (p.serve path client number).2 := by
  have upholds := (p.aside_choose client).upholds
  rw [serve]
  generalize p.choose client = chosen at *
  obtain ⟨host, q⟩ := chosen
  cases host with
  | some found => exact upholds
  | none => exact upholds.trans (q.upholds_giveBack number)

/-- Serving a request leaves the queue alone. -/
theorem waiting_serve (p : Pool) (path client : String) (number : Nat) :
    (p.serve path client number).2.waiting = p.waiting := by
  have waiting := (p.aside_choose client).goesOn.waiting
  rw [serve]
  generalize p.choose client = chosen at *
  obtain ⟨host, q⟩ := chosen
  cases host with
  | some found => exact waiting
  | none => exact (q.waiting_giveBack number).trans waiting

/-- A request that comes replaces no limiter. -/
theorem upholds_acquire (p : Pool) (ticket : Nat) (path client : String) (instant : Nat) :
    p.Upholds (p.acquire ticket path client instant).2 := by
  have limiter := p.upholds_limiterFor path
  cases limited : p.limiterFor path with
  | mk number r =>
      rw [limited] at limiter
      rcases acquire_spec limited ticket client instant with
        whole | ⟨l, after, known, ⟨entered, whole⟩ | ⟨tried, whole⟩⟩ <;> rw [whole]
      · exact limiter
      · have reading : after.reading = l.reading := by
          rcases entered with took | tried
          · exact Limiter.reading_of_take? took
          · exact Limiter.reading_of_attempt tried
        exact (limiter.trans (upholds_putLimiter known reading)).trans (upholds_serve _ _ _ _)
      · have put := upholds_putLimiter known (Limiter.reading_of_attempt tried)
        exact (limiter.trans put).trans (.of_same rfl rfl rfl rfl)

theorem upholds_dismiss (p : Pool) (ticket : Nat) : p.Upholds (p.dismiss ticket) :=
  .of_same rfl rfl rfl rfl

/-- Who still waits after another one has left waited before. -/
theorem mem_dismiss {w : Waiter} (member : w ∈ (p.dismiss ticket).waiting) : w ∈ p.waiting :=
  List.mem_of_mem_filter member

/-- A request that looks again changes no limit, nobody starts to wait, and it is not refused for
want of a permit. -/
theorem upholds_look {turn : Turn} (looked : p.look ticket instant = some (turn, q)) :
    p.Upholds q ∧ (∀ w ∈ q.waiting, w ∈ p.waiting) ∧
      ∀ error, turn.admission = .refused error → error = .noHost p.pattern := by
  obtain ⟨w, l, after, -, known, ⟨tried, whole⟩ | ⟨tried, rfl, rfl⟩⟩ := look_spec looked
  · have put := upholds_putLimiter known (Limiter.reading_of_attempt tried)
    have served := upholds_serve ((p.putLimiter w.limiter after).dismiss ticket) w.path w.client
      w.limiter
    have waiting := waiting_serve ((p.putLimiter w.limiter after).dismiss ticket) w.path w.client
      w.limiter
    have refused := @serve_refused ((p.putLimiter w.limiter after).dismiss ticket) w.path w.client
      w.limiter
    rw [whole] at served waiting refused
    refine ⟨(put.trans (upholds_dismiss _ ticket)).trans served, fun v member => ?_, @refused⟩
    rw [waiting] at member
    exact mem_dismiss member
  · exact ⟨upholds_putLimiter known (Limiter.reading_of_attempt tried), fun _ => id,
      fun _ refused => absurd refused (by simp)⟩

/-- A request whose time is over changes no limit, and is refused on the path on which it waited. -/
theorem upholds_expire {turn : Turn} (expired : p.expire ticket = some (turn, q)) :
    p.Upholds q ∧ (∀ w ∈ q.waiting, w ∈ p.waiting) ∧
      ∃ w ∈ p.waiting, w.ticket = ticket ∧ turn.admission = .refused (p.throttled w.path) := by
  obtain ⟨w, l, waits, known, rfl, rfl⟩ := expire_spec expired
  have put := upholds_putLimiter known (l.reading_abandon ticket)
  obtain ⟨member, same⟩ := mem_waiting_of_waiter waits
  exact ⟨put.trans (upholds_dismiss _ ticket),
    fun v present => mem_dismiss (p := p.putLimiter _ _) present, w, member, same, rfl⟩

/-! ### Settings -/

/-- A pool enforces these settings and limits nothing else. Each request that waits does so for a
limit of the terms on which it came. -/
structure Governed (settings : List LimiterSetting) (terms : Nat → List LimiterSetting)
    (p : Pool) : Prop where
  known : ∀ {path number}, p.installed.get? path = some number →
    ∃ l, p.limiters[number]? = some l
  patterns : ∀ s ∈ settings, s.pattern = p.pattern
  recorded : ∀ s ∈ settings, ∃ l, p.limiter? s.path = some l ∧ l.Enforces s
  others : ∀ {path l}, p.limiter? path = some l → (∀ s ∈ settings, s.path ≠ path) →
    l = .unlimited
  waiting : ∀ w ∈ p.waiting, ∃ s ∈ terms w.ticket, s.pattern = p.pattern ∧ s.path = w.path

variable {settings : List LimiterSetting} {terms : Nat → List LimiterSetting}

/-- What upholds the limiters of a pool is governed by the same settings. -/
theorem Governed.uphold (governed : p.Governed settings terms) (upholds : p.Upholds q)
    (waiting : ∀ w ∈ q.waiting, ∃ s ∈ terms w.ticket, s.pattern = p.pattern ∧ s.path = w.path) :
    q.Governed settings terms := by
  refine ⟨fun {path number} found => ?_,
    fun s member => (governed.patterns s member).trans upholds.pattern.symm,
    fun s member => ?_, fun {path m} found free => ?_,
    fun w member => upholds.pattern ▸ waiting w member⟩
  · cases before : p.installed.get? path with
    | none => exact ⟨_, upholds.added found before⟩
    | some k =>
        obtain rfl := Option.some.inj ((upholds.installed before).symm.trans found)
        obtain ⟨l, known⟩ := governed.known before
        obtain ⟨m, there, -⟩ := upholds.limiters known
        exact ⟨m, there⟩
  · obtain ⟨l, found, enforces⟩ := governed.recorded s member
    obtain ⟨m, there, reading⟩ := upholds.limiter? found
    exact ⟨m, there, enforces.of_reading reading⟩
  · obtain ⟨number, here, there⟩ := limiter?_eq_some.1 found
    cases before : p.installed.get? path with
    | none => exact Option.some.inj (there.symm.trans (upholds.added here before))
    | some k =>
        obtain ⟨l, known⟩ := governed.known before
        have old : p.limiter? path = some l := limiter?_eq_some.2 ⟨k, before, known⟩
        obtain ⟨n, kept, reading⟩ := upholds.limiter? old
        obtain rfl := Option.some.inj (kept.symm.trans found)
        exact Limiter.reading_eq_unlimited.1 (governed.others old free ▸ reading)

/-- A step in which nobody starts to wait. -/
theorem Governed.step (governed : p.Governed settings terms) (upholds : p.Upholds q)
    (waiting : ∀ w ∈ q.waiting, w ∈ p.waiting) : q.Governed settings terms :=
  governed.uphold upholds fun w member => governed.waiting w (waiting w member)

/-- A pool that differs only in its hosts enforces the same settings. -/
theorem Governed.aside (governed : p.Governed settings terms) (aside : p.Aside q) :
    q.Governed settings terms :=
  governed.step aside.upholds fun _ member => aside.goesOn.waiting ▸ member

/-- A pool that is built has no limits. -/
theorem governed_of_build {serial : Nat} {poolSettings : PoolSettings} {k : Location}
    (built : build serial poolSettings k = .ok p) (terms : Nat → List LimiterSetting) :
    p.Governed [] terms := by
  obtain ⟨bare, aside, -, -, -, installed, waiting⟩ := aside_of_build built
  have nothing : bare.Governed [] terms :=
    { known := fun found => absurd found (by simp [installed])
      patterns := fun s member => absurd member List.not_mem_nil
      recorded := fun s member => absurd member List.not_mem_nil
      others := fun found => absurd found (by simp [limiter?, installed])
      waiting := fun w member => absurd (waiting ▸ member) List.not_mem_nil }
  exact nothing.aside aside

/-- Installing a limiter changes the limiter of its path and of no other one. -/
theorem limiter?_installLimiter (p : Pool) (path other : String) (l : Limiter)
    (known : ∀ {number}, p.installed.get? other = some number → ∃ l, p.limiters[number]? = some l) :
    (p.installLimiter path l).limiter? other =
      if path = other then some l else p.limiter? other := by
  rw [limiter?, limiter?, installLimiter, Dict.get?_insert]
  by_cases same : path = other
  · rw [if_pos same, if_pos same]
    exact List.getElem?_concat_length
  · rw [if_neg same, if_neg same]
    cases found : p.installed.get? other with
    | none => rfl
    | some number =>
        obtain ⟨l, there⟩ := known found
        exact List.getElem?_append_left (List.getElem?_eq_some_iff.1 there).1

/-- A new setting takes the place of the one for its path. -/
theorem Governed.installLimiter (governed : p.Governed settings terms) {s : LimiterSetting}
    (pattern : s.pattern = p.pattern) (enforces : l.Enforces s) :
    (p.installLimiter s.path l).Governed (settings.filter (·.path ≠ s.path) ++ [s]) terms := by
  have limiter (path : String) := p.limiter?_installLimiter s.path path l governed.known
  refine ⟨fun {path number} found => ?_, fun k member => ?_, fun k member => ?_,
    fun {path m} found free => ?_, governed.waiting⟩
  · change (p.installed.insert s.path p.limiters.length).get? path = some number at found
    change ∃ m, (p.limiters ++ [l])[number]? = some m
    rw [Dict.get?_insert] at found
    -- The new limiter has the next number, and the others keep theirs.
    by_cases same : s.path = path
    · rw [if_pos same] at found
      exact ⟨l, Option.some.inj found ▸ List.getElem?_concat_length⟩
    · rw [if_neg same] at found
      obtain ⟨m, there⟩ := governed.known found
      exact ⟨m, by rw [List.getElem?_append_left (List.getElem?_eq_some_iff.1 there).1, there]⟩
  · rcases List.mem_append.1 member with old | new
    · exact governed.patterns k (List.mem_of_mem_filter old)
    · exact List.mem_singleton.1 new ▸ pattern
  · rw [limiter]
    rcases List.mem_append.1 member with old | new
    · obtain ⟨old, other⟩ := List.mem_filter.1 old
      rw [if_neg (Ne.symm (of_decide_eq_true other))]
      exact governed.recorded k old
    · obtain rfl := List.mem_singleton.1 new
      exact ⟨l, if_pos rfl, enforces⟩
  · have other : s.path ≠ path := free s (by simp)
    rw [limiter, if_neg other] at found
    refine governed.others found fun k member same => free k ?_ same
    exact List.mem_append_left _ (List.mem_filter.2 ⟨member, by simpa [same] using other.symm⟩)

/-! ### What a setting is needed for -/

/-- A request for a path without a setting gets its permit at once. -/
theorem Governed.acquire_free (governed : p.Governed settings terms)
    (free : ∀ s ∈ settings, s.path ≠ path) (ticket : Nat) (client : String) (instant : Nat) :
    ∃ (r : Pool) (number : Nat), r.waiting = p.waiting ∧
      p.acquire ticket path client instant = r.serve path client number := by
  have unlimited : (p.limiterFor path).2.limiters[(p.limiterFor path).1]? = some .unlimited := by
    rw [limiterFor]
    cases here : p.installed.get? path with
    | none => exact List.getElem?_concat_length
    | some number =>
        obtain ⟨l, known⟩ := governed.known here
        obtain rfl := governed.others (limiter?_eq_some.2 ⟨number, here, known⟩) free
        exact known
  refine ⟨(p.limiterFor path).2.putLimiter (p.limiterFor path).1 .unlimited, (p.limiterFor path).1,
    (p.goesOn_limiterFor path).waiting, ?_⟩
  rw [acquire]
  dsimp only
  rw [unlimited]
  dsimp only
  rw [if_pos (show Limiter.unlimited.timeout = 0 from rfl), Limiter.take?_unlimited]

/-- A request is refused for want of a permit only on a path that has a setting. -/
theorem Governed.throttled (governed : p.Governed settings terms) {client pattern rest : String}
    (refused : (p.acquire ticket path client instant).1.admission =
      .refused (.throttled pattern rest)) :
    ∃ s ∈ settings, s.pattern = pattern ∧ s.path = rest := by
  rcases acquire_refused refused with same | other
  · obtain ⟨rfl, rfl⟩ := DispatchError.throttled.inj same
    by_contra none
    have free : ∀ s ∈ settings, s.path ≠ rest := fun s member here =>
      none ⟨s, member, governed.patterns s member, here⟩
    obtain ⟨r, number, -, served⟩ := governed.acquire_free free ticket client instant
    rw [served] at refused
    exact absurd (serve_refused refused) (by simp)
  · exact absurd other (by simp)

/-- After a request came, who waits did so before or is that request. -/
theorem mem_waiting_acquire {client : String} {w : Waiter}
    (member : w ∈ (p.acquire ticket path client instant).2.waiting) :
    w ∈ p.waiting ∨ w.ticket = ticket ∧ w.path = path := by
  have waiting := (p.goesOn_limiterFor path).waiting
  cases limited : p.limiterFor path with
  | mk number r =>
      rw [limited] at waiting
      rcases acquire_spec limited ticket client instant with
        whole | ⟨l, after, -, ⟨-, whole⟩ | ⟨-, whole⟩⟩ <;> rw [whole] at member
      · exact Or.inl (waiting ▸ member)
      · rw [waiting_serve] at member
        exact Or.inl (waiting ▸ member)
      · rcases List.mem_append.1 member with old | new
        · exact Or.inl (waiting ▸ old)
        · obtain rfl := List.mem_singleton.1 new
          exact Or.inr ⟨rfl, rfl⟩

/-- A request comes on the terms of the settings, which are noted under its ticket. -/
theorem Governed.acquire (governed : p.Governed settings terms) (noted : terms ticket = settings)
    (path client : String) (instant : Nat) :
    (p.acquire ticket path client instant).2.Governed settings terms := by
  refine governed.uphold (p.upholds_acquire ticket path client instant) fun w member => ?_
  by_cases free : ∀ s ∈ settings, s.path ≠ path
  · obtain ⟨r, number, same, served⟩ := governed.acquire_free free ticket client instant
    rw [served, waiting_serve, same] at member
    exact governed.waiting w member
  · rcases mem_waiting_acquire member with old | ⟨rfl, rfl⟩
    · exact governed.waiting w old
    · push Not at free
      obtain ⟨s, present, here⟩ := free
      exact ⟨s, noted ▸ present, governed.patterns s present, here⟩

/-- Terms that are noted under a ticket that nobody at the pool has do not matter to it. -/
theorem Governed.note (governed : p.Governed settings terms) (fresh : ticket ∉ p.tickets)
    (agreed : List LimiterSetting) :
    p.Governed settings (Function.update terms ticket agreed) := by
  refine { governed with waiting := fun w member => ?_ }
  have other : w.ticket ≠ ticket := fun same => fresh (same ▸ List.mem_map_of_mem member)
  rw [Function.update_of_ne other]
  exact governed.waiting w member

end Pool

end ClusterGateway
