import ClusterGateway.Proofs.Balance.Presence
import Mathlib.Algebra.Order.Floor.Div
import Mathlib.Data.Int.CardIntervalMod

/-! # Fair turns

The hosts of a rotation stand in the order in which they joined it, a host that left and came back
at the end. While nobody joins or leaves, every host gets its share of the turns, rounded down or
up, and no host has a second turn before all others have had one. For this it does not matter how
many turns were taken before, and by whom, as long as the count of turns has not come round: it is a
64-bit word, and a number of hosts need not divide the number of words.
-/

namespace ClusterGateway.RoundRobin

/-- A call of a rotation. -/
inductive Call where
  | add (host : String)
  | remove (host : String)
  | balance
deriving DecidableEq

/-- The host that a call lets in or out. -/
def Call.host? : Call → Option String
  | add host | remove host => some host
  | balance => none

/-- What becomes of a rotation. Without hosts nobody has a turn, and it stays as it is. -/
def perform (r : RoundRobin) : Call → RoundRobin
  | .add host => r.add host
  | .remove host => r.remove host
  | .balance => (r.balance.map (·.2)).getD r

/-- A new rotation after some calls. -/
def ofCalls (calls : List Call) : RoundRobin := calls.foldl perform {}

/-- The answers to so many requests for a turn in a row. -/
def answers (r : RoundRobin) : Nat → List (Option String)
  | 0 => []
  | m + 1 => r.balance.map (·.1) :: (r.perform .balance).answers m

variable {r : RoundRobin} {calls : List Call} {host : String}

theorem ofCalls_concat (calls : List Call) (call : Call) :
    ofCalls (calls ++ [call]) = (ofCalls calls).perform call := List.foldl_concat _ _ _ _

/-- If there is a host, the one at the count of turns has its turn. -/
theorem balance_of_ne_nil (filled : r.hosts ≠ []) :
    ∃ host, r.hosts[r.turns.toNat % r.hosts.length]? = some host ∧
      r.balance = some (host, { r with turns := r.turns + 1 }) := by
  have inside : r.turns.toNat % r.hosts.length < r.hosts.length :=
    Nat.mod_lt _ (List.length_pos_of_ne_nil filled)
  have found := List.getElem?_eq_getElem inside
  exact ⟨_, found, by rw [balance, found]⟩

/-- Choosing a host changes no host. -/
theorem hosts_perform_balance (r : RoundRobin) : (r.perform .balance).hosts = r.hosts := by
  by_cases bare : r.hosts = []
  · rw [perform, balance_of_nil bare]
    rfl
  · obtain ⟨host, -, turn⟩ := balance_of_ne_nil bare
    rw [perform, turn]
    rfl

/-! ### The order of the hosts -/

/-- A host was added and not removed since. -/
def Stays (calls : List Call) (host : String) : Prop :=
  (calls.filter (·.host? = some host)).getLast? = some (.add host)

instance (calls : List Call) (host : String) : Decidable (Stays calls host) :=
  inferInstanceAs (Decidable (_ = _))

/-- A call with this number adds a host while it is away, and no later call does. -/
structure Joins (calls : List Call) (host : String) (i : Nat) : Prop where
  added : calls[i]? = some (.add host)
  away : host ∉ (ofCalls (calls.take i)).hosts
  last : ∀ j, i < j → calls[j]? = some (.add host) → host ∈ (ofCalls (calls.take j)).hosts

/-- A host joined last with one call only. -/
theorem Joins.unique {i j : Nat} (one : Joins calls host i) (other : Joins calls host j) :
    i = j := by
  rcases Nat.lt_trichotomy i j with less | same | less
  · exact absurd (one.last j less other.added) other.away
  · exact same
  · exact absurd (other.last i less one.added) one.away

/-- A call that lets a host join is one of the history. -/
theorem Joins.lt {i : Nat} (joins : Joins calls host i) : i < calls.length :=
  (List.getElem?_eq_some_iff.1 joins.added).1

/-- A host that was away joins with the call that adds it. -/
theorem joins_concat_self (away : host ∉ (ofCalls calls).hosts) :
    Joins (calls ++ [.add host]) host calls.length := by
  refine ⟨List.getElem?_concat_length, ?_, fun j later added => ?_⟩
  · rwa [List.take_left]
  · have inside := (List.getElem?_eq_some_iff.1 added).1
    rw [List.length_append, List.length_singleton] at inside
    omega

/-- Any other call leaves it as it is when a host joined last. -/
theorem Joins.concat {i : Nat} (joins : Joins calls host i) {call : Call}
    (other : call = .add host → host ∈ (ofCalls calls).hosts) : Joins (calls ++ [call]) host i := by
  have early := joins.lt
  refine ⟨?_, ?_, fun j later added => ?_⟩
  · rw [List.getElem?_append_left early, joins.added]
  · rw [List.take_append_of_le_length early.le]
    exact joins.away
  · by_cases old : j < calls.length
    · rw [List.getElem?_append_left old] at added
      rw [List.take_append_of_le_length old.le]
      exact joins.last j later added
    · obtain ⟨inside, here⟩ := List.getElem?_eq_some_iff.1 added
      rw [List.length_append, List.length_singleton] at inside
      obtain rfl : j = calls.length := by omega
      rw [List.take_left]
      exact other (by simpa using here)

/-- Hosts stand in the order in which they joined. -/
structure InOrder (calls : List Call) (hosts : List String) : Prop where
  joined : ∀ host ∈ hosts, ∃ i, Joins calls host i
  ascending : hosts.Pairwise fun a b => ∀ i j, Joins calls a i → Joins calls b j → i < j

/-- Hosts that are left stay in order. -/
theorem InOrder.left {hosts others : List String} {call : Call} (ordered : InOrder calls hosts)
    (sub : others.Sublist hosts) (quiet : ∀ host ∈ others, call = .add host →
      host ∈ (ofCalls calls).hosts) : InOrder (calls ++ [call]) others := by
  have joined (host : String) (member : host ∈ others) :
      ∃ i, Joins calls host i ∧ Joins (calls ++ [call]) host i := by
    obtain ⟨i, joins⟩ := ordered.joined host (sub.subset member)
    exact ⟨i, joins, joins.concat (quiet host member)⟩
  refine ⟨fun host member => ?_, ?_⟩
  · obtain ⟨i, -, joins⟩ := joined host member
    exact ⟨i, joins⟩
  · refine (ordered.ascending.sublist sub).imp_of_mem
      fun {a b} first second less i j one other => ?_
    obtain ⟨k, before, after⟩ := joined a first
    obtain ⟨l, before', after'⟩ := joined b second
    obtain rfl := one.unique after
    obtain rfl := other.unique after'
    exact less i j before before'

/-- A host that joins stands behind all others. -/
theorem InOrder.join {hosts : List String} (ordered : InOrder calls hosts)
    (known : ∀ other ∈ hosts, other ∈ (ofCalls calls).hosts)
    (away : host ∉ (ofCalls calls).hosts) : InOrder (calls ++ [.add host]) (hosts ++ [host]) := by
  have left : InOrder (calls ++ [.add host]) hosts :=
    ordered.left (List.Sublist.refl hosts) fun other member _ => known other member
  have joins := joins_concat_self away
  refine ⟨fun other member => ?_, List.pairwise_append.2 ⟨left.ascending,
    List.pairwise_singleton _ _, fun a first b second i j one other => ?_⟩⟩
  · rcases List.mem_append.1 member with old | new
    · exact left.joined other old
    · obtain rfl := List.mem_singleton.1 new
      exact ⟨_, joins⟩
  · obtain rfl := List.mem_singleton.1 second
    obtain rfl := other.unique joins
    -- The other host joined with an earlier call.
    obtain ⟨k, before⟩ := ordered.joined a first
    obtain rfl := one.unique (before.concat fun _ => known a first)
    exact before.lt

/-- After any calls the hosts stand in the order in which they joined. -/
theorem inOrder_ofCalls (calls : List Call) : InOrder calls (ofCalls calls).hosts := by
  induction calls using List.reverseRecOn with
  | nil => exact ⟨fun host member => absurd member List.not_mem_nil, List.Pairwise.nil⟩
  | append_singleton calls call ih =>
      rw [ofCalls_concat]
      cases call with
      | add host =>
          rw [perform, add]
          split
          · next known =>
              exact ih.left (List.Sublist.refl _) fun _ _ same => Call.add.inj same ▸ known
          · next away => exact ih.join (fun _ => id) away
      | remove host => exact ih.left List.filter_sublist fun _ _ same => absurd same (by simp)
      | balance =>
          rw [hosts_perform_balance]
          exact ih.left (List.Sublist.refl _) fun _ _ same => absurd same (by simp)

/-- No host stands twice, since it would have to stand behind itself. -/
theorem InOrder.nodup {hosts : List String} (ordered : InOrder calls hosts) : hosts.Nodup := by
  refine ordered.ascending.imp_of_mem fun {a b} first _ less same => ?_
  obtain ⟨i, joins⟩ := ordered.joined a first
  exact Nat.lt_irrefl i (less i i joins (same ▸ joins))

/-- The hosts of a rotation are those that were added and not removed since. -/
theorem mem_ofCalls (calls : List Call) (host : String) :
    host ∈ (ofCalls calls).hosts ↔ Stays calls host := by
  induction calls using List.reverseRecOn with
  | nil => simp [ofCalls, Stays]
  | append_singleton calls call ih =>
      rw [ofCalls_concat, Stays, List.filter_append]
      cases call with
      | add other =>
          by_cases same : other = host
          · subst same
            rw [perform, add]
            split
            · next known => simp [Call.host?, known]
            · simp [Call.host?]
          · rw [perform, add]
            split <;> simp [Call.host?, same, Ne.symm same, ih, Stays]
      | remove other =>
          by_cases same : other = host
          · simp [perform, remove, Call.host?, same]
          · simp [perform, remove, Call.host?, same, Ne.symm same, ih, Stays]
      | balance =>
          rw [hosts_perform_balance, ih, Stays]
          simp [Call.host?]

/-! ### Whose turn it is -/

theorem turns_add (r : RoundRobin) (host : String) : (r.add host).turns = r.turns := by
  rw [add]
  split <;> rfl

/-- The count of turns is not ahead of the requests for a turn. -/
theorem turns_ofCalls_le (calls : List Call) :
    (ofCalls calls).turns.toNat ≤ calls.count .balance := by
  induction calls using List.reverseRecOn with
  | nil => exact Nat.le_refl 0
  | append_singleton calls call ih =>
      rw [ofCalls_concat, List.count_append]
      cases call with
      | add host =>
          rw [perform, turns_add]
          exact Nat.le_add_right_of_le ih
      | remove host => exact Nat.le_add_right_of_le ih
      | balance =>
          rw [List.count_singleton_self, perform]
          by_cases bare : (ofCalls calls).hosts = []
          · rw [balance_of_nil bare]
            exact Nat.le_succ_of_le ih
          · obtain ⟨host, -, turn⟩ := balance_of_ne_nil bare
            rw [turn]
            change ((ofCalls calls).turns + 1).toNat ≤ _
            rw [UInt64.toNat_add]
            exact (Nat.mod_le _ _).trans (Nat.succ_le_succ ih)

/-- While nobody joins or leaves, the count of turns runs on and says whose turn it is. -/
theorem answers_eq (filled : r.hosts ≠ []) {m : Nat} (few : r.turns.toNat + m < 2 ^ 64) :
    r.answers m =
      (List.range m).map fun i => r.hosts[(r.turns.toNat + i) % r.hosts.length]? := by
  induction m generalizing r with
  | zero => rfl
  | succ m ih =>
      obtain ⟨host, here, turn⟩ := balance_of_ne_nil filled
      have next : (r.turns + 1).toNat = r.turns.toNat + 1 := by
        rw [UInt64.toNat_add]
        exact Nat.mod_eq_of_lt (by simpa using by omega)
      have rest := ih (r := { r with turns := r.turns + 1 }) filled (by rw [next]; omega)
      rw [answers, perform, turn, List.range_succ_eq_map, List.map_cons, List.map_map]
      refine congrArg₂ List.cons here.symm (rest.trans (List.map_congr_left fun i _ => ?_))
      rw [next, Function.comp_apply, Nat.add_assoc, Nat.add_comm 1 i]

/-! ### Shares -/

/-- Of `m` numbers in a row, `m / n` rounded down or up have a given remainder. -/
theorem count_mod_eq {n k : Nat} (inside : k < n) (c m : Nat) :
    (List.range m).countP (fun i => (c + i) % n = k) = m / n ∨
      (List.range m).countP (fun i => (c + i) % n = k) = m ⌈/⌉ n := by
  have positive : 0 < n := Nat.zero_lt_of_lt inside
  -- `(c + i) % n = k` says that `i` is congruent to one number, whatever `c` is.
  have shifted (i : Nat) : (c + i) % n = k ↔ i ≡ k + c * (n - 1) [MOD n] := by
    have whole : c + (k + c * (n - 1)) ≡ k [MOD n] := by
      obtain ⟨n, rfl⟩ := Nat.exists_eq_succ_of_ne_zero positive.ne'
      have multiple : c + (k + c * (n.succ - 1)) = k + n.succ * c := by
        rw [Nat.succ_sub_one, Nat.succ_mul, Nat.mul_comm c n]
        omega
      rw [multiple]
      exact Nat.add_mul_mod_self_left k n.succ c
    constructor
    · intro here
      have same : c + i ≡ k [MOD n] := here.trans (Nat.mod_eq_of_lt inside).symm
      exact Nat.ModEq.add_left_cancel' c (same.trans whole.symm)
    · intro same
      have remainder : (c + i) % n = k % n := (same.add_left c).trans whole
      rw [remainder, Nat.mod_eq_of_lt inside]
  have count : (List.range m).countP (fun i => (c + i) % n = k) =
      m / n + if (k + c * (n - 1)) % n < m % n then 1 else 0 := by
    rw [← Nat.count_modEq_card m positive (k + c * (n - 1)), Nat.count]
    exact List.countP_congr fun i _ => by simp only [decide_eq_true_eq, shifted]
  rw [count]
  split
  · next above =>
      refine Or.inr ?_
      have split := Nat.div_add_mod m n
      have less := Nat.mod_lt m positive
      rw [Nat.ceilDiv_eq_add_pred_div]
      refine (Nat.div_eq_of_lt_le ?_ ?_).symm
      · rw [Nat.succ_mul, Nat.mul_comm]
        omega
      · rw [Nat.succ_mul, Nat.succ_mul, Nat.mul_comm]
        omega
  · exact Or.inl rfl

/-- How turns are taken fairly by some hosts. -/
structure Fair (hosts : List String) (turns : List (Option String)) : Prop where
  /-- Every turn is one of a host. -/
  served : ∀ turn ∈ turns, ∃ host ∈ hosts, turn = some host
  /-- Every host has its share of the turns, rounded down or up. -/
  share : ∀ host ∈ hosts, turns.count (some host) = turns.length / hosts.length ∨
    turns.count (some host) = turns.length ⌈/⌉ hosts.length
  /-- As many turns in a row as there are hosts are turns of different hosts. -/
  apart : ∀ i, i + hosts.length ≤ turns.length → ((turns.drop i).take hosts.length).Nodup

/-- Hosts that follow a count have fair turns, whatever the count starts from. -/
theorem fair_rounds {hosts : List String} (nodup : hosts.Nodup) (filled : hosts ≠ []) (c m : Nat) :
    Fair hosts ((List.range m).map fun i => hosts[(c + i) % hosts.length]?) := by
  have positive := List.length_pos_of_ne_nil filled
  have inside (i : Nat) : (c + i) % hosts.length < hosts.length := Nat.mod_lt _ positive
  refine ⟨fun turn member => ?_, fun host member => ?_, fun i short => ?_⟩
  · obtain ⟨i, -, rfl⟩ := List.mem_map.1 member
    exact ⟨_, List.getElem_mem (inside i), List.getElem?_eq_getElem (inside i)⟩
  · obtain ⟨k, here, rfl⟩ := List.mem_iff_getElem.1 member
    have own (i : Nat) : hosts[(c + i) % hosts.length]? = some hosts[k] ↔
        (c + i) % hosts.length = k := by
      rw [List.getElem?_eq_getElem (inside i), Option.some.injEq, nodup.getElem_inj_iff]
    have count : ((List.range m).map fun i => hosts[(c + i) % hosts.length]?).count
        (some hosts[k]) = (List.range m).countP fun i => (c + i) % hosts.length = k := by
      rw [List.count_eq_countP, List.countP_map]
      exact List.countP_congr fun i _ => by simp [own]
    rw [count, List.length_map, List.length_range]
    exact count_mod_eq here c m
  · rw [List.length_map, List.length_range] at short
    have window : ((List.range m).drop i).take hosts.length = List.range' i hosts.length := by
      refine List.ext_getElem ?_ fun k _ _ => by simp
      rw [List.length_take, List.length_drop, List.length_range, List.length_range']
      omega
    rw [← List.map_drop, ← List.map_take, window]
    refine List.Nodup.map_on (fun a first b second same => ?_) List.nodup_range'
    rw [List.getElem?_eq_getElem (inside a), List.getElem?_eq_getElem (inside b),
      Option.some.injEq, nodup.getElem_inj_iff] at same
    -- Two of so many counts in a row that are the same turn are the same count.
    have congruent : a ≡ b [MOD hosts.length] := Nat.ModEq.add_left_cancel' c same
    obtain ⟨low, high⟩ := List.mem_range'_1.1 first
    obtain ⟨low', high'⟩ := List.mem_range'_1.1 second
    exact congruent.eq_of_abs_lt (abs_sub_lt_iff.2 ⟨by omega, by omega⟩)

/-! ### Runs -/

/-- After fewer than 2^64 requests for a turn the hosts of a rotation are those that were added and
not removed since, each of them once and in the order in which they joined; a request is refused
just when there is no host; and while nobody joins or leaves, the turns are fair. -/
theorem turns_are_fair {calls : List Call} (few : calls.count .balance < 2 ^ 64) :
    let r := ofCalls calls
    (∀ host, host ∈ r.hosts ↔ Stays calls host) ∧
    r.hosts.Nodup ∧
    (∀ host ∈ r.hosts, ∃! i, Joins calls host i) ∧
    r.hosts.Pairwise (fun a b => ∀ i j, Joins calls a i → Joins calls b j → i < j) ∧
    (r.balance = none ↔ r.hosts = []) ∧
    (∀ host after, r.balance = some (host, after) → host ∈ r.hosts) ∧
    ∀ earlier m later, calls = earlier ++ (List.replicate m .balance ++ later) →
      (ofCalls earlier).hosts ≠ [] →
      ((ofCalls earlier).answers m).length = m ∧
        Fair (ofCalls earlier).hosts ((ofCalls earlier).answers m) := by
  intro r
  have ordered := inOrder_ofCalls calls
  refine ⟨mem_ofCalls calls, ordered.nodup, fun host member => ?_, ordered.ascending,
    ⟨fun refused => ?_, balance_of_nil⟩, fun host after turn => ?_,
    fun earlier m later whole filled => ?_⟩
  · obtain ⟨i, joins⟩ := ordered.joined host member
    exact ⟨i, joins, fun j other => other.unique joins⟩
  · by_contra filled
    obtain ⟨host, -, turn⟩ := balance_of_ne_nil filled
    exact absurd (refused.symm.trans turn) (by simp)
  · by_cases bare : r.hosts = []
    · exact absurd ((balance_of_nil bare).symm.trans turn) (by simp)
    · obtain ⟨other, here, served⟩ := balance_of_ne_nil bare
      obtain ⟨rfl, -⟩ := Prod.mk.inj (Option.some.inj (turn.symm.trans served))
      exact List.mem_of_getElem? here
  · -- The count at the start of the stretch is not ahead of the requests before it.
    have behind := turns_ofCalls_le earlier
    have total : earlier.count .balance + m ≤ calls.count .balance := by
      rw [whole, List.count_append, List.count_append, List.count_replicate_self]
      omega
    rw [answers_eq filled (by omega)]
    exact ⟨by rw [List.length_map, List.length_range],
      fair_rounds (inOrder_ofCalls earlier).nodup filled _ m⟩

/-- Of three hosts one leaves and comes back between two turns. -/
def returningCalls : List Call :=
  [.add "a", .add "b", .add "c", .balance, .remove "b", .balance, .add "b"] ++
    (List.replicate 7 .balance ++ [.remove "a"])

/-- In the seven turns that follow, the host that came back is the last of the three. -/
theorem turns_are_fair_returningCalls :
    returningCalls.count .balance < 2 ^ 64 ∧
      (ofCalls (returningCalls.take 7)).hosts = ["a", "c", "b"] ∧
      Fair ["a", "c", "b"]
        [some "b", some "a", some "c", some "b", some "a", some "c", some "b"] := by
  have few : returningCalls.count .balance < 2 ^ 64 := by decide
  obtain ⟨-, -, -, -, -, -, turns⟩ := turns_are_fair few
  have hosts : (ofCalls (returningCalls.take 7)).hosts = ["a", "c", "b"] := by decide
  have fair := (turns (returningCalls.take 7) 7 [.remove "a"] rfl (by rw [hosts]; decide)).2
  have answers : (ofCalls (returningCalls.take 7)).answers 7 =
      [some "b", some "a", some "c", some "b", some "a", some "c", some "b"] := by decide
  exact ⟨few, hosts, answers ▸ hosts ▸ fair⟩

end ClusterGateway.RoundRobin
