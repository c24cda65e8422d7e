import ClusterGateway.Proofs.Acl.Compact
import ClusterGateway.Proofs.Acl.Denial

/-! # Rule sets that are built anew

Nodes come to the same blocked networks by different ways: some block and free them one after
another, others build a whole rule set from the texts of a snapshot. If every network is blocked
under its own text, nothing tells which way was taken: not the records, nor what is found for a
client, nor the number of nodes of the trie.
-/

namespace ClusterGateway

namespace AccessList

variable {acl other : AccessList} {rules others : Rules}

/-- Nothing that is asked of two access lists tells them apart. -/
structure Agree (acl other : AccessList) : Prop where
  records : acl.toList = other.toList
  search : ∀ client, acl.search client = other.search client
  denied : ∀ client, acl.isDenied client = other.isDenied client
  nodeCount : acl.trie.nodeCount = other.trie.nodeCount

/-! ### What the networks and their tags tell -/

/-- Where one list keeps a tag, another one with the same rules keeps it too. -/
theorem Holds.valueAt_eq_some (first : acl.Holds rules) (second : other.Holds others)
    (same : ∀ net, rules.lookup net = others.lookup net) {path : List Bool} {tag : String}
    (kept : acl.trie.valueAt path = some tag) : other.trie.valueAt path = some tag := by
  obtain ⟨net, rfl⟩ := first.placed path (by rw [kept]; rfl)
  rw [first.tags, same] at kept
  rw [second.tags, kept]

/-- Lists with the same rules keep the same tags at all bit strings. -/
theorem Holds.valueAt_eq (first : acl.Holds rules) (second : other.Holds others)
    (same : ∀ net, rules.lookup net = others.lookup net) (path : List Bool) :
    acl.trie.valueAt path = other.trie.valueAt path := by
  apply Option.ext
  intro tag
  exact ⟨first.valueAt_eq_some second same,
    second.valueAt_eq_some first fun net => (same net).symm⟩

/-- What one list has on record, another one with the same rules has too. -/
theorem Holds.contains_of_contains (first : acl.Holds rules) (second : other.Holds others)
    (same : ∀ net, rules.lookup net = others.lookup net) {record : String}
    (known : acl.records.contains record = true) : other.records.contains record = true := by
  obtain ⟨net, rfl⟩ := first.sound.named record known
  rw [first.contains_records, ← AList.lookup_isSome] at known
  rw [second.contains_records, ← AList.lookup_isSome, ← same]
  exact known

/-- Lists that block the same networks under the same tags agree. -/
theorem Holds.agree (first : acl.Holds rules) (second : other.Holds others)
    (same : ∀ net, rules.lookup net = others.lookup net) (compact : acl.trie.Compact)
    (compactOther : other.trie.Compact) : acl.Agree other := by
  have values := first.valueAt_eq second same
  have found : acl.lookup = other.lookup := by
    funext address
    unfold lookup
    rw [BitTrie.search_eq_longest, BitTrie.search_eq_longest, funext values]
  constructor
  · refine Dict.keys_eq_of_contains fun record => Bool.eq_iff_iff.2 ?_
    exact ⟨first.contains_of_contains second same,
      second.contains_of_contains first fun net => (same net).symm⟩
  · intro client
    unfold search
    rw [found]
  · intro client
    unfold isDenied
    rw [found]
  · exact compact.nodeCount_congr compactOther fun path => by rw [values]

/-! ### Networks under their own texts -/

/-- The tag of a record. -/
def tagOf (acl : AccessList) (record : String) : Option String :=
  (parseCidr record).toOption.bind fun net => acl.trie.valueAt net.path

/-- Every network is blocked under its own text. -/
def Canonical (acl : AccessList) : Prop := ∀ record ∈ acl.toList, acl.tagOf record = some record

instance (acl : AccessList) : Decidable acl.Canonical :=
  inferInstanceAs (Decidable (∀ record ∈ acl.toList, acl.tagOf record = some record))

/-- The records of a list are the texts of its networks. -/
theorem Holds.mem_toList (holds : acl.Holds rules) {net : Network} :
    net.text ∈ acl.toList ↔ net ∈ rules := by
  rw [toList, Dict.mem_keys, holds.contains_records]

/-- Where every network is blocked under its own text, its rule is this text. -/
theorem Holds.lookup_of_canonical (holds : acl.Holds rules) (canonical : acl.Canonical)
    {net : Network} (present : net ∈ rules) : rules.lookup net = some net.text := by
  have tagged := canonical net.text (holds.mem_toList.2 present)
  rw [tagOf, parseCidr_text] at tagged
  exact (holds.tags net).symm.trans tagged

/-! ### Texts of networks -/

/-- Texts that are read as networks. -/
def Spell (records : List String) (nets : List Network) : Prop :=
  List.Forall₂ (fun record net => parseCidr record = .ok net) records nets

/-- The texts of networks are read as these networks. -/
theorem spell_text (nets : List Network) : Spell (nets.map Network.text) nets := by
  rw [Spell, List.forall₂_map_left_iff, List.forall₂_same]
  intro net _
  exact parseCidr_text net

/-- The records of a list are the texts of networks. -/
theorem Holds.exists_nets (holds : acl.Holds rules) :
    ∃ nets : List Network, nets.map Network.text = acl.toList := by
  rw [← Set.mem_range, Set.range_list_map]
  intro record member
  exact holds.sound.named record (Dict.mem_keys.1 member)

/-- The list that blocks some networks one after another, each under its own text. -/
def blocking (nets : List Network) : AccessList :=
  nets.foldl (fun acl net => acl.put net net.text) empty

/-- Of networks that are blocked one after another each is tagged with its text, and the others keep
their tags. -/
theorem lookup_foldl_insert (nets : List Network) (rules : Rules) (net : Network) :
    (nets.foldl (fun rules net => rules.insert net net.text) rules).lookup net =
      if net ∈ nets then some net.text else rules.lookup net := by
  induction nets generalizing rules with
  | nil => rw [if_neg List.not_mem_nil]; rfl
  | cons first nets ih =>
      rw [List.foldl_cons, ih]
      by_cases here : net = first
      · subst here
        simp
      · simp [here, AList.lookup_insert_ne here]

/-- Blocking networks one after another keeps the trie compact. -/
theorem compact_foldl_put (nets : List Network) {acl : AccessList} (compact : acl.trie.Compact) :
    (nets.foldl (fun acl net => acl.put net net.text) acl).trie.Compact := by
  induction nets generalizing acl with
  | nil => exact compact
  | cons net nets ih =>
      have put : (acl.put net net.text).trie.Compact := compact.insert net.path net.text
      exact ih put

/-- A list with every network under its own text agrees with one that has blocked them all
anew. -/
theorem Holds.blocking_agree (holds : acl.Holds rules) (compact : acl.trie.Compact)
    (canonical : acl.Canonical) {nets : List Network}
    (same : ∀ text, text ∈ nets.map Network.text ↔ text ∈ acl.toList) :
    (blocking nets).Agree acl := by
  refine (holds_empty.foldl_put nets).agree holds (fun net => ?_)
    (compact_foldl_put nets BitTrie.compact_empty) compact
  have member : net ∈ nets ↔ net ∈ rules := by
    rw [← holds.mem_toList, ← same, List.mem_map_of_injective Network.text_injective]
  rw [lookup_foldl_insert]
  split
  · next blocked => rw [holds.lookup_of_canonical canonical (member.1 blocked)]
  · next free => rw [AList.lookup_eq_none.2 (mt member.2 free)]; rfl

/-! ### Ways to a rule set -/

variable {records : List String} {nets : List Network}

/-- Building a rule set from texts blocks the networks one after another. -/
theorem ofRecords_of_spell (spell : Spell records nets) :
    ofRecords records = .ok (blocking nets) := by
  unfold ofRecords blocking
  generalize empty = acl
  induction spell generalizing acl with
  | nil => rfl
  | cons read rest ih =>
      rw [List.foldlM_cons, block, read]
      exact ih _

/-- So does blocking in place, which goes on as long as nothing is refused. -/
theorem forM_blockInPlace_of_spell (spell : Spell records nets) (acl : AccessList) :
    (records.forM blockInPlace).runOn acl =
      (.ok (), nets.foldl (fun acl net => acl.put net net.text) acl) := by
  induction spell generalizing acl with
  | nil => rfl
  | cons read rest ih =>
      change (blockInPlace _ >>= fun _ => List.forM _ blockInPlace).runOn acl = _
      rw [InPlace.runOn_bind, blockInPlace_eq, block, read]
      exact ih _

end AccessList

namespace AclCall

open AccessList InPlace

variable {sets : Nat → AccessList} {records : List String} {nets : List Network}

/-! ### Tries without waste -/

/-- Putting a compact list in place of one of the sets keeps all their tries compact. -/
theorem compact_update (compact : ∀ m, (sets m).trie.Compact) (n : Nat) {acl : AccessList}
    (put : acl.trie.Compact) (m : Nat) : (Function.update sets n acl m).trie.Compact := by
  by_cases same : m = n
  · subst same
    rwa [Function.update_self]
  · rw [Function.update_of_ne same]
    exact compact m

/-- A program that leaves its own set compact keeps all tries compact. -/
theorem compact_onSet (compact : ∀ m, (sets m).trie.Compact) {n : Nat}
    {program : InPlace AccessList AclError Unit} {result : Except AclError AccessList}
    (whole : program.runOn (sets n) = kept (sets n) (result.map ((), ·)))
    (put : ∀ acl, result = .ok acl → acl.trie.Compact) (m : Nat) :
    (((onSet n program).runOn sets).2 m).trie.Compact := by
  rw [runOn_onSet n whole]
  cases result with
  | error error => exact compact m
  | ok acl => exact compact_update compact n (put acl rfl) m

/-- A network that is put into a compact list leaves it compact. -/
theorem compact_put {acl left : AccessList} (compact : acl.trie.Compact)
    {read : Except AclError Network} {tag : Network → String}
    (whole : read.map (fun net => acl.put net (tag net)) = .ok left) : left.trie.Compact := by
  cases read with
  | error error => exact absurd whole (by simp [Except.map])
  | ok net =>
      obtain rfl := Except.ok.inj whole
      exact compact.insert net.path (tag net)

/-- No call leaves waste in a trie. -/
theorem compact_step (compact : ∀ m, (sets m).trie.Compact) (call : AclCall) (m : Nat) :
    (step sets call m).trie.Compact := by
  rw [step]
  cases call with
  | add n cidr tag =>
      refine compact_onSet compact (addInPlace_eq cidr tag (sets n)) (fun acl whole => ?_) m
      rw [AccessList.add] at whole
      split at whole
      · exact absurd whole (by simp)
      · exact compact_put (compact n) whole
  | block n cidr =>
      refine compact_onSet compact (blockInPlace_eq cidr (sets n)) (fun acl whole => ?_) m
      exact compact_put (compact n) whole
  | delete n cidr =>
      refine compact_onSet compact (deleteInPlace_eq cidr (sets n)) (fun acl whole => ?_) m
      cases read : parseCidr cidr with
      | error error =>
          rw [AccessList.delete, read] at whole
          exact absurd whole (by simp [bind, Except.bind])
      | ok net =>
          rw [delete_of_parse _ read] at whole
          split at whole
          · obtain rfl := Except.ok.inj whole
            exact (compact n).erase net.path
          · exact absurd whole (by simp)
  | clear n => exact compact_update compact n BitTrie.compact_empty m
  -- A list that cannot be built is not put in place of the old one.
  | build n records =>
      rw [program, ofRecords, foldlM_block]
      cases records.mapM parseCidr with
      | error error => exact compact m
      | ok nets => exact compact_update compact n (compact_foldl_put nets BitTrie.compact_empty) m
  | install n k => exact compact_update (compact_update compact n (compact k)) k (compact n) m

/-- Any calls keep all tries compact. -/
theorem compact_run (compact : ∀ m, (sets m).trie.Compact) (calls : List AclCall) (m : Nat) :
    ((calls.foldl step sets) m).trie.Compact := by
  induction calls generalizing sets with
  | nil => exact compact m
  | cons call calls ih => exact ih (compact_step compact call)

/-! ### Rebuilt lists -/

/-- Calls that block the networks of some texts do so in one rule set. -/
theorem forM_block_of_spell (spell : Spell records nets) (sets : Nat → AccessList) (n : Nat) :
    (records.forM fun record => (AclCall.block n record).program).runOn sets =
      (.ok (), Function.update sets n
        (nets.foldl (fun acl net => acl.put net net.text) (sets n))) := by
  induction spell generalizing sets with
  | nil => exact congrArg (Except.ok (), ·) (Function.update_eq_self n sets).symm
  | cons read rest ih =>
      change ((AclCall.block n _).program >>= fun _ => List.forM _ _).runOn sets = _
      rw [runOn_bind, program, runOn_onSet n (blockInPlace_eq _ (sets n)), AccessList.block, read]
      refine (ih _).trans ?_
      rw [Function.update_idem, Function.update_self, List.foldl_cons]

/-- Building a list from texts that can be read succeeds, and blocks their networks. -/
theorem runOn_build (spell : Spell records nets) (sets : Nat → AccessList) (n : Nat) :
    (AclCall.build n records).program.runOn sets =
      (.ok (), Function.update sets n (blocking nets)) := by
  rw [program, ofRecords_of_spell spell]
  rfl

/-- Nothing in a program is refused, and in the end one of the rule sets agrees with a list. -/
def Leaves (program : InPlace (Nat → AccessList) AclError Unit) (sets : Nat → AccessList) (n : Nat)
    (other : AccessList) : Prop :=
  ∃ after, program.runOn sets = (.ok (), after) ∧ (after n).Agree other

/-- Whichever way a list is built from some texts, it agrees with another. -/
structure Rebuilds (records : List String) (other : AccessList) : Prop where
  /-- The list is cleared and then blocks the texts one after another. -/
  oneByOne : ∀ sets n,
    Leaves (do (clear n).program; records.forM fun record => (block n record).program) sets n other
  /-- A new list blocks them. -/
  fromRecords : ∃ built,
    (records.forM blockInPlace).runOn .empty = (.ok (), built) ∧ built.Agree other
  /-- What is built from them replaces the rules at once. -/
  replaced : ∀ sets n, Leaves (build n records).program sets n other
  /-- What is built from them aside is installed. -/
  installed : ∀ sets n aside,
    Leaves (do (build aside records).program; (install n aside).program) sets n other

/-- Every way of building a list from the same texts gives a list that agrees with the one they
block. -/
theorem rebuilds_of_spell {other : AccessList} (spell : Spell records nets)
    (agree : (blocking nets).Agree other) : Rebuilds records other := by
  constructor
  · intro sets n
    refine ⟨Function.update (Function.update sets n .empty) n (blocking nets), ?_, ?_⟩
    · rw [runOn_bind, program, runOn_modify]
      refine (forM_block_of_spell spell _ n).trans ?_
      rw [Function.update_self, blocking]
    · rwa [Function.update_self]
  · exact ⟨_, forM_blockInPlace_of_spell spell .empty, agree⟩
  · intro sets n
    refine ⟨_, runOn_build spell sets n, ?_⟩
    rwa [Function.update_self]
  · intro sets n aside
    let built := Function.update sets aside (blocking nets)
    refine ⟨Function.update (Function.update built n (built aside)) aside (built n), ?_, ?_⟩
    · rw [runOn_bind, runOn_build spell]
      rfl
    · by_cases same : n = aside
      · subst same
        simpa [built] using agree
      · simpa [built, same] using agree

/-- A list that has every network under its own text, by whatever calls it came to be, agrees with
every list that is built from texts of the same networks, in any order, with duplicates and with
host bits set, and with every list that is built from the records of another, whatever was blocked,
freed, cleared and installed there before. -/
theorem rebuilt_lists_agree (calls : List AclCall) (n : Nat)
    (canonical : ((calls.foldl step fun _ => .empty) n).Canonical) :
    let other : AccessList := (calls.foldl step fun _ => .empty) n
    (∀ records nets, Spell records nets →
      (∀ text, text ∈ nets.map Network.text ↔ text ∈ other.toList) → Rebuilds records other) ∧
    (∀ (churn : List AclCall) m,
      let left : AccessList := (churn.foldl step fun _ => .empty) m
      left.toList = other.toList → Rebuilds left.toList other) := by
  intro other
  have holds := hold_run (fun _ => holds_empty) calls n
  have compact : other.trie.Compact := compact_run (fun _ => BitTrie.compact_empty) calls n
  refine ⟨fun records nets spell same => ?_, ?_⟩
  · exact rebuilds_of_spell spell (holds.blocking_agree compact canonical same)
  · intro churn m left same
    obtain ⟨nets, texts⟩ := (hold_run (fun _ => holds_empty) churn m).exists_nets
    have spell := spell_text nets
    rw [texts] at spell
    refine rebuilds_of_spell spell (holds.blocking_agree compact canonical fun text => ?_)
    rw [texts]
    exact iff_of_eq (congrArg (text ∈ ·) same)

/-- Two networks are blocked, one inside the other, and a third one comes and goes. -/
def nestedBlocks : List AclCall :=
  [.block 0 "10.0.0.7/8", .add 0 "1.2.3.4/32" "x", .block 0 "10.1.0.0/16", .delete 0 "1.2.3.4/32"]

/-- The networks again, in another order, one of them blocked twice. -/
def nestedBlocksAgain : List AclCall :=
  [.block 3 "10.1.2.3/16", .block 3 "10.9.9.9/8", .block 3 "10.1.0.0/16"]

/-- Networks that are blocked in another order, one of them twice, make the list that the first
calls have left. -/
theorem rebuilt_lists_agree_nestedBlocks :
    let blocked : AccessList := (nestedBlocks.foldl step fun _ => .empty) 0
    let again : AccessList := (nestedBlocksAgain.foldl step fun _ => .empty) 3
    blocked.toList = ["10.0.0.0/8", "10.1.0.0/16"] ∧ blocked.Canonical ∧
      Rebuilds ["10.1.0.0/16", "10.0.0.0/8", "10.9.9.9/8"] blocked ∧
      Rebuilds again.toList blocked := by
  intro blocked again
  have texts : blocked.toList = ["10.0.0.0/8", "10.1.0.0/16"] := by decide +kernel
  have canonical : blocked.Canonical := by decide +kernel
  let inner : Network := .ofAddress 0x0a010000 16 (by decide)
  let outer : Network := .ofAddress 0x0a000000 8 (by decide)
  have spell : Spell ["10.1.0.0/16", "10.0.0.0/8", "10.9.9.9/8"] [inner, outer, outer] :=
    .cons (by decide +kernel) (.cons (by decide +kernel) (.cons (by decide +kernel) .nil))
  have names : [inner, outer, outer].map Network.text =
      ["10.1.0.0/16", "10.0.0.0/8", "10.0.0.0/8"] := by decide +kernel
  obtain ⟨fromTexts, fromRecords⟩ := rebuilt_lists_agree nestedBlocks 0 canonical
  refine ⟨texts, canonical, fromTexts _ _ spell fun text => ?_,
    fromRecords nestedBlocksAgain 3 (by decide +kernel)⟩
  rw [names]
  change _ ↔ text ∈ blocked.toList
  rw [texts]
  simp [or_comm]

end AclCall

end ClusterGateway
