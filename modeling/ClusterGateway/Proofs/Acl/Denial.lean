import ClusterGateway.Proofs.Acl.Match
import ClusterGateway.Proofs.Replication.InPlace
import Mathlib.Data.List.TakeWhile
import Mathlib.Logic.Function.Basic

/-! # Whom an access list refuses

An access list is a map from networks to tags. Whatever was blocked, freed, cleared and installed,
its records and its trie hold the same networks, and a client is refused if and only if one of them
contains its address; the tag is the one last given to the smallest of these. Rule sets that an
installation replaces may be installed again, also in another list, so the calls here are about any
number of rule sets at once.
-/

namespace ClusterGateway

/-! ### The addresses of a network -/

namespace Network

/-- A network contains the addresses whose bits begin with its own. -/
theorem contains_iff {net : Network} {address : UInt32} :
    net.contains address = true ↔ net.path <+: bitsOf address := by
  rw [contains, decide_eq_true_iff, ← bitsOf_injective.eq_iff, mask,
    bitsOf_and_netmask address net.length_le, bitsOf_address, List.append_left_inj,
    List.prefix_iff_eq_take, length_path, eq_comm]

end Network

/-! ### Addresses of version six -/

namespace Ipv6

/-- The groups are eight numbers of sixteen bits. -/
def Valid (a : Ipv6) : Prop := a.groups.length = 8 ∧ ∀ group ∈ a.groups, group < 65536

/-- An IPv4-mapped address is read back as the address it was made of. -/
theorem mapped?_ofMapped (a : Ipv4) : (ofMapped a).mapped? = some a := by
  have word : (a.val.toNat / 65536 * 65536 + a.val.toNat % 65536).toUInt32 = a.val := by
    rw [Nat.div_add_mod']
    exact UInt32.ofNat_toNat
  simp only [ofMapped, mapped?, word]

/-- A valid IPv6 address from which an IPv4 address is read is the mapped form of that address. -/
theorem eq_ofMapped_of_mapped? {a : Ipv6} (valid : a.Valid) {mapped : Ipv4}
    (found : a.mapped? = some mapped) : a = ofMapped mapped := by
  obtain ⟨groups⟩ := a
  rw [mapped?] at found
  split at found
  next high low shape =>
    dsimp only at shape
    subst shape
    have below : high < 65536 ∧ low < 65536 := by
      simpa [Valid] using valid
    obtain rfl := Option.some.inj found
    have word : (high * 65536 + low).toUInt32.toNat = high * 65536 + low := by
      change (UInt32.ofNat _).toNat = _
      rw [UInt32.toNat_ofNat']
      exact Nat.mod_eq_of_lt (by omega)
    simp only [ofMapped, word, mk.injEq, List.cons.injEq, true_and, and_true]
    omega
  next => exact absurd found (by simp)

end Ipv6

/-! ### One rule set -/

/-- Blocked networks with their tags. -/
abbrev Rules := AList fun _ : Network => String

/-- A network is the smallest of the blocked ones around an address. -/
def Rules.IsSmallest (rules : Rules) (address : Ipv4) (net : Network) : Prop :=
  net ∈ rules ∧ net.contains address.val = true ∧
    ∀ other ∈ rules, other.contains address.val = true → other.length ≤ net.length

namespace AccessList

variable {acl : AccessList} {rules : Rules}

/-- An access list blocks the networks of a map under its tags, and counts them. -/
structure Holds (acl : AccessList) (rules : Rules) : Prop where
  sound : acl.Sound
  tags : ∀ net, acl.trie.valueAt net.path = rules.lookup net
  /-- A tag is kept at the bits of a network. -/
  placed : ∀ path, (acl.trie.valueAt path).isSome = true → ∃ net : Network, net.path = path
  counted : acl.trie.size = rules.keys.length
  recorded : acl.size = rules.keys.length

/-- The empty list holds no rules. -/
theorem holds_empty : Holds empty ∅ := by
  refine ⟨sound_empty, fun net => ?_, fun path tagged => ?_, rfl, rfl⟩
  · exact BitTrie.valueAt_empty _
  · rw [empty, BitTrie.valueAt_empty] at tagged
    exact absurd tagged (by simp)

/-- The networks on record are those of the rules. -/
theorem Holds.contains_records (holds : acl.Holds rules) (net : Network) :
    acl.records.contains net.text = true ↔ net ∈ rules := by
  rw [holds.sound.agrees, holds.tags, AList.lookup_isSome]

/-- A list that holds some rules holds one more when a network is put in. -/
theorem Holds.put (holds : acl.Holds rules) (net : Network) (tag : String) :
    (acl.put net tag).Holds (rules.insert net tag) := by
  obtain ⟨-, values⟩ := holds.sound.trie.insert net.path tag
  refine ⟨holds.sound.put net tag, fun other => ?_, fun path tagged => ?_, ?_, ?_⟩
  · rw [AccessList.put, values]
    by_cases same : other = net
    · rw [if_pos (congrArg Network.path same), same, AList.lookup_insert]
    · rw [if_neg (mt (@Network.path_injective _ _) same), AList.lookup_insert_ne same, holds.tags]
  · rw [AccessList.put, values] at tagged
    split at tagged
    next here => exact ⟨net, here.symm⟩
    next => exact holds.placed path tagged
  · rw [AccessList.put, holds.sound.trie.size_insert, holds.tags, holds.counted, length_keys_insert]
    simp only [Option.isNone_iff_eq_none, AList.lookup_eq_none, ite_not]
  · have known := holds.contains_records net
    have counted := holds.recorded
    rw [AccessList.size] at counted
    rw [AccessList.put, AccessList.size, Dict.size_insert, counted, length_keys_insert]
    simp only [known]

/-- Freeing a network succeeds if and only if it is blocked. -/
theorem Holds.delete (holds : acl.Holds rules) {cidr : String} {net : Network}
    (read : parseCidr cidr = .ok net) :
    (net ∈ rules → ∃ left : AccessList, acl.delete cidr = .ok left ∧ left.Holds (rules.erase net)) ∧
    (net ∉ rules → acl.delete cidr = .error (.notFound cidr)) := by
  obtain ⟨-, -, values⟩ := holds.sound.trie.erase net.path
  obtain ⟨freed, unknown⟩ := holds.sound.delete read
  have known := holds.contains_records net
  have tagged : (acl.trie.valueAt net.path).isSome = true ↔ net ∈ rules := by
    rw [holds.tags, AList.lookup_isSome]
  constructor
  · intro present
    obtain ⟨left, whole, sound, records⟩ := freed (known.2 present)
    have trie : left.trie = (acl.trie.erase net.path).2 := by
      rw [delete_of_parse acl read] at whole
      split at whole
      next => rw [← Except.ok.inj whole]
      next => exact absurd whole (by simp)
    -- Networks and bit strings correspond, so erasing one value erases one rule.
    refine ⟨left, whole, sound, fun other => ?_, fun path found => ?_, ?_, ?_⟩
    · rw [trie, values]
      by_cases same : other = net
      · rw [if_pos (congrArg Network.path same), same, AList.lookup_erase]
      · rw [if_neg (mt (@Network.path_injective _ _) same), AList.lookup_erase_ne same, holds.tags]
    · rw [trie, values] at found
      split at found
      next => exact absurd found (by simp)
      next => exact holds.placed path found
    · rw [trie, holds.sound.trie.size_erase, if_pos (tagged.2 present), holds.counted,
        length_keys_erase, if_pos present]
    · have counted := holds.recorded
      rw [AccessList.size] at counted ⊢
      rw [records, Dict.size_erase, if_pos (known.2 present), counted, length_keys_erase,
        if_pos present]
  · intro absent
    exact unknown (Bool.eq_false_iff.2 fun recorded => absent (known.1 recorded))

/-! ### Looking an address up -/

/-- A look-up of an address fails just if no rule's network contains it. -/
theorem Holds.lookup_eq_none_iff (holds : acl.Holds rules) {address : Ipv4} :
    acl.lookup address = none ↔ ∀ net ∈ rules, ¬ net.contains address.val = true := by
  rw [lookup, BitTrie.search_eq_longest, longest_eq_none_iff]
  constructor
  · intro bare net present around
    have tag := bare net.path (Network.contains_iff.1 around)
    rw [holds.tags, AList.lookup_eq_none] at tag
    exact tag present
  · intro outside path start
    by_contra tagged
    obtain ⟨net, rfl⟩ := holds.placed path (Option.isSome_iff_ne_none.2 tagged)
    rw [holds.tags, AList.lookup_eq_none, not_not] at tagged
    exact outside net tagged (Network.contains_iff.2 start)

/-- A look-up of an address succeeds just if some rule's network contains it. -/
theorem Holds.isSome_lookup (holds : acl.Holds rules) {address : Ipv4} :
    (acl.lookup address).isSome = true ↔ ∃ net ∈ rules, net.contains address.val = true := by
  rw [Option.isSome_iff_ne_none, Ne, holds.lookup_eq_none_iff]
  simp

/-- A look-up of an address gives the tag of the smallest network that contains it. -/
theorem Holds.lookup_eq_some_iff (holds : acl.Holds rules) {address : Ipv4} {tag : String} :
    acl.lookup address = some tag ↔
      ∃ net, rules.IsSmallest address net ∧ rules.lookup net = some tag := by
  rw [lookup, BitTrie.search_eq_longest, longest_eq_some_iff]
  constructor
  · rintro ⟨path, start, found, most⟩
    obtain ⟨net, rfl⟩ := holds.placed path (by rw [found]; rfl)
    rw [holds.tags] at found
    refine ⟨net, ⟨?_, Network.contains_iff.2 start, fun other present around => ?_⟩, found⟩
    · rw [← AList.lookup_isSome, found]
      rfl
    · rw [← Network.length_path other, ← Network.length_path net]
      refine most other.path (Network.contains_iff.1 around) ?_
      rw [holds.tags, AList.lookup_isSome]
      exact present
  · rintro ⟨net, ⟨present, around, most⟩, found⟩
    refine ⟨net.path, Network.contains_iff.1 around, (holds.tags net).trans found, ?_⟩
    intro path start tagged
    obtain ⟨other, rfl⟩ := holds.placed path tagged
    rw [holds.tags, AList.lookup_isSome] at tagged
    rw [Network.length_path, Network.length_path]
    exact most other tagged (Network.contains_iff.2 start)

/-- A text that begins with an address and a colon is looked up by the address. -/
theorem search_text (acl : AccessList) (address : Ipv4) (port : String) :
    acl.search address.text = .ok (acl.lookup address) ∧
      acl.search (address.text ++ ":" ++ port) = .ok (acl.lookup address) := by
  have clean : ∀ c ∈ address.text.toList, decide (c ≠ ':') = true := by
    have colon (n : Nat) : ':' ∉ decimalDigits n := notMem_decimalDigits (by decide) n
    intro c member
    rw [decide_eq_true_iff]
    rintro rfl
    simp [Ipv4.toList_text, colon] at member
  have bare : address.text.toList.takeWhile (· ≠ ':') = address.text.toList :=
    List.takeWhile_eq_self_iff.2 clean
  have ported : (address.text ++ ":" ++ port).toList.takeWhile (· ≠ ':') = address.text.toList := by
    rw [String.toList_append, String.toList_append, List.append_assoc,
      List.takeWhile_append_of_pos clean]
    exact List.append_nil _
  constructor
  · rw [search, bare, Ipv4.parse?_text]
  · rw [search, ported, Ipv4.parse?_text]

/-- An IPv4-mapped address is denied as the IPv4 address is. -/
theorem isDenied_ofMapped (acl : AccessList) (address : Ipv4) :
    acl.isDenied (.v6 (.ofMapped address)) = acl.isDenied (.v4 address) := by
  simp only [isDenied, Ipv6.mapped?_ofMapped]

/-- Of the addresses of version six those are refused that stand for a refused one of version
four. -/
theorem isDenied_v6 (acl : AccessList) {a : Ipv6} (valid : a.Valid) :
    acl.isDenied (.v6 a) = true ↔
      ∃ mapped, a = .ofMapped mapped ∧ acl.isDenied (.v4 mapped) = true := by
  constructor
  · intro denied
    rw [isDenied] at denied
    split at denied
    next mapped found => exact ⟨mapped, Ipv6.eq_ofMapped_of_mapped? valid found, denied⟩
    next => exact absurd denied Bool.false_ne_true
  · rintro ⟨mapped, rfl, denied⟩
    rw [isDenied_ofMapped, denied]

/-! ### Building a rule set -/

/-- Blocking several networks fails at the first text that cannot be read, and otherwise puts them
in one after another. -/
theorem foldlM_block (records : List String) (acl : AccessList) :
    records.foldlM block acl =
      (records.mapM parseCidr).map fun nets => nets.foldl (fun acl net => acl.put net net.text) acl := by
  induction records generalizing acl with
  | nil => rfl
  | cons record records ih =>
      rw [List.foldlM_cons, List.mapM_cons, block]
      cases parseCidr record with
      | error error => rfl
      | ok net =>
          refine (ih (acl.put net net.text)).trans ?_
          simp only [bind, Except.bind]
          cases records.mapM parseCidr <;> rfl

/-- A list to which networks are added one after another holds the rules with all of them. -/
theorem Holds.foldl_put (holds : acl.Holds rules) (nets : List Network) :
    (nets.foldl (fun acl net => acl.put net net.text) acl).Holds
      (nets.foldl (fun rules net => rules.insert net net.text) rules) := by
  induction nets generalizing acl rules with
  | nil => exact holds
  | cons net nets ih => exact ih (holds.put net net.text)

end AccessList

/-! ### Any number of rule sets -/

/-- A call to an access list, or to what builds rules for one. Rule sets have numbers, those in
service as well as those that were only built or that others have replaced. -/
inductive AclCall where
  | add (n : Nat) (cidr tag : String)
  | block (n : Nat) (cidr : String)
  | delete (n : Nat) (cidr : String)
  | clear (n : Nat)
  /-- Puts a rule set built from records in the place of another. -/
  | build (n : Nat) (records : List String)
  /-- Two rule sets change places. -/
  | install (n m : Nat)

namespace AclCall

open InPlace

/-- Runs a program on one of the rule sets. -/
def onSet (n : Nat) (program : InPlace AccessList AclError Unit) :
    InPlace (Nat → AccessList) AclError Unit :=
  part (· n) (fun sets acl => Function.update sets n acl) id program

/-- What a call does, in place. -/
def program : AclCall → InPlace (Nat → AccessList) AclError Unit
  | add n cidr tag => onSet n (AccessList.addInPlace cidr tag)
  | block n cidr => onSet n (AccessList.blockInPlace cidr)
  | delete n cidr => onSet n (AccessList.deleteInPlace cidr)
  | clear n => modify fun sets => Function.update sets n .empty
  | build n records => do
    let rules ← check (AccessList.ofRecords records)
    modify fun sets => Function.update sets n rules
  | install n m => modify fun sets => Function.update (Function.update sets n (sets m)) m (sets n)

/-- What a call means for blocked networks and their tags, unless it is refused. -/
def meant (rules : Nat → Rules) : AclCall → Option (Nat → Rules)
  | add n cidr tag =>
    if tag.isEmpty then none
    else (parseCidr cidr).toOption.map fun net =>
      Function.update rules n ((rules n).insert net tag)
  | block n cidr => (parseCidr cidr).toOption.map fun net =>
    Function.update rules n ((rules n).insert net net.text)
  | delete n cidr => (parseCidr cidr).toOption.bind fun net =>
    if net ∈ rules n then some (Function.update rules n ((rules n).erase net)) else none
  | clear n => some (Function.update rules n ∅)
  | build n records => (records.mapM parseCidr).toOption.map fun nets =>
    Function.update rules n (nets.foldl (fun rules net => rules.insert net net.text) ∅)
  | install n m => some (Function.update (Function.update rules n (rules m)) m (rules n))

/-- Every rule set blocks its networks. -/
def Hold (sets : Nat → AccessList) (rules : Nat → Rules) : Prop := ∀ n, (sets n).Holds (rules n)

variable {sets : Nat → AccessList} {rules : Nat → Rules}

/-- When one set is replaced by a list that holds other rules, all sets hold their rules again. -/
theorem Hold.update (hold : Hold sets rules) (n : Nat) {acl : AccessList} {kept : Rules}
    (holds : acl.Holds kept) : Hold (Function.update sets n acl) (Function.update rules n kept) := by
  intro m
  by_cases same : m = n
  · subst same
    rw [Function.update_self, Function.update_self]
    exact holds
  · rw [Function.update_of_ne same, Function.update_of_ne same]
    exact hold m

/-- A program on one set changes that set and no other one, and nothing if it fails. -/
theorem runOn_onSet (n : Nat) {program : InPlace AccessList AclError Unit}
    {result : Except AclError AccessList}
    (whole : program.runOn (sets n) = kept (sets n) (result.map ((), ·))) :
    (onSet n program).runOn sets =
      kept sets (result.map fun acl => ((), Function.update sets n acl)) := by
  rw [onSet, runOn_part, whole]
  cases result with
  | ok acl => rfl
  | error error => exact congrArg (Except.error error, ·) (Function.update_eq_self n sets)

/-- The outcome of a call is what it means, and if it means nothing it is refused and changes
nothing. -/
theorem runOn_program (hold : Hold sets rules) (call : AclCall) :
    match call.meant rules with
    | some after => ∃ sets', call.program.runOn sets = (.ok (), sets') ∧ Hold sets' after
    | none => ∃ error, call.program.runOn sets = (.error error, sets) := by
  cases call with
  | add n cidr tag =>
      rw [program, runOn_onSet n (AccessList.addInPlace_eq cidr tag (sets n)), AccessList.add, meant]
      by_cases bare : tag.isEmpty = true
      · rw [if_pos bare, if_pos bare]
        exact ⟨_, rfl⟩
      · rw [if_neg bare, if_neg bare]
        cases parseCidr cidr with
        | error error => exact ⟨_, rfl⟩
        | ok net => exact ⟨_, rfl, hold.update n ((hold n).put net tag)⟩
  | block n cidr =>
      rw [program, runOn_onSet n (AccessList.blockInPlace_eq cidr (sets n)), AccessList.block, meant]
      cases parseCidr cidr with
      | error error => exact ⟨_, rfl⟩
      | ok net => exact ⟨_, rfl, hold.update n ((hold n).put net net.text)⟩
  | delete n cidr =>
      rw [program, runOn_onSet n (AccessList.deleteInPlace_eq cidr (sets n)), meant]
      cases read : parseCidr cidr with
      | error error =>
          rw [AccessList.delete, read]
          exact ⟨_, rfl⟩
      | ok net =>
          obtain ⟨freed, unknown⟩ := (hold n).delete read
          by_cases present : net ∈ rules n
          · obtain ⟨left, whole, holds⟩ := freed present
            simp only [Except.toOption, Option.bind_some, if_pos present, whole]
            exact ⟨_, rfl, hold.update n holds⟩
          · simp only [Except.toOption, Option.bind_some, if_neg present, unknown present]
            exact ⟨_, rfl⟩
  | clear n => exact ⟨_, rfl, hold.update n AccessList.holds_empty⟩
  | build n records =>
      rw [program, AccessList.ofRecords, AccessList.foldlM_block, meant]
      cases records.mapM parseCidr with
      | error error => exact ⟨_, rfl⟩
      | ok nets => exact ⟨_, rfl, hold.update n (AccessList.holds_empty.foldl_put nets)⟩
  | install n m => exact ⟨_, rfl, (hold.update n (hold m)).update m (hold n)⟩

/-- What a call makes of the rule sets. -/
def step (sets : Nat → AccessList) (call : AclCall) : Nat → AccessList :=
  (call.program.runOn sets).2

/-- What a call makes of the blocked networks. -/
def record (rules : Nat → Rules) (call : AclCall) : Nat → Rules := (call.meant rules).getD rules

/-- Every call does to the sets what its record does to the rules. -/
theorem hold_step (hold : Hold sets rules) (call : AclCall) :
    Hold (step sets call) (record rules call) := by
  have outcome := runOn_program hold call
  rw [step, record]
  cases intent : call.meant rules with
  | some after =>
      rw [intent] at outcome
      obtain ⟨sets', whole, held⟩ := outcome
      rw [whole]
      exact held
  | none =>
      rw [intent] at outcome
      obtain ⟨error, whole⟩ := outcome
      rw [whole]
      exact hold

/-- Any calls do to the sets what their records do to the rules. -/
theorem hold_run (hold : Hold sets rules) (calls : List AclCall) :
    Hold (calls.foldl step sets) (calls.foldl record rules) := by
  induction calls generalizing sets rules with
  | nil => exact hold
  | cons call calls ih => exact ih (hold_step hold call)

/-- A call that fails leaves all sets as they are. -/
theorem runOn_of_error (hold : Hold sets rules) {call : AclCall} {error : AclError}
    (refused : (call.program.runOn sets).1 = .error error) :
    (call.program.runOn sets).2 = sets := by
  have outcome := runOn_program hold call
  cases intent : call.meant rules with
  | some after =>
      rw [intent] at outcome
      obtain ⟨sets', whole, -⟩ := outcome
      rw [whole] at refused
      exact absurd refused (by simp)
  | none =>
      rw [intent] at outcome
      obtain ⟨error, whole⟩ := outcome
      rw [whole]

/-- Deleting a network succeeds just if its text can be read and the network is among the rules. -/
theorem runOn_delete_eq_ok_iff (hold : Hold sets rules) (n : Nat) (cidr : String) :
    ((delete n cidr).program.runOn sets).1 = .ok () ↔
      ∃ net, parseCidr cidr = .ok net ∧ net ∈ rules n := by
  have outcome := runOn_program hold (delete n cidr)
  rw [meant] at outcome
  cases read : parseCidr cidr with
  | error error =>
      rw [read] at outcome
      obtain ⟨refusal, whole⟩ := outcome
      rw [whole]
      simp
  | ok net =>
      rw [read] at outcome
      by_cases present : net ∈ rules n
      · simp only [Except.toOption, Option.bind_some, if_pos present] at outcome
        obtain ⟨sets', whole, -⟩ := outcome
        rw [whole]
        simp [present]
      · simp only [Except.toOption, Option.bind_some, if_neg present] at outcome
        obtain ⟨refusal, whole⟩ := outcome
        rw [whole]
        simp [present]

/-- After any calls, in each rule set the records and the trie hold the networks that the calls have
left blocked, equally many; a client of version four is refused exactly if one of them contains its
address, and found under the tag last given to the smallest of them, with or without a port; of
version six those are refused that stand for a refused one; a network is freed exactly if it is
blocked; and a refused call changes nothing. -/
theorem run_denies_blocked (calls : List AclCall) (n : Nat) :
    let sets : Nat → AccessList := calls.foldl step fun _ => .empty
    let rules : Nat → Rules := calls.foldl record fun _ => ∅
    (∀ net, (sets n).records.contains net.text = true ↔ net ∈ rules n) ∧
    (∀ record, (sets n).records.contains record = true → ∃ net : Network, net.text = record) ∧
    (∀ path, ((sets n).trie.valueAt path).isSome = true ↔ ∃ net ∈ rules n, net.path = path) ∧
    (sets n).size = (sets n).trie.size ∧
    (∀ address : Ipv4, ((sets n).isDenied (.v4 address) = true ↔
      ∃ net ∈ rules n, net.contains address.val = true)) ∧
    (∀ address, (sets n).isDenied (.v6 (.ofMapped address)) = (sets n).isDenied (.v4 address)) ∧
    (∀ (address : Ipv4) tag, (sets n).lookup address = some tag ↔
      ∃ net, (rules n).IsSmallest address net ∧ (rules n).lookup net = some tag) ∧
    (∀ (address : Ipv4) port, (sets n).search address.text = .ok ((sets n).lookup address) ∧
      (sets n).search (address.text ++ ":" ++ port) = .ok ((sets n).lookup address)) ∧
    (∀ address : { a : Ipv6 // a.Valid }, (sets n).isDenied (.v6 address) = true ↔
      ∃ mapped, address.1 = .ofMapped mapped ∧ (sets n).isDenied (.v4 mapped) = true) ∧
    (∀ cidr, ((delete n cidr).program.runOn sets).1 = .ok () ↔
      ∃ net, parseCidr cidr = .ok net ∧ net ∈ rules n) ∧
    (∀ (call : AclCall) error, (call.program.runOn sets).1 = .error error →
      (call.program.runOn sets).2 = sets) := by
  intro sets rules
  have hold : Hold sets rules := hold_run (fun _ => AccessList.holds_empty) calls
  have holds := hold n
  refine ⟨holds.contains_records, holds.sound.named, fun path => ⟨fun tagged => ?_, ?_⟩,
    holds.recorded.trans holds.counted.symm, fun address => holds.isSome_lookup,
    (sets n).isDenied_ofMapped, fun address tag => holds.lookup_eq_some_iff,
    fun address port => (sets n).search_text address port,
    fun address => (sets n).isDenied_v6 address.2, runOn_delete_eq_ok_iff hold n,
    fun call error refused => ?_⟩
  · obtain ⟨net, rfl⟩ := holds.placed path tagged
    rw [holds.tags, AList.lookup_isSome] at tagged
    exact ⟨net, tagged, rfl⟩
  · rintro ⟨net, present, rfl⟩
    rw [holds.tags, AList.lookup_isSome]
    exact present
  · exact runOn_of_error hold refused

end AclCall

end ClusterGateway
