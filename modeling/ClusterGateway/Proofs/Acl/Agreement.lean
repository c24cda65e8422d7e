import ClusterGateway.Proofs.Acl.Arena
import ClusterGateway.Proofs.Dictionary
import ClusterGateway.Proofs.Net.Canonical

/-! # Records and trie of an access list agree

The records of an access list are what snapshots carry, and the trie decides whether a network can
be freed. In a list that was reached by blocking and freeing, a network is among the records exactly
if the trie keeps a tag at its bits. So what becomes of the records depends on the records alone.
-/

namespace ClusterGateway

namespace AccessList

variable {acl : AccessList}

/-- The records and the trie of an access list tell the same. -/
structure Sound (acl : AccessList) : Prop where
  trie : acl.trie.Sound
  /-- A network is recorded if and only if it has a tag. -/
  agrees : ∀ net : Network,
    acl.records.contains net.text = (acl.trie.valueAt net.path).isSome
  /-- Every record is the text of a network. -/
  named : ∀ record, acl.records.contains record = true → ∃ net : Network, net.text = record

/-- The empty list is in order. -/
theorem sound_empty : Sound empty := by
  refine ⟨BitTrie.sound_empty, fun net => ?_, fun record found => absurd found (by simp [empty,
    Dict.contains])⟩
  have bare : empty.trie.valueAt net.path = none := BitTrie.valueAt_empty _
  rw [bare]
  rfl

/-- Keeping a tag at a network records that network. -/
theorem Sound.put (sound : acl.Sound) (net : Network) (tag : String) : (acl.put net tag).Sound := by
  obtain ⟨trie, values⟩ := sound.trie.insert net.path tag
  refine ⟨trie, fun other => ?_, fun record found => ?_⟩
  · change (acl.records.insert net.text ()).contains other.text =
      ((acl.trie.insert net.path tag).valueAt other.path).isSome
    rw [Dict.contains_insert, values, sound.agrees]
    by_cases same : other = net
    · simp [same]
    · have path : other.path ≠ net.path := fun equal => same (Network.path_injective equal)
      have text : net.text ≠ other.text := fun equal => same (Network.text_injective equal.symm)
      simp [path, text]
  · change (acl.records.insert net.text ()).contains record = true at found
    rw [Dict.contains_insert, Bool.or_eq_true, decide_eq_true_eq] at found
    rcases found with same | found
    · exact ⟨net, same⟩
    · exact sound.named record found

/-- Deleting a network that can be read succeeds if the trie had it, and takes it out of the trie
and of the records. -/
theorem delete_of_parse (acl : AccessList) {cidr : String} {net : Network}
    (read : parseCidr cidr = .ok net) :
    acl.delete cidr =
      if (acl.trie.erase net.path).1 then
        .ok { trie := (acl.trie.erase net.path).2, records := acl.records.erase net.text }
      else .error (.notFound cidr) := by
  rw [AccessList.delete, read]
  dsimp only [bind, Except.bind]
  cases acl.trie.erase net.path with
  | mk known trie => cases known <;> rfl

/-- The effect of freeing a network, told by the records alone. -/
theorem Sound.delete (sound : acl.Sound) {cidr : String} {net : Network}
    (read : parseCidr cidr = .ok net) :
    (acl.records.contains net.text = true →
      ∃ left : AccessList, acl.delete cidr = .ok left ∧ left.Sound ∧
        left.records = acl.records.erase net.text) ∧
    (acl.records.contains net.text = false → acl.delete cidr = .error (.notFound cidr)) := by
  obtain ⟨answer, trie, values⟩ := sound.trie.erase net.path
  rw [← sound.agrees] at answer
  rw [delete_of_parse acl read]
  generalize acl.trie.erase net.path = erased at *
  obtain ⟨known, left⟩ := erased
  dsimp only at answer trie values
  subst answer
  constructor
  · intro present
    rw [present]
    refine ⟨_, if_pos rfl, ⟨trie, fun other => ?_, fun record found => ?_⟩, rfl⟩
    · rw [Dict.contains_erase, values, sound.agrees]
      by_cases same : other = net
      · simp [same]
      · have path : other.path ≠ net.path := fun equal => same (Network.path_injective equal)
        have text : net.text ≠ other.text := fun equal => same (Network.text_injective equal.symm)
        simp [path, text]
    · rw [Dict.contains_erase, Bool.and_eq_true] at found
      exact sound.named record found.2
  · intro absent
    rw [absent, if_neg Bool.false_ne_true]

/-! ### Lists built from records -/

/-- The networks of some texts, each under its own text. -/
def recorded (nets : List Network) : Dict Unit :=
  Dict.ofList (nets.map fun net => (net.text, ()))

/-- The texts of networks can all be added to a list one after another, and each is recorded. -/
theorem ofRecords_from (nets : List Network) (sound : acl.Sound) :
    ∃ built : AccessList, (nets.map Network.text).foldlM block acl = .ok built ∧ built.Sound ∧
      built.records = (nets.map fun net => (net.text, ())).foldl (fun d e => d.insert e.1 e.2)
        acl.records := by
  induction nets generalizing acl with
  | nil => exact ⟨acl, rfl, sound, rfl⟩
  | cons net nets ih =>
      obtain ⟨built, whole, kept, records⟩ := ih (sound.put net net.text)
      refine ⟨built, ?_, kept, records⟩
      rw [List.map_cons, List.foldlM_cons, block, parseCidr_text]
      exact whole

/-- A list built from the texts of networks records those networks. -/
theorem ofRecords_map_text (nets : List Network) :
    ∃ built : AccessList, ofRecords (nets.map Network.text) = .ok built ∧ built.Sound ∧
      built.records = recorded nets :=
  ofRecords_from nets sound_empty

end AccessList

end ClusterGateway
