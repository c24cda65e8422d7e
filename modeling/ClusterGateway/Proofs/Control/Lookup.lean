import ClusterGateway.Control.Plane
import ClusterGateway.Proofs.Acl.Denial
import ClusterGateway.Proofs.Route.InFlight
import ClusterGateway.Proofs.Url.Host

/-! # Looking a client up

An operator asks under which tag a client is blocked; a request asks whether its client is. The
request looks at the address itself, the operator's question at its text up to the first colon. For
an address of version four that is all of it; for one of version six it is nothing or a hexadecimal
number, and never an address. So the two agree on every address but those of version six that stand
for one of version four: such a client is refused along with the one it stands for, and an operator
finds it by that one only.
-/

namespace ClusterGateway

/-- The address of version four that an address stands for, or else the address itself. -/
def IpAddress.canonical : IpAddress → IpAddress
  | v4 a => v4 a
  | v6 a => (a.mapped?.map v4).getD (v6 a)

namespace AccessList

/-- A client is refused if and only if the address is that it stands for. -/
theorem isDenied_canonical (acl : AccessList) (client : IpAddress) :
    acl.isDenied client.canonical = acl.isDenied client := by
  cases client with
  | v4 a => rfl
  | v6 a =>
      cases mapped : a.mapped? with
      | none => rw [IpAddress.canonical, mapped]; rfl
      | some b =>
          rw [IpAddress.canonical, isDenied.eq_2, mapped]
          rfl

end AccessList

/-! ### What is read of the text of an address -/

theorem Ipv4.parse?_of_notMem {text : List Char} (undotted : '.' ∉ text) : parse? text = none := by
  rw [parse?, splitAt_of_notMem undotted]

namespace Ipv6

/-- A compressed address has no dot, so it is not taken for an IPv4 address. -/
theorem dot_notMem_compressed (a : Ipv6) : '.' ∉ a.compressed.toList := by
  intro member
  rcases a.isChar_of_mem_compressed '.' member with colon | ⟨n, small, digit⟩
  · exact absurd colon (by decide)
  · exact (by decide : ∀ n < 16, '.' ≠ Nat.digitChar n) n small digit

/-- What stands before the first colon of an address of version six is none of version four. -/
theorem parse?_takeWhile_text (a : Ipv6) :
    Ipv4.parse? (a.text.toList.takeWhile (· ≠ ':')) = none := by
  rw [text]
  cases a.mapped? with
  | some mapped =>
      change Ipv4.parse? (("::ffff:" ++ mapped.text).toList.takeWhile _) = none
      rw [String.toList_append]
      rfl
  | none =>
      refine Ipv4.parse?_of_notMem fun member => a.dot_notMem_compressed ?_
      exact (List.takeWhile_sublist _).subset member

end Ipv6

/-! ### Operators and requests -/

namespace Table

variable {t : Table} {client other : IpAddress}

/-- A client is denied just if the node is not stopping and the list denies the client. -/
theorem checkClient_eq_denied_iff :
    t.checkClient client = .error (.denied client) ↔
      t.stopping = false ∧ t.acl.isDenied client = true := by
  rw [checkClient]
  cases t.stopping <;> cases t.acl.isDenied client <;> simp

/-- A refusal is for a denied client just if this is its reason. -/
theorem refuse_eq_denied_iff {error : DispatchError} :
    (t.refuse error).1.admission = .refused (.denied client) ↔ error = .denied client :=
  ⟨Admission.refused.inj, congrArg Admission.refused⟩

/-- A request that comes to a pool is not refused for its client. -/
theorem take_ne_denied (t : Table) (p : Pool) (ticket : Nat) (path text : String) (instant : Nat) :
    (t.take p ticket path text instant).1.admission ≠ .refused (.denied client) :=
  fun refused => not_early_of_take refused trivial

/-- A request that has been routed is refused for its client if and only if the node is not stopping
and the client is blocked. -/
theorem dispatchTo_eq_denied_iff (p : Pool) (ticket : Nat) (path : String) (instant : Nat) :
    (t.dispatchTo p ticket path client instant).1.admission = .refused (.denied client) ↔
      t.stopping = false ∧ t.acl.isDenied client = true := by
  rw [← checkClient_eq_denied_iff, dispatchTo]
  cases t.checkClient client with
  | error error => exact refuse_eq_denied_iff.trans (by simp)
  | ok done => exact iff_of_false (take_ne_denied t p ticket path client.text instant) (by simp)

/-- A request for a path is refused for its client if and only if there also is a pool for the
path. -/
theorem dispatch_eq_denied_iff (ticket : Nat) (path : String) (instant : Nat) :
    (t.dispatch ticket path client instant).1.admission = .refused (.denied client) ↔
      (t.router.route path).isSome = true ∧ t.stopping = false ∧ t.acl.isDenied client = true := by
  rw [← checkClient_eq_denied_iff, dispatch, resolve]
  cases t.router.route path with
  | none => exact refuse_eq_denied_iff.trans (by simp)
  | some m =>
      cases t.checkClient client with
      | error error => exact refuse_eq_denied_iff.trans (by simp)
      | ok done =>
          exact iff_of_false (take_ne_denied t m.target ticket m.path client.text instant) (by simp)

end Table

namespace ControlPlane

variable {c : ControlPlane}

theorem aclLookup_v4 (c : ControlPlane) (a : Ipv4) :
    c.aclLookup (.v4 a) = c.table.acl.lookup a := by
  rw [aclLookup, IpAddress.text, (c.table.acl.search_text a "").1]

/-- An IPv6 address is never found, since its text is not read as an IPv4 address. -/
theorem aclLookup_v6 (c : ControlPlane) (a : Ipv6) : c.aclLookup (.v6 a) = none := by
  rw [aclLookup, AccessList.search, IpAddress.text, a.parse?_takeWhile_text]

/-- An operator who asks for the address that a client stands for finds a tag if and only if the
client is blocked, which is when its requests are refused; an operator who asks for an address that
stands for another finds nothing. -/
theorem lookup_agrees (c : ControlPlane) (client : IpAddress) :
    (c.aclLookup client.canonical).isSome = c.table.acl.isDenied client ∧
    (client.canonical ≠ client → c.aclLookup client = none) ∧
    (∀ ticket path instant,
      (c.table.dispatch ticket path client instant).1.admission = .refused (.denied client) ↔
        (c.table.router.route path).isSome = true ∧ c.table.stopping = false ∧
          (c.aclLookup client.canonical).isSome = true) ∧
    ∀ p ticket path instant,
      (c.table.dispatchTo p ticket path client instant).1.admission = .refused (.denied client) ↔
        c.table.stopping = false ∧ (c.aclLookup client.canonical).isSome = true := by
  have agrees : (c.aclLookup client.canonical).isSome = c.table.acl.isDenied client := by
    rw [← c.table.acl.isDenied_canonical]
    cases client with
    | v4 a => rw [IpAddress.canonical, aclLookup_v4, AccessList.isDenied]
    | v6 a =>
        cases mapped : a.mapped? with
        | none =>
            rw [IpAddress.canonical, mapped, Option.map_none, Option.getD_none, aclLookup_v6,
              AccessList.isDenied, mapped]
            rfl
        | some b =>
            rw [IpAddress.canonical, mapped, Option.map_some, Option.getD_some, aclLookup_v4,
              AccessList.isDenied]
  refine ⟨agrees, fun stands => ?_, fun ticket path instant => ?_, fun p ticket path instant => ?_⟩
  · cases client with
    | v4 a => exact absurd rfl stands
    | v6 a => exact c.aclLookup_v6 a
  · rw [agrees, Table.dispatch_eq_denied_iff]
  · rw [agrees, Table.dispatchTo_eq_denied_iff]

/-- A node that serves a pattern and blocks a network. -/
def blocking : ControlPlane :=
  let served : Location := ⟨"/a", ["http://[::1]:80"], "round-robin"⟩
  let serving : ControlPlane := (({} : ControlPlane).write {} (.createPool served)).2
  (serving.write {} (.mutateAcl .insert "10.0.0.0/8")).2

/-- A client that stands for one in that network. -/
def mappedClient : IpAddress := .v6 (.ofMapped (.ofOctets 10 1 1 1))

/-- A client is refused for its address, and yet no tag is found for it. -/
theorem blocked_client_not_found :
    blocking.table.acl.isDenied mappedClient = true ∧
      (blocking.table.dispatch 0 "/a" mappedClient 0).1.admission =
        .refused (.denied mappedClient) ∧
      blocking.aclLookup mappedClient = none := by
  have refused : (blocking.table.router.route "/a").isSome = true ∧
      blocking.table.stopping = false ∧ blocking.table.acl.isDenied mappedClient = true := by
    decide +kernel
  exact ⟨refused.2.2, (Table.dispatch_eq_denied_iff 0 "/a" 0).2 refused,
    blocking.aclLookup_v6 (.ofMapped (.ofOctets 10 1 1 1))⟩

end ControlPlane

end ClusterGateway
