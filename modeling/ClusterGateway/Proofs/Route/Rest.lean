import ClusterGateway.Proofs.Route.LongestPrefix
import ClusterGateway.Proofs.Route.Runs
import ClusterGateway.Route.Dispatch

/-! # What is left of a path

A pattern that claims a path leaves the rest of it. A path that is the pattern leaves the root; any
other path is the pattern and what it leaves, one after the other. The root pattern leaves a path as
it is, except that it takes the first of two slashes at its front: such a path can be cut behind its
first slash, and the cut is tried before the root is.
-/

namespace ClusterGateway

namespace Pattern

/-- A path begins with two slashes. -/
def Doubled (path : String) : Prop := ['/', '/'] <+: path.toList

instance (path : String) : Decidable (Doubled path) := inferInstanceAs (Decidable (_ <+: _))

/-- What a pattern leaves of a path that it claims. -/
structure Leaves (pattern path rest : String) : Prop where
  /-- The root leaves a path as it is, unless that begins with two slashes. -/
  root : pattern = "/" → ¬ Doubled path → rest = path
  /-- Of two slashes at the front of a path the root takes the first. -/
  doubled : pattern = "/" → Doubled path → "/" ++ rest = path
  /-- Nothing but a slash is left of a path that is a pattern. -/
  whole : pattern ≠ "/" → path = pattern → rest = "/"
  /-- Of any other path that is left which follows the pattern. -/
  behind : pattern ≠ "/" → path ≠ pattern → pattern ++ rest = path
  /-- What is left is a path again. -/
  slashed : rest.toList.head? = some '/'

end Pattern

namespace Router

variable {α : Type} {r : Router α} {path : String} {m : RouteMatch α}

/-! ### The three ways to a match -/

/-- The parts of a cut make up the path, and the later part starts with a slash. -/
theorem matchCut_parts {cut : List Char × List Char} (member : cut ∈ cuts [] path.toList)
    (found : r.matchCut cut = some m) :
    m.pattern ++ m.path = path ∧ m.path.toList.head? = some '/' := by
  obtain ⟨front, rest⟩ := cut
  obtain ⟨passed, whole, same, slashed, -⟩ := mem_cuts.1 member
  obtain rfl : front = passed := same
  obtain ⟨target, -, rfl⟩ := Option.map_eq_some_iff.1 found
  dsimp only
  refine ⟨?_, by rwa [String.toList_ofList]⟩
  rw [← String.ofList_append, ← whole, String.ofList_toList]

/-- A path with two slashes at its front can be cut behind the first. -/
theorem root_cut_of_doubled (doubled : Pattern.Doubled path) :
    ∃ rest, ("/".toList, rest) ∈ cuts [] path.toList :=
  (exists_cut_iff (by decide)).2 doubled

/-- If the root claims a path in the end, no cut has been tried for it, so the path does not begin
with two slashes. -/
theorem not_doubled_of_matchRoot (vain : (cuts [] path.toList).findSome? r.matchCut = none)
    (found : r.matchRoot path = some m) : ¬ Pattern.Doubled path := by
  intro doubled
  obtain ⟨rest, member⟩ := root_cut_of_doubled doubled
  have unknown := get?_of_matchCut (List.findSome?_eq_none_iff.1 vain _ member)
  rw [matchRoot, unknown] at found
  exact absurd found (by simp)

/-- A pattern that is the whole path leaves the root of it. -/
theorem leaves_of_matchWhole (found : r.matchWhole path = some m) :
    Pattern.Leaves m.pattern path m.path := by
  obtain ⟨other, same, -⟩ := matchWhole_eq_some found
  have rest : m.path = "/" := by
    rw [matchWhole, if_neg other] at found
    obtain ⟨target, -, rfl⟩ := Option.map_eq_some_iff.1 found
    rfl
  rw [same, rest]
  exact ⟨fun root => absurd root other, fun root => absurd root other, fun _ _ => rfl,
    fun _ different => absurd rfl different, rfl⟩

/-- A pattern at which the path is cut leaves what follows the cut. -/
theorem leaves_of_matchCut {cut : List Char × List Char} (member : cut ∈ cuts [] path.toList)
    (found : r.matchCut cut = some m) : Pattern.Leaves m.pattern path m.path := by
  obtain ⟨whole, slashed⟩ := matchCut_parts member found
  obtain ⟨rest, chars⟩ := List.head?_eq_some_iff.1 slashed
  refine ⟨fun root single => ?_, fun root _ => root ▸ whole, fun _ same => ?_,
    fun _ _ => whole, slashed⟩
  · -- The cut shows two slashes: the root and the one that the rest starts with.
    refine absurd ⟨rest, ?_⟩ single
    rw [← whole, root, String.toList_append, chars]
    rfl
  · have longer := congrArg String.toList (whole.trans same)
    rw [String.toList_append, List.append_right_eq_self, chars] at longer
    exact absurd longer (by simp)

/-- The root leaves a path as it is. -/
theorem leaves_of_matchRoot (slashed : path.toList.head? = some '/')
    (single : ¬ Pattern.Doubled path) (found : r.matchRoot path = some m) :
    Pattern.Leaves m.pattern path m.path := by
  obtain ⟨target, -, rfl⟩ := Option.map_eq_some_iff.1 found
  exact ⟨fun _ _ => rfl, fun _ doubled => absurd doubled single, fun other => absurd rfl other,
    fun other => absurd rfl other, slashed⟩

/-- Whichever way a router finds a pattern, the target gets what the pattern leaves. -/
theorem leaves_of_route (slashed : path.toList.head? = some '/') (found : r.route path = some m) :
    Pattern.Leaves m.pattern path m.path := by
  rw [route, Option.or_eq_some_iff, Option.or_eq_some_iff] at found
  rcases found with whole | ⟨-, cut | ⟨vain, root⟩⟩
  · exact leaves_of_matchWhole whole
  · obtain ⟨front, member, matched⟩ := List.exists_of_findSome?_eq_some cut
    exact leaves_of_matchCut member matched
  · exact leaves_of_matchRoot slashed (not_doubled_of_matchRoot vain root) root

/-- What is found for a path is the target of the pattern that is found. -/
theorem get?_of_route (found : r.route path = some m) : r.get? m.pattern = some m.target := by
  rw [route, Option.or_eq_some_iff, Option.or_eq_some_iff] at found
  rcases found with whole | ⟨-, cut | ⟨-, root⟩⟩
  · obtain ⟨-, same, known⟩ := matchWhole_eq_some whole
    rwa [same]
  · obtain ⟨front, -, matched⟩ := List.exists_of_findSome?_eq_some cut
    exact (matchCut_eq_some matched).2
  · obtain ⟨target, known, rfl⟩ := Option.map_eq_some_iff.1 root
    exact known

end Router

/-! ### Requests -/

namespace Table

variable {t : Table} {path rest : String} {client : IpAddress} {p : Pool}

/-- The pool for a request gets what its pattern leaves of the path. -/
theorem Sound.leaves_of_resolve (sound : t.Sound) (slashed : path.toList.head? = some '/')
    (resolved : t.resolve path client = .ok (p, rest)) : Pattern.Leaves p.pattern path rest := by
  rw [resolve] at resolved
  split at resolved
  · exact absurd resolved (by simp)
  · next m found =>
      cases admitted : t.checkClient client with
      | error error =>
          rw [admitted] at resolved
          exact absurd resolved (by simp [Except.map])
      | ok _ =>
          rw [admitted] at resolved
          obtain ⟨rfl, rfl⟩ := Prod.mk.inj (Except.ok.inj resolved)
          have named := (sound.coherent.pools _ _ (Router.get?_of_route found)).1
          rw [named]
          exact Router.leaves_of_route slashed found

end Table

namespace Router

/-- What a router gives to the target of a path is what the pattern leaves of it; the same goes for
requests to a table, whatever has been done to that. -/
theorem path_left_by_pattern {α : Type} :
    (∀ (r : Router α) (path : String) (m : RouteMatch α), path.toList.head? = some '/' →
      r.route path = some m → Pattern.Leaves m.pattern path m.path) ∧
    ∀ (settings : PoolSettings) (hostWait : Nat) (acl : AccessList) (operations : List Operation)
      (path : String) (client : IpAddress) (p : Pool) (rest : String),
      path.toList.head? = some '/' →
      (({ settings, hostWait, acl } : Table).run operations).resolve path client =
        .ok (p, rest) → Pattern.Leaves p.pattern path rest := by
  refine ⟨fun r path m slashed found => leaves_of_route slashed found, ?_⟩
  intro settings hostWait acl operations path client p rest slashed resolved
  have sound := (Table.sound_empty settings hostWait acl).run operations
  exact sound.leaves_of_resolve slashed resolved

/-- What is left of a path behind a nested pattern, and of one with two slashes at its front behind
the root. -/
theorem path_left_by_pattern_nestedCalls :
    (run {} nestedCalls).route "/é/b//c/" = some ⟨"/é", 4, "/b//c/"⟩ ∧
      "/é" ++ "/b//c/" = "/é/b//c/" ∧
      (run {} nestedCalls).route "//é" = some ⟨"/", 0, "/é"⟩ ∧ "/" ++ "/é" = "//é" := by
  have nested : (run {} nestedCalls).route "/é/b//c/" = some ⟨"/é", 4, "/b//c/"⟩ := by
    decide +kernel
  have doubled : (run {} nestedCalls).route "//é" = some ⟨"/", 0, "/é"⟩ := by decide +kernel
  exact ⟨nested, (path_left_by_pattern.1 _ _ _ (by decide) nested).behind (by decide) (by decide),
    doubled, (path_left_by_pattern.1 _ _ _ (by decide) doubled).doubled rfl (by decide)⟩

/-- The root does not leave a path with two slashes at its front as it is. -/
theorem root_takes_first_slash :
    (({} : Router Nat).insert "/" 0).Checked ∧ "//x".toList.head? = some '/' ∧
      (({} : Router Nat).insert "/" 0).route "//x" = some ⟨"/", 0, "/x"⟩ ∧ "/x" ≠ "//x" := by
  refine ⟨?_, by decide, by decide +kernel, by decide⟩
  have valid : (Call.insert "/" 0 : Call Nat).Checked := by decide +kernel
  exact checked_empty.perform valid

end Router

end ClusterGateway
