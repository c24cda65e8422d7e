import ClusterGateway.Location.Pattern
import ClusterGateway.Proofs.Dictionary
import ClusterGateway.Route.Router
import Mathlib.Data.List.Induction

/-! # The longest pattern claims a path

A pattern claims the path that it is, and every path that goes on behind it with a slash; the root
claims all paths. Whatever patterns have come and gone, a router finds a target if and only if some
pattern with a target claims the path, and it finds the target that was last given to the longest of
these. The cuts of a path are in descending order of their front parts, so the first of them that is
a pattern is the longest.
-/

namespace ClusterGateway

namespace Pattern

/-- A pattern claims a path. -/
def Claims (pattern path : String) : Prop :=
  pattern = "/" ∨ pattern = path ∨ pattern.toList ++ ['/'] <+: path.toList

instance (pattern path : String) : Decidable (Claims pattern path) :=
  inferInstanceAs (Decidable (_ ∨ _ ∨ _))

/-- A pattern starts with a slash. -/
theorem head?_of_check {pattern : String} (valid : check pattern = .ok ()) :
    pattern.toList.head? = some '/' := by
  rw [check] at valid
  split at valid
  next => exact absurd valid (by simp)
  next slashed => exact not_not.1 slashed

/-- Every pattern but the root is longer than the root. -/
theorem length_root_lt {pattern : String} (valid : check pattern = .ok ()) (other : pattern ≠ "/") :
    "/".length < pattern.length := by
  obtain ⟨rest, chars⟩ := List.head?_eq_some_iff.1 (head?_of_check valid)
  have more : rest ≠ [] := by
    rintro rfl
    exact other (String.toList_inj.1 chars)
  rw [← String.length_toList (s := pattern), chars, List.length_cons]
  exact Nat.succ_lt_succ (List.length_pos_of_ne_nil more)

end Pattern

namespace Router

variable {α : Type} {r : Router α} {path : String} {m : RouteMatch α}

/-! ### Cuts -/

/-- The cuts of a path are those before a slash behind its first character. -/
theorem mem_cuts {before text front rest : List Char} :
    (front, rest) ∈ cuts before text ↔
      ∃ passed, text = passed ++ rest ∧ front = before.reverse ++ passed ∧
        rest.head? = some '/' ∧ front ≠ [] := by
  induction text generalizing before with
  | nil =>
      refine ⟨fun member => absurd member List.not_mem_nil, ?_⟩
      rintro ⟨passed, whole, -, slashed, -⟩
      rw [(List.append_eq_nil_iff.1 whole.symm).2] at slashed
      exact absurd slashed (by simp)
  | cons c text ih =>
      have later : (front, rest) ∈ cuts (c :: before) text ↔
          ∃ passed, c :: text = c :: passed ++ rest ∧ front = before.reverse ++ c :: passed ∧
            rest.head? = some '/' ∧ front ≠ [] := by
        simp [ih]
      -- A cut is made right here, or behind at least one more character.
      have here : (front, rest) ∈ cuts before (c :: text) ↔
          (front, rest) ∈ cuts (c :: before) text ∨
            (c = '/' ∧ before ≠ []) ∧ front = before.reverse ∧ rest = c :: text := by
        simp only [cuts]
        split
        · next slashed => simp [slashed]
        · next whole => simp [whole]
      rw [here, later]
      constructor
      · rintro (⟨passed, whole⟩ | ⟨⟨rfl, begun⟩, rfl, rfl⟩)
        · exact ⟨c :: passed, whole⟩
        · exact ⟨[], rfl, (List.append_nil _).symm, rfl, by simpa using begun⟩
      · rintro ⟨passed, whole, rfl, slashed, begun⟩
        cases passed with
        | nil =>
            obtain rfl : c :: text = rest := whole
            refine Or.inr ⟨⟨Option.some.inj slashed, by simpa using begun⟩, ?_, rfl⟩
            exact List.append_nil _
        | cons d passed =>
            obtain ⟨rfl, same⟩ := List.cons.inj whole
            exact Or.inl ⟨passed, congrArg (c :: ·) same, rfl, slashed, begun⟩

/-- Later cuts have shorter front parts. -/
theorem pairwise_cuts (before text : List Char) :
    (cuts before text).Pairwise fun a b => b.1.length < a.1.length := by
  induction text generalizing before with
  | nil => exact List.Pairwise.nil
  | cons c text ih =>
      simp only [cuts]
      split
      · refine List.pairwise_append.2 ⟨ih _, List.pairwise_singleton _ _, ?_⟩
        rintro ⟨front, rest⟩ member _ single
        obtain rfl := List.mem_singleton.1 single
        obtain ⟨passed, -, rfl, -, -⟩ := mem_cuts.1 member
        simp only [List.reverse_cons, List.length_append, List.length_singleton]
        omega
      · exact ih _

/-- A pattern that the path goes on behind is the front part of a cut. -/
theorem exists_cut_iff {pattern : String} (begun : pattern.toList ≠ []) :
    (∃ rest, (pattern.toList, rest) ∈ cuts [] path.toList) ↔
      pattern.toList ++ ['/'] <+: path.toList := by
  constructor
  · rintro ⟨rest, member⟩
    obtain ⟨passed, whole, front, slashed, -⟩ := mem_cuts.1 member
    obtain ⟨tail, rfl⟩ := List.head?_eq_some_iff.1 slashed
    obtain rfl : pattern.toList = passed := front
    exact ⟨tail, by rw [whole, List.append_assoc]; rfl⟩
  · rintro ⟨tail, whole⟩
    refine ⟨'/' :: tail, mem_cuts.2 ⟨pattern.toList, ?_, rfl, rfl, begun⟩⟩
    rw [← whole, List.append_assoc]
    rfl

/-! ### What is found for a path -/

/-- Every pattern of the router is one. -/
def Checked (r : Router α) : Prop :=
  ∀ pattern target, r.get? pattern = some target → Pattern.check pattern = .ok ()

/-- No registered pattern is empty. -/
theorem Checked.ne_nil (checked : r.Checked) {pattern : String} {target : α}
    (found : r.get? pattern = some target) : pattern.toList ≠ [] := fun bare => by
  have first := Pattern.head?_of_check (checked pattern target found)
  rw [bare] at first
  exact absurd first (by simp)

/-- A whole path is found if it is a registered pattern, and not the root. -/
theorem matchWhole_eq_some (found : r.matchWhole path = some m) :
    path ≠ "/" ∧ m.pattern = path ∧ r.get? path = some m.target := by
  rw [matchWhole] at found
  split at found
  · exact absurd found (by simp)
  · next other =>
      obtain ⟨target, known, rfl⟩ := Option.map_eq_some_iff.1 found
      exact ⟨other, rfl, known⟩

/-- A whole path is missed if it is the root or is not registered. -/
theorem matchWhole_eq_none (missed : r.matchWhole path = none) :
    path = "/" ∨ r.get? path = none := by
  rw [matchWhole] at missed
  split at missed
  · next root => exact Or.inl root
  · exact Or.inr (Option.map_eq_none_iff.1 missed)

/-- A cut is found if its front part is a registered pattern. -/
theorem matchCut_eq_some {cut : List Char × List Char} (found : r.matchCut cut = some m) :
    m.pattern.toList = cut.1 ∧ r.get? m.pattern = some m.target := by
  obtain ⟨target, known, rfl⟩ := Option.map_eq_some_iff.1 found
  exact ⟨String.toList_ofList, known⟩

/-- A pattern with a target is not the front part of a cut that was tried in vain. -/
theorem get?_of_matchCut {pattern : String} {rest : List Char}
    (missed : r.matchCut (pattern.toList, rest) = none) : r.get? pattern = none := by
  have known := Option.map_eq_none_iff.1 missed
  rwa [String.ofList_toList] at known

/-- A router finds nothing only for a path that no pattern with a target claims. -/
theorem Checked.get?_of_route_eq_none (checked : r.Checked) (missed : r.route path = none)
    {pattern : String} (claims : Pattern.Claims pattern path) : r.get? pattern = none := by
  rw [route, Option.or_eq_none_iff, Option.or_eq_none_iff] at missed
  obtain ⟨whole, cut, root⟩ := missed
  rw [matchRoot, Option.map_eq_none_iff] at root
  rcases claims with rfl | rfl | front
  · exact root
  · rcases matchWhole_eq_none whole with rfl | unknown
    · exact root
    · exact unknown
  · cases known : r.get? pattern with
    | none => rfl
    | some target =>
        obtain ⟨rest, member⟩ := (exists_cut_iff (checked.ne_nil known)).2 front
        have unknown := get?_of_matchCut (List.findSome?_eq_none_iff.1 cut _ member)
        rw [known] at unknown
        exact absurd unknown (by simp)

/-- A router finds a pattern with its target that claims the path, and every other pattern with a
target that claims the path is shorter. -/
theorem Checked.longest (checked : r.Checked) (found : r.route path = some m) :
    r.get? m.pattern = some m.target ∧ Pattern.Claims m.pattern path ∧
      ∀ pattern target, r.get? pattern = some target → Pattern.Claims pattern path →
        pattern ≠ m.pattern → pattern.length < m.pattern.length := by
  rw [route, Option.or_eq_some_iff, Option.or_eq_some_iff] at found
  rcases found with whole | ⟨missed, cut | ⟨untaken, root⟩⟩
  · obtain ⟨other, same, known⟩ := matchWhole_eq_some whole
    rw [same]
    refine ⟨known, Or.inr (Or.inl rfl), fun pattern target _ claims different => ?_⟩
    rcases claims with rfl | rfl | front
    · exact Pattern.length_root_lt (checked _ _ known) other
    · exact absurd rfl different
    · have shorter := front.length_le
      rw [List.length_append, String.length_toList, String.length_toList] at shorter
      exact shorter
  · obtain ⟨earlier, ⟨front, rest⟩, later, split, matched, vain⟩ :=
      List.findSome?_eq_some_iff.1 cut
    obtain ⟨chars, known⟩ := matchCut_eq_some matched
    have member : (m.pattern.toList, rest) ∈ cuts [] path.toList := by
      rw [split, chars]
      exact List.mem_append_right _ List.mem_cons_self
    have begun := checked.ne_nil known
    refine ⟨known, Or.inr (Or.inr ((exists_cut_iff begun).1 ⟨rest, member⟩)), ?_⟩
    intro pattern target present claims different
    rcases claims with rfl | rfl | ahead
    · exact Pattern.length_root_lt (checked _ _ known) (Ne.symm different)
    · rcases matchWhole_eq_none missed with rfl | unknown
      · exact Pattern.length_root_lt (checked _ _ known) (Ne.symm different)
      · rw [present] at unknown
        exact absurd unknown (by simp)
    · -- The pattern is a cut too; those before the one that was taken were tried in vain.
      obtain ⟨tail, cutThere⟩ := (exists_cut_iff (checked.ne_nil present)).2 ahead
      have ordered := pairwise_cuts [] path.toList
      rw [split] at cutThere ordered
      rcases List.mem_append.1 cutThere with before | behind
      · rw [get?_of_matchCut (vain _ before)] at present
        exact absurd present (by simp)
      · rcases List.mem_cons.1 behind with same | after
        · have equal : pattern.toList = m.pattern.toList :=
            (congrArg Prod.fst same).trans chars.symm
          exact absurd (String.toList_inj.1 equal) different
        · have shorter := (List.pairwise_cons.1 (List.pairwise_append.1 ordered).2.1).1 _ after
          rwa [← chars, String.length_toList, String.length_toList] at shorter
  · obtain ⟨target, known, rfl⟩ := Option.map_eq_some_iff.1 root
    refine ⟨known, Or.inl rfl, fun pattern target present claims different => ?_⟩
    rcases claims with rfl | rfl | ahead
    · exact absurd rfl different
    · rcases matchWhole_eq_none missed with rfl | unknown
      · exact absurd rfl different
      · rw [present] at unknown
        exact absurd unknown (by simp)
    · obtain ⟨rest, member⟩ := (exists_cut_iff (checked.ne_nil present)).2 ahead
      rw [get?_of_matchCut (List.findSome?_eq_none_iff.1 untaken _ member)] at present
      exact absurd present (by simp)

/-! ### Patterns that come and go -/

/-- A call that changes the patterns of a router. -/
inductive Call (α : Type) where
  | insert (pattern : String) (target : α)
  | erase (pattern : String)
deriving DecidableEq, Repr

namespace Call

/-- The pattern that a call is about. -/
def pattern : Call α → String
  | insert pattern _ => pattern
  | erase pattern => pattern

/-- The target that a call gives to its pattern, if it gives one. -/
def target? : Call α → Option α
  | insert _ target => some target
  | erase _ => none

/-- What is inserted is a pattern. -/
def Checked : Call α → Prop
  | insert pattern _ => Pattern.check pattern = .ok ()
  | erase _ => True

instance (call : Call α) : Decidable call.Checked :=
  match call with
  | insert pattern _ => inferInstanceAs (Decidable (Pattern.check pattern = .ok ()))
  | erase _ => inferInstanceAs (Decidable True)

end Call

def perform (r : Router α) : Call α → Router α
  | .insert pattern target => r.insert pattern target
  | .erase pattern => r.erase pattern

/-- Makes calls one after another. -/
def run (r : Router α) (calls : List (Call α)) : Router α := calls.foldl perform r

/-- The target that was last given to a pattern and was not taken away since. -/
def lastTarget? (calls : List (Call α)) (pattern : String) : Option α :=
  (calls.filter (·.pattern = pattern)).getLast?.bind Call.target?

/-- A call changes what stands under its own pattern, and under no other one. -/
theorem get?_perform (r : Router α) (call : Call α) (pattern : String) :
    (r.perform call).get? pattern =
      if call.pattern = pattern then call.target? else r.get? pattern := by
  cases call with
  | insert key target => exact Dict.get?_insert _ _ _ _
  | erase key => exact Dict.get?_erase _ _ _

/-- After some calls a pattern has the target that it was last given. -/
theorem get?_run (calls : List (Call α)) (pattern : String) :
    (run {} calls).get? pattern = lastTarget? calls pattern := by
  induction calls using List.reverseRecOn with
  | nil => rfl
  | append_singleton calls call ih =>
      have last : run {} (calls ++ [call]) = (run {} calls).perform call :=
        List.foldl_concat _ _ _ _
      rw [last, get?_perform, lastTarget?, List.filter_append]
      by_cases same : call.pattern = pattern
      · simp [same]
      · simp [same, ih, lastTarget?]

/-- A router with checked patterns has only such after a call with a checked pattern. -/
theorem Checked.perform (checked : r.Checked) {call : Call α} (valid : call.Checked) :
    (r.perform call).Checked := by
  intro pattern target known
  rw [get?_perform] at known
  split at known
  · next same =>
      subst same
      cases call with
      | insert key given => exact valid
      | erase key => exact absurd known (by simp [Call.target?])
  · exact checked pattern target known

theorem checked_empty : ({} : Router α).Checked :=
  fun _ _ known => absurd known (by simp [get?])

/-- A router has only checked patterns after any calls with checked patterns. -/
theorem Checked.run (checked : r.Checked) {calls : List (Call α)}
    (valid : ∀ call ∈ calls, call.Checked) : (r.run calls).Checked := by
  induction calls generalizing r with
  | nil => exact checked
  | cons call calls ih =>
      exact ih (checked.perform (valid call List.mem_cons_self))
        fun other member => valid other (List.mem_cons_of_mem call member)

/-- After any patterns have come and gone, a router finds nothing for a path exactly if no pattern
that has a target claims it; otherwise it finds the longest of those that do, with the target that
was last given to it. -/
theorem route_longest {calls : List (Call α)} (valid : ∀ call ∈ calls, call.Checked)
    (path : String) :
    ((run {} calls).route path = none ↔
      ∀ pattern, Pattern.Claims pattern path → lastTarget? calls pattern = none) ∧
    ∀ m, (run {} calls).route path = some m →
      lastTarget? calls m.pattern = some m.target ∧ Pattern.Claims m.pattern path ∧
        ∀ pattern target, lastTarget? calls pattern = some target →
          Pattern.Claims pattern path → pattern ≠ m.pattern →
            pattern.length < m.pattern.length := by
  have checked : (run {} calls).Checked := checked_empty.run valid
  simp only [← get?_run]
  refine ⟨⟨fun missed pattern => checked.get?_of_route_eq_none missed, fun unclaimed => ?_⟩,
    fun m => checked.longest⟩
  rw [Option.eq_none_iff_forall_ne_some]
  intro m found
  obtain ⟨known, claims, -⟩ := checked.longest found
  rw [unclaimed m.pattern claims] at known
  exact absurd known (by simp)

/-- Nested patterns, one of which was taken out and one of which was given another target. -/
def nestedCalls : List (Call Nat) :=
  [.insert "/" 0, .insert "/é" 1, .insert "/é/b" 2, .insert "/é/b/c" 3, .erase "/é/b",
   .insert "/é" 4]

/-- The longest pattern that is left claims a path with repeated slashes. -/
theorem route_longest_nestedCalls :
    (∀ call ∈ nestedCalls, call.Checked) ∧
      (run {} nestedCalls).route "/é/b//c/" = some ⟨"/é", 4, "/b//c/"⟩ ∧
      ∀ pattern target, lastTarget? nestedCalls pattern = some target →
        Pattern.Claims pattern "/é/b//c/" → pattern ≠ "/é" → pattern.length < "/é".length := by
  have valid : ∀ call ∈ nestedCalls, call.Checked := by decide +kernel
  have found : (run {} nestedCalls).route "/é/b//c/" = some ⟨"/é", 4, "/b//c/"⟩ := by
    decide +kernel
  exact ⟨valid, found, ((route_longest valid _).2 _ found).2.2⟩

end Router

end ClusterGateway
