import ClusterGateway.Proofs.Route.LongestPrefix
import Mathlib.Data.List.Induction
import Mathlib.Data.List.TakeWhile

/-! # What a pattern is made of

The three checks on a pattern describe a small grammar: the root, or one segment after another, each
of which is a slash with a name behind it. A router finds every pattern that it keeps, for the path
that is the pattern and for those that go on behind it with one more name, as the last slash of such
a path is where it is cut first.
-/

namespace ClusterGateway

namespace Pattern

/-- A slash with a name behind it. -/
structure Segment where
  name : List Char
  named : name ≠ []
  slashless : '/' ∉ name

namespace Segment

def text (s : Segment) : List Char := '/' :: s.name

end Segment

/-- A pattern is the root, or one segment or more, one behind the other. -/
def Spelled (pattern : String) : Prop :=
  pattern = "/" ∨
    ∃ segments : List Segment, segments ≠ [] ∧ pattern.toList = segments.flatMap Segment.text

/-! ### Empty segments -/

/-- A character that is no slash does not make a segment empty. -/
theorem hasEmptySegment_cons {c : Char} (other : c ≠ '/') (rest : List Char) :
    hasEmptySegment (c :: rest) = hasEmptySegment rest := by
  rw [hasEmptySegment]
  exact fun _ same => absurd same other

/-- A name in front of a text makes no segment of it empty. -/
theorem hasEmptySegment_append {name : List Char} (slashless : '/' ∉ name) (rest : List Char) :
    hasEmptySegment (name ++ rest) = hasEmptySegment rest := by
  induction name with
  | nil => rfl
  | cons c name ih =>
      rw [List.mem_cons, not_or] at slashless
      rw [List.cons_append, hasEmptySegment_cons (Ne.symm slashless.1), ih slashless.2]

/-- A slash before a character that is none does not make an empty segment. -/
theorem hasEmptySegment_slash {c : Char} (other : c ≠ '/') (rest : List Char) :
    hasEmptySegment ('/' :: c :: rest) = hasEmptySegment (c :: rest) := by
  rw [hasEmptySegment]
  simpa using other

theorem Segment.hasEmptySegment_text_append (s : Segment) (rest : List Char) :
    hasEmptySegment (s.text ++ rest) = hasEmptySegment rest := by
  obtain ⟨name, named, slashless⟩ := s
  cases name with
  | nil => exact absurd rfl named
  | cons c name =>
      have other : c ≠ '/' := fun same => slashless (same ▸ List.mem_cons_self)
      exact (hasEmptySegment_slash other _).trans (hasEmptySegment_append slashless rest)

/-- A row of segments has no empty segment. -/
theorem hasEmptySegment_flatMap (segments : List Segment) :
    hasEmptySegment (segments.flatMap Segment.text) = false := by
  induction segments with
  | nil => rfl
  | cons s segments ih => rw [List.flatMap_cons, s.hasEmptySegment_text_append, ih]

/-- The last character of some segments is one of a name. -/
theorem getLast?_flatMap {segments : List Segment} :
    (segments.flatMap Segment.text).getLast? ≠ some '/' := by
  cases segments using List.reverseRecOn with
  | nil => simp
  | append_singleton segments s =>
      obtain ⟨name, named, slashless⟩ := s
      have last : (Segment.text ⟨name, named, slashless⟩).getLast? = name.getLast? := by
        rw [Segment.text, List.getLast?_cons_of_ne_nil named]
      rw [List.flatMap_append, List.flatMap_singleton,
        List.getLast?_append_of_ne_nil _ (by simp [Segment.text]), last]
      exact fun slash => slashless (List.mem_of_getLast? slash)

/-- A text goes on as a name until its first slash, if it has one. -/
theorem exists_name (text : List Char) :
    ∃ name later, text = name ++ later ∧ '/' ∉ name ∧ ∀ c ∈ later.head?, c = '/' := by
  refine ⟨text.takeWhile (· ≠ '/'), text.dropWhile (· ≠ '/'),
    List.takeWhile_append_dropWhile.symm, fun slash => ?_, fun c first => ?_⟩
  · simpa using List.mem_takeWhile_imp slash
  · have stop := List.head?_dropWhile_not (· ≠ '/') text
    rw [Option.mem_def.1 first] at stop
    simpa using stop

/-- What starts with a slash, has no two slashes side by side and ends in no slash is made of
segments. -/
theorem exists_segments {rest : List Char} (nonempty : rest ≠ [])
    (closed : rest.getLast? ≠ some '/') (apart : hasEmptySegment ('/' :: rest) = false) :
    ∃ segments : List Segment, segments ≠ [] ∧ '/' :: rest = segments.flatMap Segment.text := by
  -- What stands behind the next slash is shorter and meets the same conditions.
  induction size : rest.length using Nat.strong_induction_on generalizing rest with
  | _ length ih =>
      obtain ⟨name, later, rfl, slashless, next⟩ := exists_name rest
      have named : name ≠ [] := by
        rintro rfl
        obtain ⟨c, others, rfl⟩ := List.exists_cons_of_ne_nil nonempty
        obtain rfl := next c rfl
        exact absurd apart (by simp [hasEmptySegment])
      let first : Segment := ⟨name, named, slashless⟩
      cases later with
      | nil =>
          refine ⟨[first], by simp, ?_⟩
          rw [List.flatMap_singleton, List.append_nil]
          rfl
      | cons c later =>
          obtain rfl := next c rfl
          rw [List.getLast?_append_of_ne_nil _ (by simp)] at closed
          have more : later ≠ [] := by
            rintro rfl
            exact closed rfl
          rw [List.getLast?_cons_of_ne_nil more] at closed
          have apartLater : hasEmptySegment ('/' :: later) = false :=
            (first.hasEmptySegment_text_append _).symm.trans apart
          have shorter : later.length < length := by
            rw [← size, List.length_append, List.length_cons]
            omega
          obtain ⟨segments, -, whole⟩ := ih _ shorter more closed apartLater rfl
          refine ⟨first :: segments, by simp, ?_⟩
          rw [List.flatMap_cons, ← whole]
          rfl

/-- The three checks on a pattern: it begins with a slash, ends with none unless it is the root, and
has no empty segment. -/
theorem check_eq_ok {pattern : String} :
    check pattern = .ok () ↔ pattern.toList.head? = some '/' ∧
      (1 < pattern.toList.length → pattern.toList.getLast? ≠ some '/') ∧
      hasEmptySegment pattern.toList = false := by
  rw [check]
  split
  · next bare => simp [bare]
  · next slashed =>
      split
      · next ended => simp [ended]
      · next closed =>
          split
          · next doubled => simp [doubled]
          · next apart =>
              exact iff_of_true rfl ⟨not_not.1 slashed, fun more slash => closed ⟨more, slash⟩,
                Bool.eq_false_iff.2 apart⟩

/-- The checks on a pattern accept just the root and the rows of segments. -/
theorem check_eq_ok_iff {pattern : String} : check pattern = .ok () ↔ Spelled pattern := by
  rw [check_eq_ok]
  constructor
  · rintro ⟨slashed, closed, apart⟩
    obtain ⟨rest, chars⟩ := List.head?_eq_some_iff.1 slashed
    by_cases nonempty : rest = []
    · refine Or.inl (String.toList_inj.1 ?_)
      rw [chars, nonempty]
      rfl
    · rw [chars] at closed apart
      rw [List.getLast?_cons_of_ne_nil nonempty] at closed
      have more : 1 < ('/' :: rest).length :=
        Nat.succ_lt_succ (List.length_pos_of_ne_nil nonempty)
      rw [Spelled, chars]
      exact Or.inr (exists_segments nonempty (closed more) apart)
  · rintro (rfl | ⟨segments, nonempty, chars⟩)
    · decide
    · rw [chars]
      refine ⟨?_, fun _ => getLast?_flatMap, hasEmptySegment_flatMap segments⟩
      obtain ⟨s, others, rfl⟩ := List.exists_cons_of_ne_nil nonempty
      rfl

end Pattern

namespace Router

variable {α : Type} {r : Router α} {pattern : String} {target : α}

/-! ### Paths behind a pattern -/

/-- A path without a slash is not cut anywhere. -/
theorem cuts_of_slashless {name : List Char} (slashless : '/' ∉ name) (before : List Char) :
    cuts before name = [] := by
  induction name generalizing before with
  | nil => rfl
  | cons c name ih =>
      rw [List.mem_cons, not_or] at slashless
      simp [cuts, ih slashless.2, Ne.symm slashless.1]

/-- The latest cut of a path is made before its last slash. -/
theorem head?_cuts {name : List Char} (slashless : '/' ∉ name) (before front : List Char)
    (begun : before ++ front ≠ []) :
    (cuts before (front ++ '/' :: name)).head? =
      some (before.reverse ++ front, '/' :: name) := by
  induction front generalizing before with
  | nil =>
      rw [List.append_nil] at begun
      simp [cuts, cuts_of_slashless slashless, begun]
  | cons c front ih =>
      have later := ih (c :: before) (by simp)
      rw [List.reverse_cons, List.append_assoc, List.singleton_append] at later
      simp only [List.cons_append, cuts]
      split
      · rw [List.head?_append, later, Option.some_or]
      · exact later

/-- A path that is a registered pattern is routed to it, and its rest is the root. -/
theorem route_of_get? (other : pattern ≠ "/") (known : r.get? pattern = some target) :
    r.route pattern = some ⟨pattern, target, "/"⟩ := by
  rw [route, matchWhole, if_neg other, known]
  rfl

/-- A path that is no pattern goes to the pattern before its last slash. -/
theorem route_behind (begun : pattern.toList ≠ []) (known : r.get? pattern = some target)
    {name : String} (slashless : '/' ∉ name.toList)
    (unknown : r.get? (pattern ++ "/" ++ name) = none) :
    r.route (pattern ++ "/" ++ name) = some ⟨pattern, target, "/" ++ name⟩ := by
  have chars : (pattern ++ "/" ++ name).toList = pattern.toList ++ '/' :: name.toList := by
    rw [String.toList_append, String.toList_append, List.append_assoc]
    rfl
  have whole : r.matchWhole (pattern ++ "/" ++ name) = none := by
    rw [matchWhole, unknown]
    exact ite_self _
  have path : String.ofList ('/' :: name.toList) = "/" ++ name :=
    String.toList_inj.1 (by rw [String.toList_ofList, String.toList_append]; rfl)
  obtain ⟨earlier, latest⟩ : ∃ earlier, cuts [] (pattern.toList ++ '/' :: name.toList) =
      (pattern.toList, '/' :: name.toList) :: earlier :=
    List.head?_eq_some_iff.1 (head?_cuts slashless [] pattern.toList begun)
  have cut : r.matchCut (pattern.toList, '/' :: name.toList) =
      some ⟨pattern, target, "/" ++ name⟩ := by
    rw [matchCut]
    dsimp only
    rw [String.ofList_toList, known, path]
    rfl
  rw [route, whole, chars, latest, Option.none_or, List.findSome?_cons, cut]
  rfl

/-- The checks accept the patterns that are spelled right, and no others. Whatever patterns a router
keeps, each of them other than the root is found for itself, with nothing left of the path, and for
a path that goes on behind it with one more name, unless that is a pattern too. -/
theorem patterns_are_routable {α : Type} :
    (∀ pattern, Pattern.check pattern = .ok () ↔ Pattern.Spelled pattern) ∧
    ∀ r : Router α, r.Checked → ∀ pattern target, r.get? pattern = some target → pattern ≠ "/" →
      r.route pattern = some ⟨pattern, target, "/"⟩ ∧
      ∀ name : String, '/' ∉ name.toList → r.get? (pattern ++ "/" ++ name) = none →
        r.route (pattern ++ "/" ++ name) = some ⟨pattern, target, "/" ++ name⟩ := by
  refine ⟨fun pattern => Pattern.check_eq_ok_iff, ?_⟩
  intro r checked pattern target known other
  exact ⟨route_of_get? other known, fun name => route_behind (checked.ne_nil known) known⟩

/-- The pattern that was taken out is one more name behind a pattern, and goes to that. -/
theorem patterns_are_routable_nestedCalls :
    (run {} nestedCalls).Checked ∧ (run {} nestedCalls).get? "/é" = some 4 ∧ "/é" ≠ "/" ∧
      (run {} nestedCalls).route "/é" = some ⟨"/é", 4, "/"⟩ ∧
      '/' ∉ "b".toList ∧ (run {} nestedCalls).get? ("/é" ++ "/" ++ "b") = none ∧
      (run {} nestedCalls).route ("/é" ++ "/" ++ "b") = some ⟨"/é", 4, "/" ++ "b"⟩ := by
  have valid : ∀ call ∈ nestedCalls, call.Checked := by decide +kernel
  have checked : (run {} nestedCalls).Checked := checked_empty.run valid
  have known : (run {} nestedCalls).get? "/é" = some 4 := by decide +kernel
  have unknown : (run {} nestedCalls).get? ("/é" ++ "/" ++ "b") = none := by decide +kernel
  obtain ⟨itself, behind⟩ := patterns_are_routable.2 _ checked "/é" 4 known (by decide)
  exact ⟨checked, known, by decide, itself, by decide, unknown, behind "b" (by decide) unknown⟩

end Router

end ClusterGateway
