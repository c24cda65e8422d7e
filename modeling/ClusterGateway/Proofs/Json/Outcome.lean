import ClusterGateway.Json.Record
import ClusterGateway.Proofs.Dictionary
import ClusterGateway.Proofs.Json.Scalar

/-! # What a reader can give

`Gives reader P` says that whatever a reader takes off any octets satisfies `P`. It passes from the
parts of lists, dictionaries and records to the whole, so bounds on the numbers in a stored document
follow from the bounds with which its numbers are read.
-/

namespace ClusterGateway.Json

variable {α β σ : Type}

/-- Every value that a reader gives satisfies a property. -/
def Gives (reader : Reader α) (P : α → Prop) : Prop :=
  ∀ bytes a rest, reader bytes = .ok (a, rest) → P a

namespace Gives

open Reader

/-- What every value has is also had by what a reader gives. -/
theorem always (reader : Reader α) : Gives reader fun _ => True := fun _ _ _ _ => trivial

/-- A reader that reads nothing gives the value it was made with. -/
theorem pure {P : α → Prop} {a : α} (holds : P a) : Gives (Pure.pure a) P := by
  intro bytes b rest given
  rw [pure_apply, Except.ok.injEq, Prod.mk.injEq] at given
  exact given.1 ▸ holds

/-- A reader that fails gives nothing, so whatever is asked of its results holds. -/
theorem fail (fault : Fault) (P : α → Prop) : Gives (Reader.fail fault) P := by
  intro bytes a rest given
  exact absurd given (by simp [Reader.fail])

/-- What the second of two readers gives may rest on what the first one gave. -/
theorem bind {first : Reader α} {next : α → Reader β} {P : α → Prop} {Q : β → Prop}
    (holds : Gives first P) (more : ∀ a, P a → Gives (next a) Q) : Gives (first >>= next) Q := by
  intro bytes b rest given
  rw [bind_apply] at given
  split at given
  · next a middle taken => exact more a (holds _ _ _ taken) _ _ _ given
  · exact absurd given (by simp)

/-- A step about whose value nothing needs to be known. -/
theorem after {first : Reader α} {next : α → Reader β} {Q : β → Prop}
    (more : ∀ a, Gives (next a) Q) : Gives (first >>= next) Q :=
  bind (always first) fun a _ => more a

/-- A value of the wrong shape gives nothing. -/
theorem wrongShape (P : α → Prop) : Gives (Reader.wrongShape : Reader α) P := by
  unfold Reader.wrongShape
  refine after fun next => ?_
  cases next with
  | none => exact fail _ P
  | some b =>
      dsimp only
      split
      · exact after fun _ => after fun _ => fail _ P
      split
      · exact after fun _ => after fun _ => fail _ P
      split
      · exact after fun _ => after fun _ => fail _ P
      split
      · exact after fun _ => fail _ P
      split
      · exact after fun _ => after fun _ => fail _ P
      split
      · exact fail _ P
      · exact fail _ P

/-- A whole number lies between the bounds with which it is read. -/
theorem integer (least greatest : Int) :
    Gives (Reader.integer least greatest) fun n => least ≤ n ∧ n ≤ greatest := by
  unfold Reader.integer
  refine after fun next => ?_
  cases next with
  | none => exact fail _ _
  | some b =>
      dsimp only
      split
      · refine after fun n => ?_
        cases n with
        | whole n =>
            dsimp only
            split
            · next inside => exact pure inside
            · exact fail _ _
        | real literal => exact fail _ _
      · exact wrongShape _

variable {item : Reader α} {P : α → Prop}

/-- If every item that is read has a property, so have the items of a list. -/
theorem elements (each : Gives item P) (fuel : Nat) (first : Bool) :
    Gives (Reader.elements item first fuel) fun items => ∀ a ∈ items, P a := by
  induction fuel generalizing first with
  | zero => exact fail _ _
  | succ fuel ih =>
      have more : Gives (do return (← item) :: (← Reader.elements item false fuel))
          fun items => ∀ a ∈ items, P a :=
        bind each fun a holds => bind (ih false) fun items others =>
          pure (List.forall_mem_cons.2 ⟨holds, others⟩)
      unfold Reader.elements
      refine after fun next => ?_
      cases next with
      | none => exact fail _ _
      | some b =>
          dsimp only
          split
          · exact after fun _ => pure (by simp)
          split
          · exact more
          split
          · exact fail _ _
          · refine after fun _ => after fun next => ?_
            cases next with
            | none => exact fail _ _
            | some c =>
                dsimp only
                split
                · exact fail _ _
                · exact more

/-- Every element of a list is as its reader gives it. -/
theorem list (each : Gives item P) : Gives (Reader.list item) fun items => ∀ a ∈ items, P a := by
  unfold Reader.list
  refine after fun next => ?_
  cases next with
  | none => exact fail _ _
  | some b =>
      dsimp only
      split
      · exact after fun _ => after fun _ => elements each _ _
      · exact wrongShape _

theorem members (each : Gives item P) (fuel : Nat) (first : Bool) :
    Gives (Reader.members item first fuel) fun entries => ∀ e ∈ entries, P e.2 := by
  induction fuel generalizing first with
  | zero => exact fail _ _
  | succ fuel ih =>
      unfold Reader.members
      refine after fun more => ?_
      split
      · exact after fun name => after fun _ => bind each fun a holds =>
          bind (ih false) fun entries others => pure (List.forall_mem_cons.2 ⟨holds, others⟩)
      · exact after fun _ => pure (by simp)

/-- Every value of a dictionary is as its reader gives it. -/
theorem dict (each : Gives item P) :
    Gives (Reader.dict item) fun d => ∀ key a, d.get? key = some a → P a := by
  unfold Reader.dict
  refine after fun next => ?_
  cases next with
  | none => exact fail _ _
  | some b =>
      dsimp only
      split
      · refine after fun _ => after fun bound => bind (members each _ _) fun entries others => ?_
        exact pure fun key a found => others (key, a) (Dict.mem_of_get?_ofList found)
      · exact wrongShape _

variable {fields : List (Field σ)} {R : σ → Prop}

/-- If every field keeps a property of the draft, a record that is read from members has it. -/
theorem fromMembers (each : ∀ field ∈ fields, ∀ draft, R draft → Gives (field.fill draft) R)
    (fuel : Nat) (first : Bool) (draft : σ) (holds : R draft) :
    Gives (Record.fromMembers fields first fuel draft) R := by
  induction fuel generalizing first draft with
  | zero => exact fail _ _
  | succ fuel ih =>
      unfold Record.fromMembers
      refine after fun more => ?_
      split
      · refine after fun name => ?_
        split
        · next field named =>
            have known := List.mem_of_find?_eq_some named
            split
            · exact fail _ _
            · exact after fun _ => bind (each field known draft holds) fun next kept =>
                ih false next kept
        · exact after fun _ => after fun _ => ih false draft holds
      · exact pure holds

theorem fromElements (each : ∀ field ∈ fields, ∀ draft, R draft → Gives (field.fill draft) R)
    (first : Bool) (draft : σ) (holds : R draft) :
    Gives (Record.fromElements first fields draft) R := by
  induction fields generalizing first draft with
  | nil => exact pure holds
  | cons field fields ih =>
      have others := ih fun f member => each f (List.mem_cons_of_mem field member)
      have filled : Gives (do Record.fromElements false fields (← field.fill draft)) R :=
        bind (each field List.mem_cons_self draft holds) fun next kept => others false next kept
      unfold Record.fromElements
      refine after fun next => ?_
      cases next with
      | none => exact fail _ _
      | some b =>
          dsimp only
          split
          · split
            · exact others first draft holds
            · exact fail _ _
          split
          · exact filled
          split
          · exact fail _ _
          · refine after fun _ => after fun next => ?_
            cases next with
            | none => exact fail _ _
            | some c =>
                dsimp only
                split
                · exact fail _ _
                · exact filled

/-- A record keeps what its blank has and every field keeps. -/
theorem record (format : Record σ α) (R : σ → Prop)
    (each : ∀ field ∈ format.fields, ∀ draft, R draft → Gives (field.fill draft) R)
    (blank : R format.blank) (complete : ∀ draft a, R draft → format.finish draft = some a → P a) :
    Gives format.read P := by
  unfold Record.read
  refine after fun next => ?_
  cases next with
  | none => exact fail _ _
  | some b =>
      dsimp only
      split
      · refine after fun _ => after fun bound =>
          bind (fromMembers each _ true _ blank) fun draft kept => ?_
        cases done : format.finish draft with
        | none => exact fail _ _
        | some a => exact after fun _ => pure (complete draft a kept done)
      split
      · refine after fun _ => bind (fromElements each true _ blank) fun draft kept => ?_
        cases done : format.finish draft with
        | none => exact fail _ _
        | some a => exact after fun _ => pure (complete draft a kept done)
      · exact wrongShape _

/-- What a whole text is read as is what its reader gives. -/
theorem readAll {reader : Reader α} (holds : Gives reader P) {bytes : Bytes} {a : α}
    (read : Json.readAll reader bytes = .ok a) : P a := by
  have whole : Gives (do let a ← reader; Reader.finish; return a : Reader α) P :=
    bind holds fun a kept => after fun _ => pure kept
  unfold Json.readAll at read
  split at read
  · next b rest taken =>
      rw [Except.ok.injEq] at read
      exact read ▸ whole bytes b rest taken
  · exact absurd read (by simp)

end Gives

end ClusterGateway.Json
