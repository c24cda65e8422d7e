import ClusterGateway.Json.Record
import ClusterGateway.Proofs.Dictionary
import ClusterGateway.Proofs.Json.Scalar

/-! # Reading back lists, dictionaries and records

A list, a dictionary or a record is read back if its parts are. Of a record it is enough to say
which field each member fills, in the order in which the members are written.
-/

namespace ClusterGateway.Json

open Reader

variable {α β σ : Type}

/-- A reader that only makes something else of a value spells that as well. -/
theorem Spells.andThen {reader : Reader α} {text : Bytes} {a : α} {next : α → Reader β} {b : β}
    (spelt : Spells reader text a) (made : ∀ rest, next a rest = .ok (b, rest)) :
    Spells (reader >>= next) text b where
  opens := spelt.opens
  reads rest ends := by rw [bind_of_ok (spelt.reads rest ends), made]

/-! ### Parts with commas between them -/

/-- What stands before a part: a comma, unless the part is the first. -/
def leadOctets (first : Bool) : Bytes := if first then [] else [Byte.comma]

/-- The octets of parts with commas between them, and before them unless the first is among them. -/
def joinedOctets : Bool → List String → Bytes
  | _, [] => []
  | first, text :: texts => leadOctets first ++ (utf8 text ++ joinedOctets false texts)

/-- The octets of texts with commas between them are those of the parts, each but the first after a
comma. -/
theorem utf8_intercalate_comma (texts : List String) :
    utf8 (",".intercalate texts) = joinedOctets true texts := by
  have further (texts : List String) :
      (texts.flatMap fun t => utf8 "," ++ utf8 t) = joinedOctets false texts := by
    induction texts with
    | nil => rfl
    | cons text texts ih =>
        rw [List.flatMap_cons, ih, joinedOctets, List.append_assoc]
        rfl
  cases texts with
  | nil => rfl
  | cons text texts =>
      rw [utf8_intercalate_cons, further]
      rfl

/-- A fuel that suffices for the octets suffices for the parts. -/
theorem length_le_joinedOctets (first : Bool) (texts : List String) :
    texts.length ≤ (joinedOctets first texts).length + 1 := by
  have further (texts : List String) : texts.length ≤ (joinedOctets false texts).length := by
    induction texts with
    | nil => exact Nat.le_refl 0
    | cons text texts ih =>
        simp only [joinedOctets, leadOctets, Bool.false_eq_true, ↓reduceIte, List.length_append,
          List.length_cons, List.length_nil]
        omega
  cases texts with
  | nil => exact Nat.zero_le 1
  | cons text texts =>
      have more := further texts
      simp only [joinedOctets, List.length_append, List.length_cons]
      omega

/-- What follows a part is a comma or the closing mark, so a number ends there. -/
theorem delimits_joined (texts : List String) {closing : UInt8} (rest : Bytes)
    (mark : closing = Byte.closeBracket ∨ closing = Byte.closeBrace) :
    Delimits (joinedOctets false texts ++ closing :: rest) := by
  cases texts with
  | nil => exact delimits_cons (Or.inr mark)
  | cons text texts => exact delimits_cons (Or.inl rfl)

namespace Reader

/-! ### Lists -/

variable {item : Reader α} {write : α → String}

/-- A list is written between brackets, with commas between its items. -/
theorem utf8_list (texts : List String) :
    utf8 (Write.list texts) =
      Byte.openBracket :: (joinedOctets true texts ++ [Byte.closeBracket]) := by
  rw [Write.list, utf8_append, utf8_append, utf8_intercalate_comma]
  rfl

/-- An element is taken and the others follow. -/
theorem elements_step {text : String} {a : α} (spelt : Spells item (utf8 text) a) {bytes : Bytes}
    (ends : Delimits bytes) (first : Bool) (fuel : Nat) :
    elements item first (fuel + 1) (leadOctets first ++ (utf8 text ++ bytes)) =
      (do return a :: (← elements item false fuel) : Reader (List α)) bytes := by
  obtain ⟨b, more, octets, solid, notEnd⟩ := spelt.opens
  have head := spelt.reads _ ends
  rw [octets, List.cons_append] at head ⊢
  cases first with
  | true =>
      rw [leadOctets, if_pos rfl, List.nil_append, elements, bind_of_ok (peek_cons _ solid)]
      simp only [if_neg notEnd, ↓reduceIte]
      rw [bind_of_ok head]
  | false =>
      rw [leadOctets, if_neg Bool.false_ne_true, List.singleton_append, elements,
        bind_of_ok (peek_cons _ (by decide))]
      simp only [show ¬(Byte.comma = Byte.closeBracket) by decide, Bool.false_eq_true, ↓reduceIte,
        ne_eq, not_true_eq_false]
      rw [bind_of_ok (skip_cons _ _), bind_of_ok (peek_cons _ solid)]
      simp only [if_neg notEnd]
      rw [bind_of_ok head]

/-- The items of a list end at the closing bracket. -/
theorem elements_end (first : Bool) (rest : Bytes) (fuel : Nat) :
    elements item first (fuel + 1) (Byte.closeBracket :: rest) = .ok ([], rest) := by
  rw [elements, bind_of_ok (peek_cons _ (by decide))]
  simp only [↓reduceIte]
  rfl

/-- The items of a list are read back one after another up to the closing bracket. -/
theorem elements_joined (items : List α) (each : ∀ a ∈ items, Spells item (utf8 (write a)) a)
    (rest : Bytes) (first : Bool) (fuel : Nat) (enough : items.length ≤ fuel) :
    elements item first (fuel + 1)
      (joinedOctets first (items.map write) ++ Byte.closeBracket :: rest) = .ok (items, rest) := by
  induction items generalizing first fuel with
  | nil => exact elements_end first rest fuel
  | cons a items ih =>
      rw [List.length_cons] at enough
      -- One unit of fuel goes to each element, and one to the bracket at the end.
      obtain ⟨fuel, rfl⟩ : ∃ k, fuel = k + 1 := ⟨fuel - 1, by omega⟩
      have tail := ih (fun c member => each c (List.mem_cons_of_mem a member)) false fuel
        (Nat.le_of_succ_le_succ enough)
      rw [List.map_cons, joinedOctets, List.append_assoc, List.append_assoc,
        elements_step (each a List.mem_cons_self) (delimits_joined _ _ (Or.inl rfl)),
        bind_of_ok tail]
      rfl

/-- A list of values that are read back is read back. -/
theorem spells_list (items : List α) (each : ∀ a ∈ items, Spells item (utf8 (write a)) a) :
    Spells (list item) (utf8 (Write.list (items.map write))) items where
  opens := ⟨Byte.openBracket, _, utf8_list _, by decide, by decide⟩
  reads rest _ := by
    have bound := length_le_joinedOctets true (items.map write)
    rw [List.length_map] at bound
    rw [utf8_list, List.cons_append, List.append_assoc, List.singleton_append, list,
      bind_of_ok (peek_cons _ (by decide))]
    simp only [↓reduceIte]
    rw [bind_of_ok (skip_cons _ _), bind_of_ok (remaining_apply _)]
    apply elements_joined items each rest
    rw [List.length_append, List.length_cons]
    omega

/-- A list of strings is read back as it was written. -/
theorem spells_strings (items : List String) :
    Spells (list string) (utf8 (Write.strings items)) items :=
  spells_list items fun s _ => spells_string s

/-! ### Members of an object -/

/-- The text of a member whose value is written already. -/
def memberText (m : String × String) : String := Write.string m.1 ++ ":" ++ m.2

theorem utf8_object (members : List (String × String)) :
    utf8 (Write.object members) =
      Byte.openBrace :: (joinedOctets true (members.map memberText) ++ [Byte.closeBrace]) := by
  rw [Write.object, utf8_append, utf8_append, utf8_intercalate_comma]
  rfl

/-- A member is written as its name in quotes, a colon and its value. -/
theorem utf8_memberText (m : String × String) (bytes : Bytes) :
    utf8 (memberText m) ++ bytes =
      Byte.quote :: (bodyOctets m.1 ++ Byte.quote :: Byte.colon :: (utf8 m.2 ++ bytes)) := by
  rw [memberText, utf8_append, utf8_append, utf8_string]
  simp only [List.cons_append, List.append_assoc, List.nil_append]
  rfl

/-- After a comma, or at the beginning, the next quote opens a member. -/
theorem toMember_step (first : Bool) (bytes : Bytes) :
    toMember first (leadOctets first ++ Byte.quote :: bytes) = .ok (true, bytes) := by
  cases first <;> rfl

theorem colon_cons (bytes : Bytes) : colon (Byte.colon :: bytes) = .ok ((), bytes) := rfl

/-! ### Dictionaries -/

/-- A member is taken and the others follow. -/
theorem members_step {name text : String} {a : α} (spelt : Spells item (utf8 text) a)
    {bytes : Bytes} (ends : Delimits bytes) (first : Bool) (fuel : Nat) :
    members item first (fuel + 1) (leadOctets first ++ (utf8 (memberText (name, text)) ++ bytes)) =
      (do return (name, a) :: (← members item false fuel) : Reader (List (String × α))) bytes := by
  rw [utf8_memberText, members, bind_of_ok (toMember_step first _)]
  simp only [↓reduceIte]
  rw [bind_of_ok (stringBody_body name _), bind_of_ok (colon_cons _),
    bind_of_ok (spelt.reads _ ends)]

theorem members_joined (entries : List (String × α))
    (each : ∀ e ∈ entries, Spells item (utf8 (write e.2)) e.2) (rest : Bytes) (first : Bool)
    (fuel : Nat) (enough : entries.length ≤ fuel) :
    members item first (fuel + 1)
      (joinedOctets first ((entries.map fun e => (e.1, write e.2)).map memberText) ++
        Byte.closeBrace :: rest) = .ok (entries, rest) := by
  induction entries generalizing first fuel with
  | nil => rfl
  | cons e entries ih =>
      rw [List.length_cons] at enough
      obtain ⟨fuel, rfl⟩ : ∃ k, fuel = k + 1 := ⟨fuel - 1, by omega⟩
      have tail := ih (fun c member => each c (List.mem_cons_of_mem e member)) false fuel
        (Nat.le_of_succ_le_succ enough)
      rw [List.map_cons, List.map_cons, joinedOctets, List.append_assoc, List.append_assoc,
        members_step (each e List.mem_cons_self) (delimits_joined _ _ (Or.inr rfl)),
        bind_of_ok tail]
      rfl

/-- A dictionary of values that are read back is read back. -/
theorem spells_dict (d : Dict α) (each : ∀ e ∈ d.entries, Spells item (utf8 (write e.2)) e.2) :
    Spells (dict item) (utf8 (Write.dict write d)) d where
  opens := ⟨Byte.openBrace, _, utf8_object _, by decide, by decide⟩
  reads rest _ := by
    have bound := length_le_joinedOctets true
      ((d.entries.map fun e => (e.1, write e.2)).map memberText)
    rw [List.length_map, List.length_map] at bound
    rw [Write.dict, utf8_object, List.cons_append, List.append_assoc, List.singleton_append, dict,
      bind_of_ok (peek_cons _ (by decide))]
    simp only [↓reduceIte]
    rw [bind_of_ok (skip_cons _ _), bind_of_ok (remaining_apply _),
      bind_of_ok (members_joined d.entries each rest true _
        (by rw [List.length_append, List.length_cons]; omega)), Dict.ofList_entries]
    rfl

end Reader

/-! ### Records -/

/-- The members of an object, one after another, take a record from one draft to another. -/
inductive Fills (fields : List (Field σ)) : σ → List (String × String) → σ → Prop where
  | done (draft : σ) : Fills fields draft [] draft
  /-- A member fills the field of its name, which must be open. -/
  | step {draft next last : σ} {name text : String} {members : List (String × String)}
      (field : Field σ)
      (named : fields.find? (fun field => field.names.contains name) = some field)
      (vacant : field.filled draft = false)
      (spelt : Spells (field.fill draft) (utf8 text) next)
      (rest : Fills fields next members last) : Fills fields draft ((name, text) :: members) last

namespace Record

variable {fields : List (Field σ)}

/-- The members of a record fill its fields one after another up to the closing brace. -/
theorem fromMembers_fills {draft last : σ} {members : List (String × String)}
    (fills : Fills fields draft members last) (rest : Bytes) (first : Bool) (fuel : Nat)
    (enough : members.length ≤ fuel) :
    fromMembers fields first (fuel + 1) draft
      (joinedOctets first (members.map memberText) ++ Byte.closeBrace :: rest) =
      .ok (last, Byte.closeBrace :: rest) := by
  induction fills generalizing first fuel with
  | done draft => rfl
  | @step draft next last name text members field named vacant spelt _ ih =>
      rw [List.length_cons] at enough
      obtain ⟨fuel, rfl⟩ : ∃ k, fuel = k + 1 := ⟨fuel - 1, by omega⟩
      have tail := ih false fuel (Nat.le_of_succ_le_succ enough)
      rw [List.map_cons, joinedOctets, List.append_assoc, List.append_assoc, utf8_memberText,
        fromMembers, bind_of_ok (toMember_step first _)]
      simp only [↓reduceIte]
      rw [bind_of_ok (stringBody_body name _)]
      simp only [named, vacant, Bool.false_eq_true, ↓reduceIte]
      rw [bind_of_ok (colon_cons _),
        bind_of_ok (spelt.reads _ (delimits_joined _ _ (Or.inr rfl))), tail]

/-- An object whose members fill the fields of a record is read as what the record amounts to. -/
theorem spells_object {format : Record σ α} {members : List (String × String)} (last : σ) {a : α}
    (fills : Fills format.fields format.blank members last)
    (complete : format.finish last = some a) :
    Spells format.read (utf8 (Write.object members)) a where
  opens := ⟨Byte.openBrace, _, utf8_object _, by decide, by decide⟩
  reads rest _ := by
    have bound := length_le_joinedOctets true (members.map memberText)
    rw [List.length_map] at bound
    rw [utf8_object, List.cons_append, List.append_assoc, List.singleton_append, Record.read,
      bind_of_ok (peek_cons _ (by decide))]
    simp only [↓reduceIte]
    rw [bind_of_ok (skip_cons _ _), bind_of_ok (remaining_apply _),
      bind_of_ok (fromMembers_fills fills rest true _
        (by rw [List.length_append, List.length_cons]; omega))]
    simp only [complete]
    rfl

end Record

/-- What is spelt by a whole text is read from it. -/
theorem readAll_of_spells {reader : Reader α} {text : Bytes} {a : α}
    (spelt : Spells reader text a) : readAll reader text = .ok a := by
  have whole := spelt.reads [] delimits_nil
  rw [List.append_nil] at whole
  have run : (do let a ← reader; Reader.finish; return a : Reader α).run text = .ok (a, []) := by
    rw [StateT.run, bind_of_ok whole]
    rfl
  rw [readAll, run]

end ClusterGateway.Json
