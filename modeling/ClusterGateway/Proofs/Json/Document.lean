import ClusterGateway.Json.Value
import ClusterGateway.Proofs.Json.Compound

/-! # Reading back documents of any shape

A document may be written without blanks or with every part on a line of its own. Both texts are
read as the same value, since readers pass over blanks between the parts. Only a value whose objects
are in order is read back as it is; whole numbers have to fit into 64 bits, and lists and objects
must not be nested too deep.
-/

namespace ClusterGateway.Json

open Reader

variable {α β σ : Type}

/-! ### Blanks -/

/-- Octets that stand between the parts of a text and mean nothing. -/
def Blank (gap : Bytes) : Prop := ∀ b ∈ gap, Byte.isSpace b = true

theorem blank_nil : Blank [] := fun _ member => absurd member List.not_mem_nil

theorem blank_space : Blank [0x20] := List.forall_mem_singleton.2 rfl

/-- A reader that passes over blanks before a value. -/
def Patient (reader : Reader α) : Prop :=
  ∀ gap bytes, Blank gap → reader (gap ++ bytes) = reader bytes

/-- Looking at the next octet passes over a gap first. -/
theorem patient_peek : Patient peek := by
  intro gap bytes blank
  rw [peek, peek, List.dropWhile_append_of_pos blank]

/-- A reader that begins with a patient one is patient. -/
theorem Patient.bind {first : Reader α} (patient : Patient first) (next : α → Reader β) :
    Patient (first >>= next) := by
  intro gap bytes blank
  rw [bind_apply, bind_apply, patient gap bytes blank]

/-- Behind a gap the next octet that is no space is seen. -/
theorem peek_gap {gap : Bytes} (blank : Blank gap) {b : UInt8} (rest : Bytes)
    (solid : Byte.isSpace b = false) : peek (gap ++ b :: rest) = .ok (some b, b :: rest) := by
  rw [patient_peek gap _ blank, peek_cons rest solid]

theorem patient_string : Patient Reader.string := patient_peek.bind _

theorem patient_integer (least greatest : Int) : Patient (Reader.integer least greatest) :=
  patient_peek.bind _

/-- A number cannot go on with a blank. -/
theorem delimits_of_blank {gap rest : Bytes} (blank : Blank gap) (ends : Delimits rest) :
    Delimits (gap ++ rest) := by
  cases gap with
  | nil => exact ends
  | cons b gap =>
      intro c first
      obtain rfl := Option.some.inj first
      have space := blank b List.mem_cons_self
      simp only [Byte.isSpace, Bool.or_eq_true, decide_eq_true_eq] at space
      rcases space with ((rfl | rfl) | rfl) | rfl <;> decide

/-! ### Parts with blanks before them -/

/-- The octets of parts with commas between them, a gap before each, and a comma before the first
one too unless nothing stands before it. -/
def spacedOctets (gap : Bytes) : Bool → List Bytes → Bytes
  | _, [] => []
  | first, part :: parts => leadOctets first ++ (gap ++ (part ++ spacedOctets gap false parts))

/-- A fuel that suffices for the octets suffices for the parts. -/
theorem length_le_spacedOctets (gap : Bytes) (first : Bool) (parts : List Bytes) :
    parts.length ≤ (spacedOctets gap first parts).length + 1 := by
  have further (parts : List Bytes) : parts.length ≤ (spacedOctets gap false parts).length := by
    induction parts with
    | nil => exact Nat.le_refl 0
    | cons part parts ih =>
        simp only [spacedOctets, leadOctets, Bool.false_eq_true, ↓reduceIte, List.length_append,
          List.length_cons, List.length_nil]
        omega
  cases parts with
  | nil => exact Nat.zero_le 1
  | cons part parts =>
      have more := further parts
      simp only [spacedOctets, List.length_append, List.length_cons]
      omega

/-- A fuel that suffices for all that is left suffices for the parts and the closing mark. -/
theorem spaced_le (spaced after rest : Bytes) (closing : UInt8) :
    spaced.length + 1 ≤ (spaced ++ (after ++ closing :: rest)).length := by
  rw [List.length_append, List.length_append, List.length_cons]
  omega

/-- What follows a part is a comma, a gap or the closing mark, so a number ends there. -/
theorem delimits_spaced (gap : Bytes) (parts : List Bytes) {after : Bytes} (blank : Blank after)
    {closing : UInt8} (rest : Bytes)
    (mark : closing = Byte.closeBracket ∨ closing = Byte.closeBrace) :
    Delimits (spacedOctets gap false parts ++ (after ++ closing :: rest)) := by
  cases parts with
  | nil =>
      rw [spacedOctets, List.nil_append]
      exact delimits_of_blank blank (delimits_cons (Or.inr mark))
  | cons part parts => exact delimits_cons (Or.inl rfl)

/-- Texts with a comma and a gap between them have the octets of the spaced parts. -/
theorem utf8_intercalate_spaced (gap : String) (texts : List String) :
    utf8 gap ++ utf8 (("," ++ gap).intercalate texts) =
      if texts.isEmpty then utf8 gap else spacedOctets (utf8 gap) true (texts.map utf8) := by
  have further (texts : List String) : (texts.flatMap fun t => utf8 ("," ++ gap) ++ utf8 t) =
      spacedOctets (utf8 gap) false (texts.map utf8) := by
    induction texts with
    | nil => rfl
    | cons text texts ih =>
        rw [List.flatMap_cons, ih, List.map_cons, spacedOctets, utf8_append]
        simp only [List.append_assoc]
        rfl
  cases texts with
  | nil => exact List.append_nil _
  | cons text texts =>
      rw [utf8_intercalate_cons, further]
      rfl

namespace Reader

/-- The elements of a list are taken one after another, with the blanks before them. -/
theorem elements_spaced {item : Reader α} {gap after : Bytes} (blank : Blank gap)
    (blankAfter : Blank after) (parts : List (α × Bytes)) (each : ∀ p ∈ parts, Spells item p.2 p.1)
    (rest : Bytes) (first : Bool) (fuel : Nat) (enough : parts.length ≤ fuel) :
    elements item first (fuel + 1)
      (spacedOctets gap first (parts.map (·.2)) ++ (after ++ Byte.closeBracket :: rest)) =
        .ok (parts.map (·.1), rest) := by
  induction parts generalizing first fuel with
  | nil =>
      rw [List.map_nil, spacedOctets, List.nil_append, elements,
        bind_of_ok (peek_gap blankAfter _ (by decide))]
      simp only [↓reduceIte]
      rfl
  | cons p parts ih =>
      rw [List.length_cons] at enough
      obtain ⟨fuel, rfl⟩ : ∃ k, fuel = k + 1 := ⟨fuel - 1, by omega⟩
      have tail := ih (fun q member => each q (List.mem_cons_of_mem p member)) false fuel
        (Nat.le_of_succ_le_succ enough)
      have spelt := each p List.mem_cons_self
      obtain ⟨b, more, octets, solid, notEnd⟩ := spelt.opens
      have head := spelt.reads _
        (delimits_spaced gap (parts.map (·.2)) blankAfter rest (Or.inl rfl))
      rw [List.map_cons, spacedOctets, List.append_assoc, List.append_assoc, List.append_assoc]
      rw [octets, List.cons_append] at head ⊢
      -- The first element has nothing but blanks before it, and each other one a comma.
      cases first with
      | true =>
          rw [leadOctets, if_pos rfl, List.nil_append, elements,
            bind_of_ok (peek_gap blank _ solid)]
          simp only [if_neg notEnd, ↓reduceIte]
          rw [bind_of_ok head, bind_of_ok tail]
          rfl
      | false =>
          rw [leadOctets, if_neg Bool.false_ne_true, List.singleton_append, elements,
            bind_of_ok (peek_cons _ (by decide))]
          simp only [show ¬(Byte.comma = Byte.closeBracket) by decide, Bool.false_eq_true,
            ↓reduceIte, ne_eq, not_true_eq_false]
          rw [bind_of_ok (skip_cons _ _), bind_of_ok (peek_gap blank _ solid)]
          simp only [if_neg notEnd]
          rw [bind_of_ok head, bind_of_ok tail]
          rfl

/-- There is enough fuel for the elements of a list in the number of its octets. -/
theorem elements_whole {item : Reader α} {gap after : Bytes} (blank : Blank gap)
    (blankAfter : Blank after) (parts : List (α × Bytes)) (each : ∀ p ∈ parts, Spells item p.2 p.1)
    (rest : Bytes) :
    let bytes := spacedOctets gap true (parts.map (·.2)) ++ (after ++ Byte.closeBracket :: rest)
    elements item true (bytes.length + 1) bytes = .ok (parts.map (·.1), rest) := by
  have bound := length_le_spacedOctets gap true (parts.map (·.2))
  rw [List.length_map] at bound
  exact elements_spaced blank blankAfter parts each rest true _
    (Nat.le_trans bound (spaced_le ..))

/-- The octets of a member of an object. -/
def memberOctets (between : Bytes) (name : String) (text : Bytes) : Bytes :=
  utf8 (Write.string name) ++ (Byte.colon :: (between ++ text))

/-- A member is its name in quotes, a colon, a gap and its value, whatever follows. -/
theorem memberOctets_append (between : Bytes) (name : String) (text bytes : Bytes) :
    memberOctets between name text ++ bytes =
      Byte.quote :: (bodyOctets name ++
        Byte.quote :: Byte.colon :: (between ++ (text ++ bytes))) := by
  rw [memberOctets, utf8_string]
  simp only [List.cons_append, List.append_assoc, List.nil_append]

/-- After a comma, or at the beginning, and a gap the next quote opens a member. -/
theorem toMember_spaced {gap : Bytes} (blank : Blank gap) (first : Bool) (bytes : Bytes) :
    toMember first (leadOctets first ++ (gap ++ Byte.quote :: bytes)) = .ok (true, bytes) := by
  cases first with
  | true =>
      rw [leadOctets, if_pos rfl, List.nil_append, toMember,
        bind_of_ok (peek_gap blank _ (by decide))]
      rfl
  | false =>
      rw [leadOctets, if_neg Bool.false_ne_true, List.singleton_append, toMember,
        bind_of_ok (peek_cons _ (by decide))]
      simp only [show ¬(Byte.comma = Byte.closeBrace) by decide, Bool.false_eq_true, ↓reduceIte,
        ne_eq, not_true_eq_false]
      rw [bind_of_ok (skip_cons _ _), bind_of_ok (peek_gap blank _ (by decide))]
      rfl

/-- After a gap the closing brace ends the members. -/
theorem toMember_end {after : Bytes} (blank : Blank after) (first : Bool) (rest : Bytes) :
    toMember first (after ++ Byte.closeBrace :: rest) = .ok (false, Byte.closeBrace :: rest) := by
  rw [toMember, bind_of_ok (peek_gap blank _ (by decide))]
  rfl

/-- The members of an object are taken one after another, with the blanks before them and before
their values. -/
theorem members_spaced {item : Reader α} (patient : Patient item) {gap between after : Bytes}
    (blank : Blank gap) (blankBetween : Blank between) (blankAfter : Blank after)
    (parts : List ((String × α) × Bytes)) (each : ∀ p ∈ parts, Spells item p.2 p.1.2)
    (rest : Bytes) (first : Bool) (fuel : Nat) (enough : parts.length ≤ fuel) :
    members item first (fuel + 1)
      (spacedOctets gap first (parts.map fun p => memberOctets between p.1.1 p.2) ++
        (after ++ Byte.closeBrace :: rest)) = .ok (parts.map (·.1), rest) := by
  induction parts generalizing first fuel with
  | nil =>
      rw [List.map_nil, spacedOctets, List.nil_append, members,
        bind_of_ok (toMember_end blankAfter first rest)]
      rfl
  | cons p parts ih =>
      rw [List.length_cons] at enough
      obtain ⟨fuel, rfl⟩ : ∃ k, fuel = k + 1 := ⟨fuel - 1, by omega⟩
      have tail := ih (fun q member => each q (List.mem_cons_of_mem p member)) false fuel
        (Nat.le_of_succ_le_succ enough)
      have head := (each p List.mem_cons_self).reads _
        (delimits_spaced gap (parts.map fun p => memberOctets between p.1.1 p.2) blankAfter rest
          (Or.inr rfl))
      rw [List.map_cons, spacedOctets, List.append_assoc, List.append_assoc, List.append_assoc,
        memberOctets_append, members, bind_of_ok (toMember_spaced blank first _)]
      simp only [↓reduceIte]
      rw [bind_of_ok (stringBody_body p.1.1 _), bind_of_ok (colon_cons _), bind_apply,
        patient between _ blankBetween, head]
      dsimp only
      rw [bind_of_ok tail]
      rfl

/-- There is enough fuel for the members of an object in the number of its octets. -/
theorem members_whole {item : Reader α} (patient : Patient item) {gap between after : Bytes}
    (blank : Blank gap) (blankBetween : Blank between) (blankAfter : Blank after)
    (parts : List ((String × α) × Bytes)) (each : ∀ p ∈ parts, Spells item p.2 p.1.2)
    (rest : Bytes) :
    let bytes := spacedOctets gap true (parts.map fun p => memberOctets between p.1.1 p.2) ++
      (after ++ Byte.closeBrace :: rest)
    members item true (bytes.length + 1) bytes = .ok (parts.map (·.1), rest) := by
  have bound := length_le_spacedOctets gap true
    (parts.map fun p => memberOctets between p.1.1 p.2)
  rw [List.length_map] at bound
  exact members_spaced patient blank blankBetween blankAfter parts each rest true _
    (Nat.le_trans bound (spaced_le ..))

end Reader

/-- The members of an object fill the fields of a record, with the blanks before them and before
their values. -/
theorem Record.fromMembers_spaced {fields : List (Field σ)}
    (patient : ∀ field ∈ fields, ∀ draft, Patient (field.fill draft)) {gap between after : Bytes}
    (blank : Blank gap) (blankBetween : Blank between) (blankAfter : Blank after)
    {draft last : σ} {members : List (String × String)} (fills : Fills fields draft members last)
    (rest : Bytes) (first : Bool) (fuel : Nat) (enough : members.length ≤ fuel) :
    fromMembers fields first (fuel + 1) draft
      (spacedOctets gap first (members.map fun m => memberOctets between m.1 (utf8 m.2)) ++
        (after ++ Byte.closeBrace :: rest)) = .ok (last, Byte.closeBrace :: rest) := by
  induction fills generalizing first fuel with
  | done draft =>
      rw [List.map_nil, spacedOctets, List.nil_append, fromMembers,
        bind_of_ok (toMember_end blankAfter first rest)]
      rfl
  | @step draft next last name text members field named vacant spelt _ ih =>
      rw [List.length_cons] at enough
      obtain ⟨fuel, rfl⟩ : ∃ k, fuel = k + 1 := ⟨fuel - 1, by omega⟩
      have tail := ih false fuel (Nat.le_of_succ_le_succ enough)
      have head := spelt.reads _
        (delimits_spaced gap (members.map fun m => memberOctets between m.1 (utf8 m.2)) blankAfter
          rest (Or.inr rfl))
      rw [List.map_cons, spacedOctets, List.append_assoc, List.append_assoc, List.append_assoc,
        memberOctets_append, fromMembers, bind_of_ok (toMember_spaced blank first _)]
      simp only [↓reduceIte]
      rw [bind_of_ok (stringBody_body name _)]
      simp only [named, vacant, Bool.false_eq_true, ↓reduceIte]
      rw [bind_of_ok (colon_cons _), bind_apply,
        patient field (List.mem_of_find?_eq_some named) draft between _ blankBetween, head]
      exact tail

namespace Value

/-! ### Values that are read back -/

/-- A value inside at most `depth - 1` lists and objects of its own, in which all numbers are whole
and fit into 64 bits, and all objects are in order. -/
inductive Regular : Nat → Value → Prop where
  | null (depth : Nat) : Regular (depth + 1) .null
  | bool (depth : Nat) (b : Bool) : Regular (depth + 1) (.bool b)
  | whole (depth : Nat) {n : Int} (least : -2 ^ 63 ≤ n) (greatest : n < 2 ^ 64) :
      Regular (depth + 1) (.whole n)
  | string (depth : Nat) (s : String) : Regular (depth + 1) (.string s)
  | list {depth : Nat} {items : List Value} (each : ∀ v ∈ items, Regular (depth + 1) v) :
      Regular (depth + 2) (.list items)
  | object {depth : Nat} (members : Dict Value)
      (each : ∀ m ∈ members.entries, Regular (depth + 1) m.2) :
      Regular (depth + 2) (.object members.entries)

theorem patient_reader (depth : Nat) : Patient (reader (depth + 1)) := patient_peek.bind _

/-- A string that was written is read back as a value. -/
theorem reader_string (depth : Nat) (s : String) (rest : Bytes) :
    reader (depth + 1) (utf8 (Write.string s) ++ rest) = .ok (.string s, rest) := by
  rw [utf8_string, List.cons_append, List.append_assoc, List.singleton_append, reader,
    bind_of_ok (peek_cons _ (by decide))]
  change (do skip; return .string (← stringBody) : Reader Value) _ = _
  rw [bind_of_ok (skip_cons _ _), bind_of_ok (stringBody_body s rest)]
  rfl

/-- What is read as items between brackets is a list. -/
theorem reader_list (depth : Nat) {bytes rest : Bytes} {items : List Value}
    (read : elements (reader (depth + 1)) true (bytes.length + 1) bytes = .ok (items, rest)) :
    reader (depth + 2) (Byte.openBracket :: bytes) = .ok (.list items, rest) := by
  rw [reader, bind_of_ok (peek_cons _ (by decide))]
  change (do skip; return .list (← elements (reader (depth + 1)) true ((← remaining) + 1)) :
    Reader Value) _ = _
  rw [bind_of_ok (skip_cons _ _), bind_of_ok (remaining_apply _), bind_of_ok read]
  rfl

theorem reader_object (depth : Nat) {bytes rest : Bytes} {members : List (String × Value)}
    (read : Reader.members (reader (depth + 1)) true (bytes.length + 1) bytes =
      .ok (members, rest)) :
    reader (depth + 2) (Byte.openBrace :: bytes) = .ok (ofMembers members, rest) := by
  rw [reader, bind_of_ok (peek_cons _ (by decide))]
  change (do
    skip
    return ofMembers (← Reader.members (reader (depth + 1)) true ((← remaining) + 1)) :
      Reader Value) _ = _
  rw [bind_of_ok (skip_cons _ _), bind_of_ok (remaining_apply _), bind_of_ok read]
  rfl

/-- A whole number within the bounds of the reader is spelt by its digits. -/
theorem spells_whole (depth : Nat) {n : Int} (least : -2 ^ 63 ≤ n) (greatest : n < 2 ^ 64) :
    Spells (reader (depth + 1)) (utf8 (Write.integer n)) (.whole n) := by
  obtain ⟨b, more, octets, numeral⟩ := integer_opens n
  have solid := solid_of_numeral numeral
  refine ⟨⟨b, more, octets, solid.1, solid.2⟩, fun rest ends => ?_⟩
  have whole := number_spelt n least greatest ends
  rw [octets, List.cons_append] at whole ⊢
  rw [reader, bind_of_ok (peek_cons _ solid.1)]
  have noLetter : b ≠ 0x6E ∧ b ≠ 0x74 ∧ b ≠ 0x66 := by
    refine ⟨?_, ?_, ?_⟩ <;> rintro rfl <;> rcases numeral with same | digit <;>
      exact absurd ‹_› (by decide)
  simp only [noLetter.1, noLetter.2.1, noLetter.2.2, ↓reduceIte, if_pos numeral]
  rw [bind_of_ok whole]
  rfl

/-! ### Every part on a line of its own -/

/-- A new line and its indentation are a gap. -/
theorem blank_newline (level : Nat) : Blank (utf8 (newline level)) := by
  intro b member
  rw [newline, utf8_append, List.mem_append] at member
  rcases member with first | indent
  · obtain rfl : b = 0x0A := List.mem_singleton.1 first
    rfl
  · rw [utf8_ofList] at indent
    obtain ⟨c, spaces, octets⟩ := List.mem_flatMap.1 indent
    obtain rfl := List.eq_of_mem_replicate spaces
    obtain rfl : b = 0x20 := List.mem_singleton.1 octets
    rfl

/-- The blanks before the closing bracket of a block. -/
def lastGap (level : Nat) (parts : List String) : Bytes :=
  if parts.isEmpty then [] else utf8 (newline level)

/-- What stands before a closing mark is a gap. -/
theorem blank_lastGap (level : Nat) (parts : List String) : Blank (lastGap level parts) := by
  rw [lastGap]
  split
  · exact blank_nil
  · exact blank_newline level

/-- A block is its parts on lines of their own, between an opening and a closing text. -/
theorem utf8_block (level : Nat) (opening closing : String) (parts : List String) :
    utf8 (block level opening closing parts) =
      utf8 opening ++ (spacedOctets (utf8 (newline (level + 1))) true (parts.map utf8) ++
        (lastGap level parts ++ utf8 closing)) := by
  cases parts with
  | nil => exact utf8_append opening closing
  | cons part parts =>
      have spaced := utf8_intercalate_spaced (newline (level + 1)) (part :: parts)
      rw [block, lastGap]
      simp only [List.isEmpty_cons, Bool.false_eq_true, ↓reduceIte, utf8_append] at spaced ⊢
      rw [← spaced]
      simp only [List.append_assoc]

/-- The items of a list are laid out one by one. -/
theorem prettyItems_eq (level : Nat) (items : List Value) :
    prettyItems level items = items.map (pretty level) := by
  induction items with
  | nil => rfl
  | cons item items ih => rw [prettyItems, ih, List.map_cons]

theorem prettyMembers_eq (level : Nat) (members : List (String × Value)) :
    prettyMembers level members =
      members.map fun m => Write.string m.1 ++ ": " ++ pretty level m.2 := by
  induction members with
  | nil => rfl
  | cons m members ih => rw [prettyMembers, ih, List.map_cons]

/-- A member is laid out with a space behind its colon. -/
theorem utf8_prettyMember (name text : String) :
    utf8 (Write.string name ++ ": " ++ text) = memberOctets [0x20] name (utf8 text) := by
  rw [utf8_append, utf8_append, List.append_assoc]
  rfl

/-- The octets of an object on several lines. -/
theorem utf8_prettyObject (level : Nat) (members : List (String × Value)) :
    ∃ after, Blank after ∧ utf8 (pretty level (.object members)) =
      Byte.openBrace :: (spacedOctets (utf8 (newline (level + 1))) true
        (members.map fun m => memberOctets [0x20] m.1 (utf8 (pretty (level + 1) m.2))) ++
          (after ++ [Byte.closeBrace])) := by
  refine ⟨_, blank_lastGap level (prettyMembers (level + 1) members), ?_⟩
  rw [pretty, utf8_block, prettyMembers_eq, List.map_map]
  simp only [Function.comp_def, utf8_prettyMember]
  rfl

/-- A value that is written on several lines is read back. -/
theorem Regular.spells_pretty {depth : Nat} {v : Value} (regular : Regular depth v) (level : Nat) :
    Spells (reader depth) (utf8 (v.pretty level)) v := by
  -- The parts of a value stand one level further in, so the level is left open.
  induction regular generalizing level with
  | null depth => exact ⟨⟨0x6E, _, rfl, by decide, by decide⟩, fun rest _ => rfl⟩
  | bool depth b =>
      cases b with
      | true => exact ⟨⟨0x74, _, rfl, by decide, by decide⟩, fun rest _ => rfl⟩
      | false => exact ⟨⟨0x66, _, rfl, by decide, by decide⟩, fun rest _ => rfl⟩
  | whole depth least greatest => exact spells_whole depth least greatest
  | string depth s => exact ⟨⟨Byte.quote, _, utf8_string s, by decide, by decide⟩, fun rest _ =>
      reader_string depth s rest⟩
  | @list depth items _ ih =>
      let parts := items.map fun v => (v, utf8 (v.pretty (level + 1)))
      have each : ∀ p ∈ parts, Spells (reader (depth + 1)) p.2 p.1 := by
        intro p member
        obtain ⟨v, listed, rfl⟩ := List.mem_map.1 member
        exact ih v listed (level + 1)
      have same : parts.map (·.1) = items := by
        rw [List.map_map]
        exact List.map_id items
      have octets : utf8 ((Value.list items).pretty level) =
          Byte.openBracket :: (spacedOctets (utf8 (newline (level + 1))) true (parts.map (·.2)) ++
            (lastGap level (prettyItems (level + 1) items) ++ [Byte.closeBracket])) := by
        rw [pretty, utf8_block, prettyItems_eq, List.map_map, List.map_map]
        rfl
      refine ⟨⟨Byte.openBracket, _, octets, by decide, by decide⟩, fun rest _ => ?_⟩
      have read := elements_whole (blank_newline (level + 1))
        (blank_lastGap level (prettyItems (level + 1) items)) parts each rest
      rw [same] at read
      rw [octets, List.cons_append, List.append_assoc, List.append_assoc, List.singleton_append]
      exact reader_list depth read
  | @object depth members _ ih =>
      let parts := members.entries.map fun m => (m, utf8 (m.2.pretty (level + 1)))
      have each : ∀ p ∈ parts, Spells (reader (depth + 1)) p.2 p.1.2 := by
        intro p member
        obtain ⟨m, listed, rfl⟩ := List.mem_map.1 member
        exact ih m listed (level + 1)
      have same : parts.map (·.1) = members.entries := by
        rw [List.map_map]
        exact List.map_id members.entries
      obtain ⟨after, blank, octets⟩ := utf8_prettyObject level members.entries
      have spaced : (members.entries.map fun m =>
          memberOctets [0x20] m.1 (utf8 (pretty (level + 1) m.2))) =
            parts.map fun p => memberOctets [0x20] p.1.1 p.2 := by
        rw [List.map_map]
        rfl
      rw [spaced] at octets
      refine ⟨⟨Byte.openBrace, _, octets, by decide, by decide⟩, fun rest _ => ?_⟩
      have read := members_whole (patient_reader depth) (blank_newline (level + 1)) blank_space
        blank parts each rest
      rw [same] at read
      rw [octets, List.cons_append, List.append_assoc, List.append_assoc, List.singleton_append,
        reader_object depth read, ofMembers, Dict.ofList_entries]

/-- An object on several lines whose members fill the fields of a record is read as what the record
amounts to. -/
theorem spells_prettyObject {format : Record σ α}
    (patient : ∀ field ∈ format.fields, ∀ draft, Patient (field.fill draft)) (level : Nat)
    {members : List (String × Value)} (last : σ) {a : α}
    (fills : Fills format.fields format.blank
      (members.map fun m => (m.1, m.2.pretty (level + 1))) last)
    (complete : format.finish last = some a) :
    Spells format.read (utf8 ((Value.object members).pretty level)) a := by
  obtain ⟨after, blank, octets⟩ := utf8_prettyObject level members
  refine ⟨⟨Byte.openBrace, _, octets, by decide, by decide⟩, fun rest _ => ?_⟩
  have bound := length_le_spacedOctets (utf8 (newline (level + 1))) true
    (members.map fun m => memberOctets [0x20] m.1 (utf8 (m.2.pretty (level + 1))))
  have read := Record.fromMembers_spaced patient (blank_newline (level + 1)) blank_space blank fills
    rest true
  rw [List.length_map] at bound
  simp only [List.length_map, List.map_map, Function.comp_def] at read
  rw [octets, List.cons_append, List.append_assoc, List.append_assoc, List.singleton_append,
    Record.read, bind_of_ok (peek_cons _ (by decide))]
  simp only [↓reduceIte]
  rw [bind_of_ok (skip_cons _ _), bind_of_ok (remaining_apply _),
    bind_of_ok (read _ (Nat.le_trans bound (spaced_le ..)))]
  simp only [complete]
  rfl

/-! ### No blanks at all -/

/-- Parts with commas between them are spaced parts without gaps. -/
theorem joinedOctets_eq (first : Bool) (texts : List String) :
    joinedOctets first texts = spacedOctets [] first (texts.map utf8) := by
  induction texts generalizing first with
  | nil => rfl
  | cons text texts ih => rw [joinedOctets, ih, List.map_cons, spacedOctets, List.nil_append]

/-- A member without a gap is one with an empty gap. -/
theorem utf8_memberText_eq (m : String × String) :
    utf8 (memberText m) = memberOctets [] m.1 (utf8 m.2) := by
  rw [memberText, utf8_append, utf8_append, List.append_assoc]
  rfl

/-- A text is read as a value that could be read back. -/
structure Writing (depth : Nat) (text : String) (v : Value) : Prop where
  spells : Spells (reader depth) (utf8 text) v
  regular : Regular depth v

namespace Writing

/-- A string is written in a way that gives it as a value. -/
theorem string (depth : Nat) (s : String) : Writing (depth + 1) (Write.string s) (.string s) where
  spells := ⟨⟨Byte.quote, _, utf8_string s, by decide, by decide⟩, fun rest _ =>
    reader_string depth s rest⟩
  regular := .string depth s

/-- A whole number within the bounds of the reader is written in a way that gives it as a value. -/
theorem whole (depth : Nat) {n : Int} (least : -2 ^ 63 ≤ n) (greatest : n < 2 ^ 64) :
    Writing (depth + 1) (Write.integer n) (.whole n) where
  spells := spells_whole depth least greatest
  regular := .whole depth least greatest

variable {depth : Nat} {write : α → String} {value : α → Value}

/-- A list is written in a way that gives it as a value if its items are. -/
theorem list {items : List α} (each : ∀ a ∈ items, Writing (depth + 1) (write a) (value a)) :
    Writing (depth + 2) (Write.list (items.map write)) (.list (items.map value)) where
  spells := by
    let parts := items.map fun a => (value a, utf8 (write a))
    have octets : utf8 (Write.list (items.map write)) =
        Byte.openBracket :: (spacedOctets [] true (parts.map (·.2)) ++
          ([] ++ [Byte.closeBracket])) := by
      rw [utf8_list, joinedOctets_eq, List.map_map, List.map_map]
      rfl
    refine ⟨⟨Byte.openBracket, _, octets, by decide, by decide⟩, fun rest _ => ?_⟩
    have spelt : ∀ p ∈ parts, Spells (reader (depth + 1)) p.2 p.1 := by
      intro p member
      obtain ⟨a, listed, rfl⟩ := List.mem_map.1 member
      exact (each a listed).spells
    have same : parts.map (·.1) = items.map value := by
      rw [List.map_map]
      rfl
    have read := elements_whole blank_nil blank_nil parts spelt rest
    rw [same] at read
    rw [octets, List.cons_append, List.append_assoc, List.append_assoc, List.singleton_append]
    exact reader_list depth read
  regular := by
    refine .list fun v member => ?_
    obtain ⟨a, listed, rfl⟩ := List.mem_map.1 member
    exact (each a listed).regular

/-- The members of an object may be written in any order. -/
theorem object (depth : Nat) (members : List (String × String × Value))
    (each : ∀ m ∈ members, Writing (depth + 1) m.2.1 m.2.2) :
    Writing (depth + 2) (Write.object (members.map fun m => (m.1, m.2.1)))
      (ofMembers (members.map fun m => (m.1, m.2.2))) where
  spells := by
    let parts := members.map fun m => ((m.1, m.2.2), utf8 m.2.1)
    have octets : utf8 (Write.object (members.map fun m => (m.1, m.2.1))) =
        Byte.openBrace :: (spacedOctets [] true (parts.map fun p => memberOctets [] p.1.1 p.2) ++
          ([] ++ [Byte.closeBrace])) := by
      rw [utf8_object, joinedOctets_eq, List.map_map, List.map_map, List.map_map]
      simp only [Function.comp_def, utf8_memberText_eq]
      rfl
    refine ⟨⟨Byte.openBrace, _, octets, by decide, by decide⟩, fun rest _ => ?_⟩
    have spelt : ∀ p ∈ parts, Spells (reader (depth + 1)) p.2 p.1.2 := by
      intro p member
      obtain ⟨m, listed, rfl⟩ := List.mem_map.1 member
      exact (each m listed).spells
    have same : parts.map (·.1) = members.map fun m => (m.1, m.2.2) := by
      rw [List.map_map]
      rfl
    have read := members_whole (patient_reader depth) blank_nil blank_nil blank_nil parts spelt rest
    rw [same] at read
    rw [octets, List.cons_append, List.append_assoc, List.append_assoc, List.singleton_append]
    exact reader_object depth read
  regular := by
    refine .object _ fun m member => ?_
    have written := Dict.mem_of_get?_ofList (Dict.get?_eq_some_iff.2 member)
    obtain ⟨n, listed, same⟩ := List.mem_map.1 written
    rw [← (Prod.mk.inj same).2]
    exact (each n listed).regular

/-- A dictionary is written in a way that gives it as a value if its values are, with its keys in
their order. -/
theorem dict {d : Dict α} (each : ∀ e ∈ d.entries, Writing (depth + 1) (write e.2) (value e.2)) :
    Writing (depth + 2) (Write.dict write d) (.object (d.map fun _ a => value a).entries) := by
  have members : ∀ m ∈ d.entries.map (fun e => (e.1, write e.2, value e.2)),
      Writing (depth + 1) m.2.1 m.2.2 := by
    intro m member
    obtain ⟨e, listed, rfl⟩ := List.mem_map.1 member
    exact each e listed
  have written := object _ _ members
  rw [List.map_map, List.map_map] at written
  have same : ofMembers ((d.map fun _ a => value a).entries) =
      .object (d.map fun _ a => value a).entries := by
    rw [ofMembers, Dict.ofList_entries]
  rw [← same]
  exact written

/-- What is written is parsed. -/
theorem parse {text : String} {v : Value} (written : Writing (nesting + 1) text v) :
    Value.parse (utf8 text) = .ok v :=
  readAll_of_spells written.spells

end Writing

theorem compactItems_eq (items : List Value) : compactItems items = items.map compact := by
  induction items with
  | nil => rfl
  | cons item items ih => rw [compactItems, ih, List.map_cons]

theorem compactMembers_eq (members : List (String × Value)) :
    compactMembers members = members.map fun m => Write.string m.1 ++ ":" ++ compact m.2 := by
  induction members with
  | nil => rfl
  | cons m members ih => rw [compactMembers, ih, List.map_cons]

/-- A list is written as the list of its items. -/
theorem compact_list (items : List Value) :
    (Value.list items).compact = Write.list (items.map compact) := by
  rw [compact, compactItems_eq, Write.list]

/-- An object is written as the object of its members. -/
theorem compact_object (members : List (String × Value)) :
    (Value.object members).compact =
      Write.object (members.map fun m => (m.1, m.2.compact)) := by
  rw [compact, compactMembers_eq, Write.object, List.map_map]
  rfl

end Value

end ClusterGateway.Json
