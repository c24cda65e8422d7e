import ClusterGateway.Proofs.Idna.Plain
import ClusterGateway.Url.Host
import Mathlib.Data.Bool.AllAny

/-! # The characters of a host

An address of version four is written in decimal digits and dots, one of version six in hexadecimal
digits and colons, within brackets where it is a host. A domain name holds what its labels may hold:
a label is checked after its characters were mapped, and what its ASCII form adds are letters,
digits and hyphens. So there are neither blanks nor controls in the text of a host. Conversely a
plain name is read as the host that it names, and a number as the address of version four that it is.
-/

namespace ClusterGateway

/-- Whatever came of a list element by element came of one of the elements. -/
theorem exists_of_mem_mapM {α β : Type} {f : α → Option β} {xs : List α} {ys : List β}
    (mapped : xs.mapM f = some ys) : ∀ y ∈ ys, ∃ x ∈ xs, f x = some y := by
  induction xs generalizing ys with
  | nil =>
      obtain rfl : [] = ys := Option.some.inj mapped
      exact fun y member => absurd member List.not_mem_nil
  | cons x xs ih =>
      simp only [List.mapM_cons, Option.bind_eq_bind, Option.bind_eq_some_iff, Option.pure_def,
        Option.some.injEq] at mapped
      obtain ⟨first, made, rest, others, rfl⟩ := mapped
      refine List.forall_mem_cons.2 ⟨⟨x, List.mem_cons_self, made⟩, fun y member => ?_⟩
      obtain ⟨source, found, same⟩ := ih others y member
      exact ⟨source, List.mem_cons_of_mem x found, same⟩

/-! ### Addresses of version six -/

namespace Ipv6

/-- A character of an address without brackets: a hexadecimal digit or a colon. -/
def IsChar (c : Char) : Prop := c = ':' ∨ ∃ n < 16, c = Nat.digitChar n

/-- A number in hexadecimal digits has only characters that may stand in an address. -/
theorem isChar_of_mem_toDigits {c : Char} (n : Nat) (member : c ∈ Nat.toDigits 16 n) :
    IsChar c := by
  induction n using Nat.strongRecOn with
  | ind n ih =>
      by_cases small : n < 16
      · rw [Nat.toDigits_of_lt_base small, List.mem_singleton] at member
        exact Or.inr ⟨n, small, member⟩
      · rw [Nat.toDigits_of_base_le (by decide) (by omega), List.mem_append,
          List.mem_singleton] at member
        rcases member with front | rfl
        · exact ih (n / 16) (by omega) front
        · exact Or.inr ⟨n % 16, by omega, rfl⟩

/-- The groups of an address are written in characters that may stand in one. -/
theorem isChar_of_mem_groupsText (groups : List Nat) :
    ∀ c ∈ (groupsText groups).toList, IsChar c := by
  rw [groupsText, String.toList_intercalate]
  refine forall_mem_intercalate (fun c member => ?_) fun part found c member => ?_
  · exact Or.inl (by simpa using member)
  · simp only [List.map_map, List.mem_map, Function.comp_apply, String.toList_ofList] at found
    obtain ⟨n, -, rfl⟩ := found
    exact isChar_of_mem_toDigits n member

/-- The short text of an address has only characters that may stand in one. -/
theorem isChar_of_mem_compressed (a : Ipv6) : ∀ c ∈ a.compressed.toList, IsChar c := by
  intro c member
  rw [compressed] at member
  dsimp only at member
  split at member
  · exact isChar_of_mem_groupsText _ c member
  · rw [String.toList_append, String.toList_append, List.mem_append, List.mem_append] at member
    rcases member with (front | gap) | behind
    · exact isChar_of_mem_groupsText _ c front
    · exact Or.inl (by simpa using gap)
    · exact isChar_of_mem_groupsText _ c behind

end Ipv6

/-! ### Domain names -/

namespace Idna

/-- The labels of a domain name are told by characters that may stand in one. -/
def Clean (text : List Char) : Prop := ∀ c ∈ text, isForbidden c = false

namespace Punycode

/-- No digit of the encoding is forbidden in a domain name. -/
theorem isForbidden_digit : ∀ n < 36, isForbidden (digit n) = false := by decide

/-- The threshold of a digit is at most 26, so the digit above it is always one of the 36 that there
are. -/
theorem threshold_le (place bias : Nat) : threshold place bias ≤ 26 := by
  unfold threshold
  omega

/-- The digits in which a number is encoded are clean. -/
theorem clean_digits (bias number place : Nat) : Clean (digits bias number place) := by
  induction number using Nat.strongRecOn generalizing place with
  | ind number ih =>
      have positive := threshold_pos place bias
      have bound := threshold_le place bias
      intro c member
      rw [digits] at member
      split at member
      · rw [List.mem_singleton] at member
        rw [member]
        exact isForbidden_digit number (by omega)
      · rcases List.mem_cons.1 member with rfl | behind
        · have rest := Nat.mod_lt (number - threshold place bias)
            (show 0 < 36 - threshold place bias by omega)
          exact isForbidden_digit _ (by omega)
        · refine ih _ ?_ _ c behind
          exact Nat.lt_of_le_of_lt (Nat.div_le_self _ _) (by omega)

/-- All that is written so far is clean. -/
def Writing.Clean (w : Writing) : Prop := ∀ part ∈ w.parts, Idna.Clean part

/-- What is written stays clean when a character of the label is passed. -/
theorem Writing.Clean.pass {w : Writing} (clean : w.Clean) (first wanted : Nat) (c : Char) :
    (w.pass first wanted c).Clean := by
  rw [Writing.pass]
  split
  · exact clean
  · split
    · exact List.forall_mem_cons.2 ⟨clean_digits w.bias w.steps 36, clean⟩
    · exact clean

theorem Writing.Clean.foldl_pass {w : Writing} (clean : w.Clean) (first wanted : Nat)
    (label : List Char) : (label.foldl (Writing.pass first wanted) w).Clean := by
  induction label generalizing w with
  | nil => exact clean
  | cons c label ih => exact ih (clean.pass first wanted c)

/-- What is written stays clean when the characters above the basic ones find their places. -/
theorem Writing.Clean.place {w : Writing} (clean : w.Clean) (label : List Char) (first : Nat)
    (others : List Nat) (next : Nat) : (Writing.place label first others next w).Clean := by
  induction others generalizing w next with
  | nil => exact clean
  | cons wanted others ih =>
      have stepped : Writing.Clean { w with steps := w.steps + (wanted - next) * (w.placed + 1) } :=
        clean
      refine ih ?_ (wanted + 1)
      exact stepped.foldl_pass first wanted label

/-- The encoding of a clean label is clean. -/
theorem clean_encode {label : List Char} (clean : Idna.Clean label) :
    Idna.Clean (encode label) := by
  have basic : Idna.Clean (label.filter isAscii) := fun c member =>
    clean c (List.mem_filter.1 member).1
  have front : Idna.Clean (if (label.filter isAscii).isEmpty then []
      else label.filter isAscii ++ ['-']) := by
    split
    · exact fun c member => absurd member List.not_mem_nil
    · exact List.forall_mem_append.2 ⟨basic, List.forall_mem_singleton.2 (by decide)⟩
  intro c member
  rw [encode] at member
  obtain ⟨part, found, inside⟩ := List.mem_flatten.1 member
  have start : Writing.Clean { parts := [_], placed := (label.filter isAscii).length } :=
    List.forall_mem_singleton.2 front
  exact start.place label _ _ _ part (List.mem_reverse.1 found) c inside

end Punycode

/-- The meaning of a label is clean: a character that may not stand in a domain name is refused. -/
theorem clean_of_meant? {label meaning : List Char} (meant : meant? label = some meaning) :
    Clean meaning := by
  have checked (label : List Char)
      (kept : (if labelOk label ∧ !label.any isForbidden then some label else none) =
        some meaning) : Clean meaning := by
    split at kept
    · next ok =>
        obtain rfl := Option.some.inj kept
        simpa [Clean] using ok.2
    · exact absurd kept (by simp)
  rw [meant?] at meant
  dsimp only [Option.bind_eq_bind] at meant
  split at meant
  · obtain ⟨label, -, kept⟩ := Option.bind_eq_some_iff.1 meant
    exact checked label kept
  · exact checked label meant

/-- What a clean label is turned into for a domain name is clean. -/
theorem clean_of_toAscii? {label ascii : List Char} (clean : Clean label)
    (written : toAscii? label = some ascii) : Clean ascii := by
  rw [toAscii?] at written
  split at written
  · exact Option.some.inj written ▸ clean
  · split at written
    · exact absurd written (by simp)
    · obtain rfl := Option.some.inj written
      intro c member
      rcases List.mem_append.1 member with mark | behind
      · exact List.all_iff_forall_prop.1
          (show asciiMark.all (isForbidden · = false) = true by decide) c mark
      · exact Punycode.clean_encode clean c behind

/-- A domain name holds nothing but what its labels may hold, and dots. -/
theorem clean_of_domain? {text name : List Char} (found : domain? text = some name) :
    Clean name := by
  simp only [domain?, Option.bind_eq_bind, Option.bind_eq_some_iff] at found
  obtain ⟨mapped, -, labels, meant, found⟩ := found
  split at found
  · exact absurd found (by simp)
  · simp only [Option.bind_eq_some_iff, Option.pure_def, Option.some.injEq] at found
    obtain ⟨parts, written, rfl⟩ := found
    refine forall_mem_intercalate (fun c member => ?_) fun part inside => ?_
    · rw [List.mem_singleton.1 member]
      decide
    · obtain ⟨label, known, ascii⟩ := exists_of_mem_mapM written part inside
      obtain ⟨raw, -, meaning⟩ := exists_of_mem_mapM meant label known
      exact clean_of_toAscii? (clean_of_meant? meaning) ascii

/-- A character that may stand in a domain name is neither a blank nor a control character. -/
theorem graphic_of_clean {c : Char} (clean : isForbidden c = false) : 0x20 < c.toNat := by
  simp only [isForbidden, Bool.or_eq_false_iff, decide_eq_false_iff_not] at clean
  omega

end Idna

/-! ### Hosts -/

namespace UrlHost

/-- A domain name that is read from a text is clean. -/
theorem clean_of_parse {text : List Char} {name : String}
    (parsed : parse text = .ok (.domain name)) : Idna.Clean name.toList := by
  unfold parse at parsed
  split at parsed
  · rw [ofBracketed] at parsed
    split at parsed
    · exact absurd parsed (by simp)
    · split at parsed <;> exact absurd parsed (by simp)
  · split at parsed
    · exact absurd parsed (by simp)
    · exact absurd parsed (by simp)
    · next found =>
        obtain ⟨decoded, -, found⟩ := Option.bind_eq_some_iff.1 found
        split at parsed
        · split at parsed <;> exact absurd parsed (by simp)
        · obtain rfl := UrlHost.domain.inj (Except.ok.inj parsed)
          rw [String.toList_ofList]
          exact Idna.clean_of_domain? found

/-- In the text of a host there is a colon only behind a bracket. -/
theorem notMem_or_bracketed {text : List Char} {host : UrlHost}
    (parsed : parse text = .ok host) :
    ':' ∉ host.text.toList ∨ host.text.toList.head? = some '[' := by
  cases host with
  | domain name =>
      exact Or.inl fun member => absurd (clean_of_parse parsed ':' member) (by decide)
  | v4 address =>
      have digits (n : Nat) : ':' ∉ decimalDigits n := notMem_decimalDigits (by decide) n
      refine Or.inl ?_
      rw [UrlHost.text, Ipv4.toList_text]
      simp [digits]
  | v6 address => exact Or.inr (by rw [UrlHost.text]; simp)

/-- A digit is neither a blank nor a control character. -/
theorem graphic_of_isDigit {c : Char} (digit : c.isDigit = true) : 0x20 < c.toNat := by
  simp only [Char.isDigit, Bool.and_eq_true, decide_eq_true_eq] at digit
  have low : (48 : UInt32).toNat ≤ c.val.toNat := UInt32.le_iff_toNat_le.1 digit.1
  exact Nat.lt_of_lt_of_le (by decide) low

/-- Neither blanks nor controls stand in the text of a host. -/
theorem graphic_of_parse {text : List Char} {host : UrlHost} (parsed : parse text = .ok host) :
    ∀ c ∈ host.text.toList, 0x20 < c.toNat := by
  cases host with
  | domain name => exact fun c member => Idna.graphic_of_clean (clean_of_parse parsed c member)
  | v4 address =>
      have digits (n : Nat) : ∀ c ∈ decimalDigits n, 0x20 < c.toNat := fun c member =>
        graphic_of_isDigit (isDigit_of_mem_decimalDigits member)
      have dot : 0x20 < '.'.toNat := by decide
      rw [UrlHost.text, Ipv4.toList_text]
      simp only [List.forall_mem_append, List.forall_mem_cons]
      exact ⟨digits _, dot, digits _, dot, digits _, dot, digits _⟩
  | v6 address =>
      rw [UrlHost.text, String.toList_append, String.toList_append]
      refine List.forall_mem_append.2 ⟨List.forall_mem_append.2
        ⟨List.all_iff_forall_prop.1 (by decide), fun c member => ?_⟩,
        List.all_iff_forall_prop.1 (by decide)⟩
      rcases address.isChar_of_mem_compressed c member with rfl | ⟨n, small, rfl⟩
      · decide
      · exact (by decide : ∀ n < 16, 0x20 < (Nat.digitChar n).toNat) n small

end UrlHost

/-! ### Plain names and numbers -/

/-- Digits are plain: they mean themselves in a domain name. -/
theorem Idna.isPlain_of_isDigit {c : Char} (digit : c.isDigit = true) : Idna.IsPlain c := by
  have bounds := digit_bounds digit
  refine ⟨by omega, by omega, ?_⟩
  have all : ∀ k < 10, Idna.isForbidden (Char.ofNat (0x30 + k)) = false := by decide
  have place := all (c.toNat - 0x30) (by omega)
  rwa [show 0x30 + (c.toNat - 0x30) = c.toNat by omega, Char.ofNat_toNat] at place

/-- Nothing is decoded where there is no percent sign. -/
theorem Percent.decode_of_notMem {bytes : Bytes} (clean : 0x25 ∉ bytes) : decode bytes = bytes := by
  fun_induction decode bytes with
  | case1 => rfl
  | case2 high low rest => exact absurd List.mem_cons_self clean
  | case3 high low rest => exact absurd List.mem_cons_self clean
  | case4 b rest _ ih => rw [ih fun member => clean (List.mem_cons_of_mem b member)]

namespace UrlHost

/-- A plain text is decoded as it is. -/
theorem domain?_decoded_of_plain {text : List Char} (plain : ∀ c ∈ text, Idna.IsPlain c)
    (bare : ∀ label ∈ splitAt '.' text, ¬ Idna.asciiMark.isPrefixOf label = true) :
    ((ofUtf8? (Percent.decode (utf8 (String.ofList text)))).bind
      fun decoded => Idna.domain? decoded.toList) = some text := by
  have octets : utf8 (String.ofList text) = text.map fun c => UInt8.ofNat c.toNat := by
    rw [utf8_ofList]
    exact flatMap_utf8EncodeChar_of_ascii fun c member => (plain c member).ascii
  have clean : 0x25 ∉ utf8 (String.ofList text) := by
    rw [octets]
    intro member
    obtain ⟨c, known, code⟩ := List.mem_map.1 member
    have ascii := (plain c known).ascii
    have number : c.toNat = '%'.toNat := by
      have value := congrArg UInt8.toNat code
      rw [UInt8.toNat_ofNat', Nat.mod_eq_of_lt (by omega)] at value
      exact value
    obtain rfl : c = '%' := Char.toNat_inj.1 number
    exact absurd (plain '%' known).allowed (by decide)
  rw [Percent.decode_of_notMem clean, ofUtf8?_utf8, Option.bind_some, String.toList_ofList,
    Idna.domain?_of_plain plain bare]

/-- A plain name is an address if it ends in a number, and else the domain name that it is. -/
theorem parse_of_plain {text : List Char} (plain : ∀ c ∈ text, Idna.IsPlain c)
    (bare : ∀ label ∈ splitAt '.' text, ¬ Idna.asciiMark.isPrefixOf label = true)
    (nonempty : text ≠ []) :
    parse text =
      if endsInNumber text then (address? text).elim (.error .badIpv4) (.ok ∘ v4)
      else .ok (domain (String.ofList text)) := by
  obtain ⟨c, rest, rfl⟩ := List.exists_cons_of_ne_nil nonempty
  unfold parse
  split
  · next rest' shape =>
      obtain ⟨rfl, -⟩ := List.cons.inj shape
      exact absurd (plain '[' List.mem_cons_self).allowed (by decide)
  · rw [domain?_decoded_of_plain plain bare]
    dsimp only
    cases address? (c :: rest) <;> rfl

/-- Decimal digits have their decimal value. -/
theorem valueIn?_of_digits {digits : List Char} (decimal : ∀ c ∈ digits, c.isDigit = true) :
    valueIn? 10 digits = some (decimalValue digits) := by
  rw [valueIn?, decimalValue]
  generalize 0 = value
  induction digits generalizing value with
  | nil => rfl
  | cons c digits ih =>
      obtain ⟨first, others⟩ := List.forall_mem_cons.1 decimal
      have bounds := digit_bounds first
      have value? : Ipv6.hexValue? c = some (c.toNat - 0x30) := if_pos first
      rw [List.foldlM_cons, value?, Option.bind_some, if_pos (by omega), Option.bind_eq_bind,
        Option.bind_some, ih others, List.foldl_cons, Nat.mul_comm]

/-- A decimal number is read back as that number. -/
theorem number?_decimalDigits (n : Nat) : number? (decimalDigits n) = some n := by
  have decimal : ∀ c ∈ decimalDigits n, c.isDigit = true := fun _ => isDigit_of_mem_decimalDigits
  have value := valueIn?_of_digits decimal
  rw [decimalValue_decimalDigits] at value
  unfold number?
  split
  · next empty => exact absurd empty (decimalDigits_ne_nil n)
  · next shape => exact absurd (decimal 'x' (by rw [shape]; simp)) (by decide)
  · next shape => exact absurd (decimal 'X' (by rw [shape]; simp)) (by decide)
  · next shape =>
      have long := length_decimalDigits_of_head? (n := n) (by rw [shape]; rfl)
      rw [shape] at long
      exact absurd long (by simp)
  · exact value

/-- A single number of 32 bits is an address. -/
theorem addressOf?_singleton {n : Nat} (small : n < 2 ^ 32) :
    addressOf? [n] = some ⟨n.toUInt32⟩ := by
  have fits : ¬ Nat.pow 256 4 ≤ n := by
    have whole : Nat.pow 256 4 = 2 ^ 32 := by decide
    omega
  simp [addressOf?, fits]

/-- A number is read as the address of version four that it is. -/
theorem parse_decimalDigits {n : Nat} (small : n < 2 ^ 32) :
    parse (decimalDigits n) = .ok (v4 ⟨n.toUInt32⟩) := by
  have decimal : ∀ c ∈ decimalDigits n, c.isDigit = true := fun _ => isDigit_of_mem_decimalDigits
  have whole : splitAt '.' (decimalDigits n) = [decimalDigits n] :=
    splitAt_of_notMem (notMem_decimalDigits (by decide) n)
  have last : labels (decimalDigits n) = [decimalDigits n] := by
    rw [labels, whole]
    exact if_neg (by simp [decimalDigits_ne_nil])
  have bare : ∀ label ∈ splitAt '.' (decimalDigits n),
      ¬ Idna.asciiMark.isPrefixOf label = true := by
    rw [whole]
    intro label member marked
    obtain rfl := List.mem_singleton.1 member
    have start := (List.isPrefixOf_iff_prefix.1 marked).subset (a := 'x') (by decide)
    exact notMem_decimalDigits (by decide) n start
  have number : endsInNumber (decimalDigits n) = true := by
    rw [endsInNumber, last]
    simp [number?_decimalDigits]
  have address : address? (decimalDigits n) = some ⟨n.toUInt32⟩ := by
    rw [address?, last]
    simpa [number?_decimalDigits] using addressOf?_singleton small
  rw [parse_of_plain (fun c member => Idna.isPlain_of_isDigit (decimal c member)) bare
    (decimalDigits_ne_nil n), if_pos number, address]
  rfl

end UrlHost

end ClusterGateway
