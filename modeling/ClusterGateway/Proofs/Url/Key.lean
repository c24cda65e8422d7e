import ClusterGateway.Location.Backend
import ClusterGateway.Proofs.Replication.Agreement
import ClusterGateway.Proofs.Url.Host
import Mathlib.Data.List.TakeDrop
import Mathlib.Data.List.TakeWhile

/-! # Keys read as URLs

A backend is known by host and port. Such a key may itself be read as a URL, its host as the scheme
and its port as the rest. There are no blanks in it, so nothing is dropped of it; and what stands
before its first colon is a scheme of a web server only if the host has that name. A key with
another host leads to no web server. The key of a host that is named like a scheme leads to one, but
to another: its port is a number where a host is expected, and so it is read as an address.
-/

namespace ClusterGateway

namespace Url

open Table (exists_of_map_ok)

/-- Nothing is dropped of a text without blanks and controls. -/
theorem stripped_of_graphic {text : String} (graphic : ∀ c ∈ text.toList, 0x20 < c.toNat) :
    stripped text = text.toList := by
  have keeps : ∀ c ∈ text.toList, isEdge c = false := fun c member =>
    decide_eq_false (Nat.not_le_of_gt (graphic c member))
  have unbroken : ∀ c ∈ text.toList, (!isBreak c) = true := by
    intro c member
    have above := graphic c member
    rw [Bool.not_eq_true', ← Bool.not_eq_true]
    intro broken
    simp only [isBreak, Bool.or_eq_true, decide_eq_true_eq] at broken
    rcases broken with (rfl | rfl) | rfl <;> exact absurd above (by decide)
  rw [stripped, Text.trimBy_eq_self (fun c first => keeps c (List.mem_of_mem_head? first))
    fun c last => keeps c (List.mem_of_mem_getLast? last)]
  exact List.filter_eq_self.2 unbroken

/-- The scheme of a URL is what stands before its first colon, in small letters. -/
theorem scheme?_eq_some {text rest : List Char} {scheme : String}
    (found : scheme? text = some (scheme, rest)) :
    scheme = String.ofList ((text.takeWhile (· ≠ ':')).map Char.toLower) := by
  rw [scheme?] at found
  split at found
  · split at found
    · next behind cut =>
        obtain ⟨rfl, rfl⟩ := Prod.mk.inj (Option.some.inj found)
        have whole := List.takeWhile_append_dropWhile (p := isSchemeChar) (l := text)
        have clean : ∀ c ∈ text.takeWhile isSchemeChar, decide (c ≠ ':') = true := by
          intro c member
          rw [decide_eq_true_iff]
          rintro rfl
          exact absurd (List.all_eq_true.1 List.all_takeWhile ':' member) (by decide)
        rw [cut] at whole
        have front : text.takeWhile (· ≠ ':') = text.takeWhile isSchemeChar := by
          conv => lhs; rw [← whole]
          rw [List.takeWhile_append_of_pos clean, List.takeWhile_cons_of_neg (by decide),
            List.append_nil]
        rw [front]
    · exact absurd found (by simp)
  · exact absurd found (by simp)

/-- Only two schemes are those of a web server. -/
theorem Family.secure_of_web {scheme : String} {secure : Bool}
    (web : Family.ofScheme scheme = .web secure) : scheme ∈ ["http", "https"] := by
  simp only [Family.ofScheme] at web
  split at web
  · simp_all
  · split at web
    · simp_all
    · split at web
      · exact absurd web (by simp)
      · split at web <;> exact absurd web (by simp)

/-- A port that is read fits into 16 bits. -/
theorem port?_bounded {digits : List Char} {found : Option Nat} (read : port? digits = .ok found) :
    ∀ port ∈ found, port < 0x10000 := by
  rw [port?] at read
  split at read
  · obtain rfl := Except.ok.inj read
    exact fun port member => absurd member (by simp)
  · split at read
    · next fits =>
        obtain rfl := Except.ok.inj read
        exact fun port member => Option.some.inj member ▸ fits.2
    · exact absurd read (by simp)

/-- The port behind a host fits into 16 bits. -/
theorem portBehind_bounded {text : List Char} {found : Option Nat}
    (read : portBehind text = .ok found) : ∀ port ∈ found, port < 0x10000 := by
  cases text with
  | nil =>
      obtain rfl := Except.ok.inj read
      exact fun port member => absurd member (by simp)
  | cons mark digits => exact port?_bounded read

/-- The host of a web address can be read, and its port is one. -/
theorem host_of_readWeb {secure : Bool} {text : List Char} {url : WebUrl}
    (read : readWeb secure text = .ok url) :
    (∃ host, UrlHost.parse host = .ok url.host) ∧ ∀ port ∈ url.port, port < 0x10000 := by
  rw [readWeb] at read
  obtain ⟨⟨user, host, port⟩, -, read⟩ := exists_of_bind_ok read
  obtain ⟨⟨parsed, number⟩, known, read⟩ := exists_of_bind_ok read
  obtain rfl := Except.ok.inj read
  rw [readHost] at known
  split at known
  · exact absurd known (throw_bind_ne_ok _ _ _)
  · obtain ⟨found, parsed, known⟩ := exists_of_bind_ok known
    obtain ⟨port, behind, known⟩ := exists_of_bind_ok known
    obtain ⟨rfl, rfl⟩ := Prod.mk.inj (Except.ok.inj known)
    refine ⟨⟨host, parsed⟩, fun number kept => portBehind_bounded behind number ?_⟩
    exact (Option.filter_eq_some_iff.1 kept).1

/-- What is read as the address of something on a web server has one of its schemes, and a host and
a port that can be read. -/
theorem web_of_parse {text : String} {url : WebUrl} (parsed : parse text = .ok (.web url)) :
    (∃ scheme rest, scheme? (stripped text) = some (scheme, rest) ∧ scheme ∈ ["http", "https"]) ∧
      (∃ host, UrlHost.parse host = .ok url.host) ∧ ∀ port ∈ url.port, port < 0x10000 := by
  rw [parse] at parsed
  split at parsed
  · exact absurd parsed (by simp)
  · next scheme rest found =>
      split at parsed
      · next secure family =>
          obtain ⟨_, read, same⟩ := exists_of_map_ok parsed
          obtain rfl := UrlTarget.web.inj same
          exact ⟨⟨scheme, rest, found, Family.secure_of_web family⟩, host_of_readWeb read⟩
      all_goals
        obtain ⟨_, -, other⟩ := exists_of_map_ok parsed
        exact absurd other (by simp)

/-! ### Numbers behind a scheme -/

variable {text : List Char}

/-- A text without a colon has a host and nothing behind it. -/
theorem splitHost_of_notMem (clean : ':' ∉ text) (inside : Bool) :
    splitHost inside text = (text, []) := by
  induction text generalizing inside with
  | nil => rfl
  | cons c rest ih =>
      rw [List.mem_cons, not_or] at clean
      rw [splitHost, if_neg fun mark => clean.1 mark.1.symm]
      dsimp only
      rw [ih clean.2]

/-- A text without the sign for users has none. -/
theorem splitUser_of_notMem (clean : '@' ∉ text) : splitUser text = none := by
  have unmarked : text.reverse.dropWhile (· ≠ '@') = [] :=
    List.dropWhile_eq_nil_iff.2 fun c member => decide_eq_true fun mark =>
      clean (mark ▸ List.mem_reverse.1 member)
  rw [splitUser, unmarked]

/-- Where user, host and port of a web address can be read, so can the address. -/
theorem readWeb_of_parts {secure : Bool} {authority behind user host port : List Char}
    {parsed : UrlHost} {number : Option Nat}
    (cut : splitAuthority (.web secure) (text.dropWhile (isSlash (.web secure))) =
      (authority, behind))
    (named : hostText authority behind = .ok (user, host, port))
    (found : readHost host port = .ok (parsed, number)) :
    ∃ url, readWeb secure text = .ok url ∧ url.host = parsed ∧
      url.port.getD (WebUrl.defaultPort url.secure) =
        number.getD (WebUrl.defaultPort secure) := by
  rw [readWeb, cut]
  dsimp only
  rw [named]
  simp only [bind, Except.bind, found]
  refine ⟨_, rfl, rfl, ?_⟩
  cases number with
  | none => rfl
  | some n => by_cases usual : n = WebUrl.defaultPort secure <;> simp [Option.filter, usual]

/-- A number where an authority is expected is the host. -/
theorem readWeb_of_digits {host : UrlHost} (nonempty : text ≠ [])
    (decimal : ∀ c ∈ text, c.isDigit = true) (parsed : UrlHost.parse text = .ok host)
    (secure : Bool) :
    ∃ url, readWeb secure text = .ok url ∧ url.host = host := by
  have other {c d : Char} (member : c ∈ text) (mark : d.isDigit = false) : c ≠ d := fun same =>
    absurd (decimal c member) (by rw [same, mark]; simp)
  have inside {c : Char} (member : c ∈ text) : endsAuthority (.web secure) c = false := by
    simp [endsAuthority, isSlash, other member]
  have slashes : text.dropWhile (isSlash (.web secure)) = text := by
    rw [List.dropWhile_eq_self_iff]
    intro long slash
    have first := inside (List.getElem_mem long)
    rw [endsAuthority, slash] at first
    simp at first
  have authority : splitAuthority (.web secure) (text.dropWhile (isSlash (.web secure))) =
      (text, []) := by
    have unmarked : ∀ c ∈ text, (!endsAuthority (.web secure) c) = true := fun c member => by
      rw [inside member]
      rfl
    rw [slashes, splitAuthority, List.span_eq_takeWhile_dropWhile,
      List.takeWhile_eq_self_iff.2 unmarked, List.dropWhile_eq_nil_iff.2 unmarked]
  have unmarked {d : Char} (mark : d.isDigit = false) : d ∉ text := fun member =>
    other member mark rfl
  have named : hostText text [] = .ok ([], text, []) := by
    simp [hostText, splitUser_of_notMem (unmarked (d := '@') (by decide)),
      splitHost_of_notMem (unmarked (d := ':') (by decide)), nonempty]
  have found : readHost text [] = .ok (host, none) := by
    simp [readHost, nonempty, parsed, portBehind]
    rfl
  obtain ⟨url, read, same, -⟩ := readWeb_of_parts authority named found
  exact ⟨url, read, same⟩

/-- The scheme of a text whose first colon stands behind letters. -/
theorem scheme?_of_letters {front rest : List Char} (nonempty : front ≠ [])
    (letters : ∀ c ∈ front, c.isAlpha = true) :
    scheme? (front ++ ':' :: rest) = some (String.ofList (front.map Char.toLower), rest) := by
  have clean : ∀ c ∈ front, isSchemeChar c = true := fun c member => by
    simp [isSchemeChar, Char.isAlphanum, letters c member]
  have first : (front ++ ':' :: rest).head?.any Char.isAlpha = true := by
    obtain ⟨c, front, rfl⟩ := List.exists_cons_of_ne_nil nonempty
    exact letters c List.mem_cons_self
  rw [scheme?, if_pos first, List.dropWhile_append_of_pos clean, List.takeWhile_append_of_pos clean]
  simp [isSchemeChar, Char.isAlphanum]

/-- Both schemes of a web server are taken for one. -/
theorem Family.web_of_mem {scheme : String} (web : scheme ∈ ["http", "https"]) :
    ∃ secure, Family.ofScheme scheme = .web secure := by
  simp only [List.mem_cons, List.not_mem_nil, or_false] at web
  rcases web with rfl | rfl
  · exact ⟨false, rfl⟩
  · exact ⟨true, rfl⟩

end Url

namespace WebUrl

/-- The address of a web server, as the text of its host and the digits of its port. -/
theorem toList_address (url : WebUrl) :
    url.address.toList =
      url.host.text.toList ++ ':' :: decimalDigits (url.port.getD (defaultPort url.secure)) := by
  rw [address, String.toList_append, String.toList_append, toList_toString_nat,
    List.append_assoc]
  rfl

/-- Neither blanks nor controls stand in the address of a web server. -/
theorem graphic_address {url : WebUrl} {text : List Char}
    (parsed : UrlHost.parse text = .ok url.host) : ∀ c ∈ url.address.toList, 0x20 < c.toNat := by
  rw [toList_address]
  refine List.forall_mem_append.2 ⟨UrlHost.graphic_of_parse parsed,
    List.forall_mem_cons.2 ⟨by decide, fun c member => ?_⟩⟩
  exact UrlHost.graphic_of_isDigit (isDigit_of_mem_decimalDigits member)

end WebUrl

namespace Backend

/-- A key begins with the scheme of a web server and a colon, so that it may be read as a URL. -/
def LooksLikeUrl (key : String) : Prop :=
  String.ofList ((key.toList.takeWhile (· ≠ ':')).map Char.toLower) ∈ ["http", "https"]

instance (key : String) : Decidable (LooksLikeUrl key) :=
  inferInstanceAs (Decidable (_ ∈ _))

/-- A backend is a URL with the scheme of a web server, and nothing else. -/
theorem parse_eq_ok_iff {raw : String} {url : WebUrl} :
    parse raw = .ok url ↔ Url.parse raw = .ok (.web url) := by
  rw [parse]
  split <;> simp_all

/-- The key of a host has neither blanks nor control characters. -/
theorem graphic_of_address? {raw key : String} (leads : address? raw = some key) :
    ∀ c ∈ key.toList, 0x20 < c.toNat := by
  obtain ⟨url, parsed, rfl⟩ := address?_eq_some_iff.1 leads
  obtain ⟨-, ⟨host, read⟩, -⟩ := Url.web_of_parse (parse_eq_ok_iff.1 parsed)
  exact url.graphic_address read

/-- The key of a host leads to no backend, unless it begins with the scheme of one. -/
theorem address?_key {raw key : String} (leads : address? raw = some key)
    (plain : ¬ LooksLikeUrl key) : address? key = none := by
  rw [Option.eq_none_iff_forall_ne_some]
  intro other found
  obtain ⟨url, parsed, -⟩ := address?_eq_some_iff.1 found
  obtain ⟨⟨scheme, rest, split, web⟩, -⟩ := Url.web_of_parse (parse_eq_ok_iff.1 parsed)
  rw [Url.stripped_of_graphic (graphic_of_address? leads)] at split
  rw [Url.scheme?_eq_some split] at web
  exact plain web

/-- A character that is a letter in lower case is a letter. -/
theorem isAlpha_of_toLower {c : Char} (letter : c.toLower.isAlpha = true) : c.isAlpha = true := by
  by_cases upper : c.isUpper = true
  · exact Bool.or_eq_true_iff.2 (Or.inl upper)
  · have same : c.toLower = c := dif_neg fun range => upper (decide_eq_true range)
    rwa [same] at letter

/-- What is a scheme of a web server in small letters has letters only. -/
theorem letters_of_scheme {chars : List Char}
    (scheme : String.ofList (chars.map Char.toLower) ∈ ["http", "https"]) :
    ∀ c ∈ chars, c.isAlpha = true := by
  have known : ∀ scheme ∈ ["http", "https"], scheme.toList.all Char.isAlpha = true := by decide
  intro c member
  refine isAlpha_of_toLower (List.all_eq_true.1 (known _ scheme) c.toLower ?_)
  rw [String.toList_ofList]
  exact List.mem_map_of_mem member

/-- A key looks like a URL only if the name of the host is that of a scheme. -/
theorem host_of_looksLikeUrl {url : WebUrl} {text : List Char}
    (parsed : UrlHost.parse text = .ok url.host) (looks : LooksLikeUrl url.address) :
    String.ofList (url.host.text.toList.map Char.toLower) ∈ ["http", "https"] := by
  rw [LooksLikeUrl, WebUrl.toList_address] at looks
  rcases UrlHost.notMem_or_bracketed parsed with clean | bracketed
  · have named : ∀ c ∈ url.host.text.toList, decide (c ≠ ':') = true := fun c member =>
      decide_eq_true fun mark => clean (mark ▸ member)
    rwa [List.takeWhile_append_of_pos named, List.takeWhile_cons_of_neg (by decide),
      List.append_nil] at looks
  · obtain ⟨rest, shape⟩ := List.head?_eq_some_iff.1 bracketed
    rw [shape, List.cons_append, List.takeWhile_cons_of_pos (by decide)] at looks
    exact absurd (letters_of_scheme looks '[' List.mem_cons_self) (by decide)

/-- The key of a host that is named like a scheme leads to another host: its port is read as an
address. -/
theorem address?_of_looksLikeUrl {raw key : String} (leads : address? raw = some key)
    (looks : LooksLikeUrl key) : ∃ other, address? key = some other ∧ other ≠ key := by
  have graphic := graphic_of_address? leads
  obtain ⟨url, parsed, rfl⟩ := address?_eq_some_iff.1 leads
  obtain ⟨-, ⟨host, read⟩, small⟩ := Url.web_of_parse (parse_eq_ok_iff.1 parsed)
  have scheme := host_of_looksLikeUrl read looks
  have letters := letters_of_scheme scheme
  have nonempty : url.host.text.toList ≠ [] := by
    intro empty
    rw [empty] at scheme
    exact absurd scheme (by decide)
  have port : url.port.getD (WebUrl.defaultPort url.secure) < 2 ^ 32 := by
    cases given : url.port with
    | none =>
        rw [Option.getD_none, WebUrl.defaultPort]
        split <;> decide
    | some port => exact Nat.lt_trans (small port given) (by decide)
  obtain ⟨secure, family⟩ := Url.Family.web_of_mem scheme
  obtain ⟨other, reread, address⟩ := Url.readWeb_of_digits (decimalDigits_ne_nil _)
    (fun _ => isDigit_of_mem_decimalDigits) (UrlHost.parse_decimalDigits port) secure
  refine ⟨other.address, address?_eq_some_iff.2 ⟨other, parse_eq_ok_iff.2 ?_, rfl⟩, ?_⟩
  · rw [Url.parse, Url.stripped_of_graphic graphic, WebUrl.toList_address,
      Url.scheme?_of_letters nonempty letters]
    dsimp only
    rw [family]
    dsimp only
    rw [reread]
    rfl
  · -- The address of version four has dots in it, and the key has none.
    intro same
    have dot : '.' ∈ other.address.toList := by
      rw [WebUrl.toList_address, address, UrlHost.text, Ipv4.toList_text]
      simp
    rw [same, WebUrl.toList_address, List.mem_append, List.mem_cons] at dot
    rcases dot with front | mark | digit
    · exact absurd (letters '.' front) (by decide)
    · exact absurd mark (by decide)
    · exact notMem_decimalDigits (by decide) _ digit

/-- A host may have the name of a scheme. -/
theorem address?_named_http : address? "http://http:80" = some "http:80" := by
  have plain : ∀ c ∈ "http".toList, Idna.IsPlain c := by
    have letters : ∀ c ∈ "http".toList,
        c.toNat < 0x80 ∧ ¬ (0x41 ≤ c.toNat ∧ c.toNat ≤ 0x5A) ∧ Idna.isForbidden c = false :=
      List.all_iff_forall_prop.1 (by decide)
    exact fun c member => ⟨(letters c member).1, (letters c member).2.1, (letters c member).2.2⟩
  have host : UrlHost.parse "http".toList = .ok (.domain "http") := by
    have domain := UrlHost.parse_of_plain plain (by decide) (by decide)
    rwa [if_neg (by decide)] at domain
  have cut : Url.splitAuthority (.web false)
      ("//http:80".toList.dropWhile (Url.isSlash (.web false))) = ("http:80".toList, []) := by
    decide
  have named : Url.hostText "http:80".toList [] = .ok ([], "http".toList, ":80".toList) := by
    decide
  have found : Url.readHost "http".toList ":80".toList = .ok (.domain "http", some 80) := by
    rw [Url.readHost, host]
    rfl
  have scheme : Url.scheme? (Url.stripped "http://http:80") =
      some ("http", "//http:80".toList) := by
    decide
  obtain ⟨url, read, text, port⟩ := Url.readWeb_of_parts cut named found
  refine address?_eq_some_iff.2 ⟨url, parse_eq_ok_iff.2 ?_, ?_⟩
  · rw [Url.parse, scheme]
    dsimp only
    rw [Url.Family.ofScheme, if_pos rfl]
    dsimp only
    rw [read]
    rfl
  · rw [WebUrl.address, text, port]
    decide

end Backend

end ClusterGateway
