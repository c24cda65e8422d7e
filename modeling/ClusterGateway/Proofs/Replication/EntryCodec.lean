import ClusterGateway.Proofs.Json.Compound
import ClusterGateway.Proofs.Json.Outcome
import ClusterGateway.Replication.Entry

/-! # The stored form of log entries

An entry whose numbers fit into 64 bits is read back from its stored form, and every entry that is
read has such numbers. Entries that come from the log or from a request of an operator are of this
kind, so they never get lost on the way to the machines. Octets from elsewhere that are read as an
entry begin with the number of its kind, however the rest of them is spelled.
-/

namespace ClusterGateway

open Json (Spells Fills Gives)
open Json.Reader (spells_string spells_strings spells_integer)

/-! ### Locations -/

namespace Location

/-- The fields of a location, in the order in which they are written, fill its record. -/
theorem fills (l : Location) :
    Fills record.fields record.blank
      [("pattern", Json.Write.string l.pattern), ("proxy_pass", Json.Write.strings l.proxyPass),
       ("balance_mode", Json.Write.string l.balanceMode)]
      { pattern := some l.pattern, proxyPass := some l.proxyPass,
        balanceMode := some l.balanceMode } :=
  .step _ rfl rfl ((spells_string _).andThen fun _ => rfl) <|
  .step _ rfl rfl ((spells_strings _).andThen fun _ => rfl) <|
  .step _ rfl rfl ((spells_string _).andThen fun _ => rfl) <| .done _

/-- A location is read back from the text in which it is written. -/
theorem spells (l : Location) : Spells reader (utf8 l.json) l :=
  Json.Record.spells_object _ l.fills rfl

end Location

/-! ### Limiter settings -/

namespace LimiterSetting

/-- The numbers of a setting fit into 64 bits, those of volume and speed with a sign. -/
structure Fits (s : LimiterSetting) : Prop where
  volume : -2 ^ 63 ≤ s.volume ∧ s.volume < 2 ^ 63
  speed : -2 ^ 63 ≤ s.speed ∧ s.speed < 2 ^ 63
  duration : s.duration < 2 ^ 64

/-- A number within 64 bits with a sign is read back. -/
theorem spells_signed {n : Int} (inside : -2 ^ 63 ≤ n ∧ n < 2 ^ 63) :
    Spells signed (utf8 (Json.Write.integer n)) n :=
  spells_integer inside.1 (by omega) ⟨inside.1, Int.le_sub_one_of_lt inside.2⟩

theorem spells_unsigned {n : Nat} (inside : n < 2 ^ 64) :
    Spells unsigned (utf8 (Json.Write.integer n)) n :=
  spells_integer (by omega) (by omega)
    ⟨Int.natCast_nonneg n, Int.ofNat_le.2 (Nat.le_sub_one_of_lt inside)⟩

theorem fills {s : LimiterSetting} (fits : s.Fits) :
    Fills record.fields record.blank
      [("prefix", Json.Write.string s.pattern), ("pathName", Json.Write.string s.path),
       ("limiterType", Json.Write.string s.kind), ("volume", Json.Write.integer s.volume),
       ("speed", Json.Write.integer s.speed), ("duration", Json.Write.integer s.duration)]
      { pattern := some s.pattern, path := some s.path, kind := some s.kind,
        volume := some s.volume, speed := some s.speed, duration := some s.duration } :=
  .step _ rfl rfl ((spells_string _).andThen fun _ => rfl) <|
  .step _ rfl rfl ((spells_string _).andThen fun _ => rfl) <|
  .step _ rfl rfl ((spells_string _).andThen fun _ => rfl) <|
  .step _ rfl rfl ((spells_signed fits.volume).andThen fun _ => rfl) <|
  .step _ rfl rfl ((spells_signed fits.speed).andThen fun _ => rfl) <|
  .step _ rfl rfl ((spells_unsigned fits.duration).andThen fun _ => rfl) <| .done _

theorem spells {s : LimiterSetting} (fits : s.Fits) : Spells reader (utf8 s.json) s :=
  Json.Record.spells_object _ (fills fits) rfl

/-- The numbers that a draft has so far fit into 64 bits. -/
structure Draft.Fits (d : Draft) : Prop where
  volume : ∀ n ∈ d.volume, -2 ^ 63 ≤ n ∧ n < 2 ^ 63
  speed : ∀ n ∈ d.speed, -2 ^ 63 ≤ n ∧ n < 2 ^ 63
  duration : ∀ n ∈ d.duration, 0 ≤ n ∧ n < 2 ^ 64

/-- A setting that is made of a draft whose numbers fit has numbers that fit, the defaults
included. -/
theorem fits_of_finish {d : Draft} {s : LimiterSetting} (kept : d.Fits)
    (complete : record.finish d = some s) : s.Fits := by
  obtain ⟨pattern, path, kind, volume, speed, duration⟩ := d
  simp only [record, Option.bind_eq_bind, Option.bind_eq_some_iff, Option.pure_def,
    Option.some.injEq] at complete
  obtain ⟨_, rfl, _, rfl, _, rfl, rfl⟩ := complete
  have fromVolume := kept.volume
  have fromSpeed := kept.speed
  have fromDuration := kept.duration
  refine ⟨?_, ?_, ?_⟩
  · cases volume with
    | none => exact (by decide : -2 ^ 63 ≤ (0 : Int) ∧ (0 : Int) < 2 ^ 63)
    | some n => exact fromVolume n rfl
  · cases speed with
    | none => exact (by decide : -2 ^ 63 ≤ (0 : Int) ∧ (0 : Int) < 2 ^ 63)
    | some n => exact fromSpeed n rfl
  · cases duration with
    | none => exact (by decide : (0 : Nat) < 2 ^ 64)
    | some n =>
        have inside := fromDuration n rfl
        change n.toNat < _
        omega

/-- Every setting that is read fits into 64 bits. -/
theorem gives_fits : Gives reader Fits := by
  refine Gives.record record Draft.Fits ?_ ?_ fun _ _ => fits_of_finish
  · intro field member draft kept
    simp only [record, List.mem_cons, List.not_mem_nil, or_false] at member
    rcases member with rfl | rfl | rfl | rfl | rfl | rfl
    · exact .after fun _ => .pure { kept with }
    · exact .after fun _ => .pure { kept with }
    · exact .after fun _ => .pure { kept with }
    · exact .bind (.integer _ _) fun n inside => .pure
        { kept with volume := by rintro _ ⟨⟩; exact ⟨inside.1, Int.lt_of_le_sub_one inside.2⟩ }
    · exact .bind (.integer _ _) fun n inside => .pure
        { kept with speed := by rintro _ ⟨⟩; exact ⟨inside.1, Int.lt_of_le_sub_one inside.2⟩ }
    · exact .bind (.integer _ _) fun n inside => .pure
        { kept with duration := by rintro _ ⟨⟩; exact ⟨inside.1, Int.lt_of_le_sub_one inside.2⟩ }
  · exact ⟨by simp [record], by simp [record], by simp [record]⟩

end LimiterSetting

/-! ### Entries -/

/-- The two octets of an operation code put together give its number. -/
theorem OpCode.number_of_header (op : OpCode) :
    (op.number / 256).toUInt8.toNat * 256 + (op.number % 256).toUInt8.toNat = op.number := by
  cases op <;> decide

/-- Only the number of an operation code is taken for that code. -/
theorem OpCode.ofNumber?_eq_some {n : Nat} {op : OpCode} (named : ofNumber? n = some op) :
    n = op.number := by
  unfold ofNumber? at named
  split at named <;> cases named <;> rfl

namespace LogEntry

/-- The numbers of an entry fit into 64 bits. -/
def Fits : LogEntry → Prop
  | setRateLimiter setting => setting.Fits
  | _ => True

/-- An object with two texts under different names is read back as the two texts. -/
theorem spells_twoTexts (first second : String) (other : ¬ second = first) (s t : String) :
    Spells (twoTexts first second).read
      (utf8 (Json.Write.object
        [(first, Json.Write.string s), (second, Json.Write.string t)])) (s, t) := by
  refine Json.Record.spells_object (some s, some t)
    (.step (firstText first) (by simp [twoTexts, firstText]) rfl
        ((spells_string s).andThen fun _ => rfl) <|
      .step (secondText second) ?_ rfl ((spells_string t).andThen fun _ => rfl) <| .done _) rfl
  simp [twoTexts, firstText, secondText, other]

/-- An object with one text is read back as that text. -/
theorem spells_oneText (name s : String) :
    Spells (oneText name).read (utf8 (Json.Write.object [(name, Json.Write.string s)])) s :=
  Json.Record.spells_object (some s, none)
    (.step (firstText name) (by simp [oneText, firstText]) rfl
      ((spells_string s).andThen fun _ => rfl) <| .done _) rfl

/-- The number of an action is read back as that action. -/
theorem spells_action (a : AclAction) :
    Spells action (utf8 (Json.Write.integer a.number)) a := by
  have small : a.number ≤ 1 := by cases a <;> decide
  have spelt : Spells (Json.Reader.integer 0 255) (utf8 (Json.Write.integer a.number)) a.number :=
    spells_integer (by omega) (by omega) (by omega)
  refine spelt.andThen fun _ => ?_
  rw [Int.toNat_natCast, AclAction.ofNumber?_number]
  rfl

/-- A change of the blocked networks is read back as its action and its network. -/
theorem spells_mutation (a : AclAction) (cidr : String) :
    Spells mutation.read
      (utf8 (Json.Write.object
        [("action", Json.Write.integer a.number), ("cidr", Json.Write.string cidr)])) (a, cidr) :=
  Json.Record.spells_object (some a, some cidr)
    (.step _ rfl rfl ((spells_action a).andThen fun _ => rfl) <|
      .step _ rfl rfl ((spells_string cidr).andThen fun _ => rfl) <| .done _) rfl

/-- The payload of an entry is read back by the reader for the operation of the entry. -/
theorem spells_payload {entry : LogEntry} (fits : entry.Fits) :
    Spells (payloadReader entry.op) (utf8 entry.payload) entry := by
  cases entry with
  | createPool l => exact l.spells.andThen fun _ => rfl
  | setRateLimiter s => exact (LimiterSetting.spells fits).andThen fun _ => rfl
  | aclMutate a cidr => exact (spells_mutation a cidr).andThen fun _ => rfl
  | removePool pattern => exact (spells_oneText _ pattern).andThen fun _ => rfl
  | removeHost pattern host =>
      exact (spells_twoTexts _ _ (by decide) pattern host).andThen fun _ => rfl
  | addHost pattern host =>
      exact (spells_twoTexts _ _ (by decide) pattern host).andThen fun _ => rfl
  | changeBalancer pattern mode =>
      exact (spells_twoTexts _ _ (by decide) pattern mode).andThen fun _ => rfl

/-- An entry whose numbers fit into 64 bits is read back from its stored form. -/
theorem decode_encode {entry : LogEntry} (fits : entry.Fits) :
    decode entry.encode = .ok entry := by
  have number := entry.op.number_of_header
  rw [encode, OpCode.header, List.cons_append, List.cons_append, List.nil_append, decode]
  simp only [number, OpCode.ofNumber?_number, Json.readAll_of_spells (spells_payload fits)]

/-- The numbers of an entry that is read fit into 64 bits. -/
theorem gives_fits (op : OpCode) : Gives (payloadReader op) Fits := by
  cases op with
  | setRateLimiter => exact .bind LimiterSetting.gives_fits fun _ fits => .pure fits
  | createPool => exact .after fun _ => .pure trivial
  | aclMutate => exact .after fun _ => .pure trivial
  | removePool => exact .after fun _ => .pure trivial
  | removeHost => exact .after fun _ => .pure trivial
  | addHost => exact .after fun _ => .pure trivial
  | changeBalancer => exact .after fun _ => .pure trivial

/-- Particulars that are read under a kind of change are those of such a change. -/
theorem gives_op (op : OpCode) : Gives (payloadReader op) fun entry => entry.op = op := by
  cases op with
  | createPool => exact .after fun _ => .pure rfl
  | setRateLimiter => exact .after fun _ => .pure rfl
  | aclMutate => exact .after fun _ => .pure rfl
  | removePool => exact .after fun _ => .pure rfl
  | removeHost => exact .after fun _ => .pure rfl
  | addHost => exact .after fun _ => .pure rfl
  | changeBalancer => exact .after fun _ => .pure rfl

/-- Octets that are read as an entry are its number, the higher octet first, and its particulars. -/
theorem decode_spec {bytes : Bytes} {entry : LogEntry} (read : decode bytes = .ok entry) :
    ∃ high low payload, bytes = high :: low :: payload ∧
      high.toNat * 256 + low.toNat = entry.op.number ∧
        Json.readAll (payloadReader entry.op) payload = .ok entry := by
  match bytes with
  | [] => exact absurd read (by simp [decode])
  | [_] => exact absurd read (by simp [decode])
  | high :: low :: payload =>
      rw [decode] at read
      split at read
      · exact absurd read (by simp)
      · next op named =>
          split at read
          · next given =>
              obtain rfl := Except.ok.inj read
              obtain rfl := (gives_op op).readAll given
              exact ⟨high, low, payload, rfl, OpCode.ofNumber?_eq_some named, given⟩
          · exact absurd read (by simp)

/-- An entry that was read has numbers that fit into 64 bits. -/
theorem fits_of_decode {bytes : Bytes} {entry : LogEntry} (read : decode bytes = .ok entry) :
    entry.Fits := by
  obtain ⟨_, _, _, _, _, given⟩ := decode_spec read
  exact (gives_fits entry.op).readAll given

/-- Nothing is lost on the way through the log. An entry whose numbers fit into 64 bits is read back
from its stored form, so no two entries share one. Octets of any other origin that are read as an
entry begin with the number of its kind, and the entry comes back from its own stored form too. -/
theorem stored_form_faithful :
    (∀ entry : LogEntry, entry.Fits → decode entry.encode = .ok entry) ∧
      (∀ entry other : LogEntry, entry.Fits → other.Fits → entry.encode = other.encode →
        entry = other) ∧
      ∀ (bytes : Bytes) (entry : LogEntry), decode bytes = .ok entry →
        (∃ high low payload, bytes = high :: low :: payload ∧
          high.toNat * 256 + low.toNat = entry.op.number) ∧
        decode entry.encode = .ok entry := by
  refine ⟨fun entry => decode_encode, fun entry other fits others same => ?_,
    fun bytes entry read => ⟨?_, decode_encode (fits_of_decode read)⟩⟩
  · have read := decode_encode fits
    rw [same, decode_encode others] at read
    exact (Except.ok.inj read).symm
  · obtain ⟨high, low, payload, whole, number, -⟩ := decode_spec read
    exact ⟨high, low, payload, whole, number⟩

/-- A setting with all characters that need care and with the numbers at their bounds. -/
def extremeEntry : LogEntry :=
  .setRateLimiter
    { pattern := "/\"\\\n\x00\x1f\x7f", path := "", kind := "é\u2028😀"
      volume := -2 ^ 63, speed := 2 ^ 63 - 1, duration := 2 ^ 64 - 1 }

/-- The octets of a setting in another form than the one that is written: with blanks, with the
older spelling of the volume and without speed and duration. -/
def looseOctets : Bytes :=
  OpCode.header .setRateLimiter ++
    utf8 ("\x7b \"volumn\": 7, \"limiterType\": \"q\\u0070s\", \"prefix\": \"/a\"," ++
      " \"pathName\": \"\" \x7d")

/-- The stored form is faithful to extreme entries and to octets that come from elsewhere. -/
theorem stored_form_faithful_extremes :
    extremeEntry.Fits ∧ decode extremeEntry.encode = .ok extremeEntry ∧
      (LogEntry.addHost "/a" "b").Fits ∧ (LogEntry.removeHost "/a" "b").Fits ∧
      (LogEntry.addHost "/a" "b").encode ≠ (LogEntry.removeHost "/a" "b").encode ∧
      ∃ entry, decode looseOctets = .ok entry ∧ looseOctets ≠ entry.encode ∧
        decode entry.encode = .ok entry := by
  have extreme : extremeEntry.Fits := ⟨by decide, by decide, by decide⟩
  have read : decode looseOctets =
      .ok (.setRateLimiter { pattern := "/a", path := "", kind := "qps", volume := 7 }) := by
    decide +kernel
  refine ⟨extreme, stored_form_faithful.1 _ extreme, trivial, trivial, fun same => ?_, _, read,
    by decide +kernel, (stored_form_faithful.2.2 _ _ read).2⟩
  exact absurd (stored_form_faithful.2.1 (.addHost "/a" "b") (.removeHost "/a" "b") trivial trivial
    same) (by decide)

end LogEntry

end ClusterGateway
