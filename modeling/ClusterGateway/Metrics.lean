import ClusterGateway.Dict

/-! # Metrics

The gateway counts applied log entries, failed applications and dispatch decisions, each under a
label, and shows how many pools and blocks there are. `render` gives the text exposition format of
Prometheus: families in the order of their names, series in the order of their labels, every sample
a floating-point number of 64 bits.
-/

namespace ClusterGateway

/-- The decisions on a request that are counted. -/
inductive Outcome where
  | routed
  | denied
  /-- The limiter had no permit. -/
  | throttled
  /-- No host is fit to serve. -/
  | noHost
  /-- No pattern covers the path. -/
  | notFound
  | shuttingDown
deriving DecidableEq, Repr, Inhabited

/-- The word under which decisions are counted. -/
def Outcome.label : Outcome → String
  | .routed => "routed"
  | .denied => "denied"
  | .throttled => "throttled"
  | .noHost => "no_host"
  | .notFound => "not_found"
  | .shuttingDown => "shutting_down"

/-- The counters and gauges of a node. -/
structure Metrics where
  /-- Entries applied, by kind of change. -/
  applied : Dict Nat := ∅
  /-- Entries whose application failed, by kind of fault. -/
  failures : Dict Nat := ∅
  /-- Decisions on requests, by outcome. -/
  dispatched : Dict Nat := ∅
  pools : Nat := 0
  /-- The number of blocked networks. -/
  aclRules : Nat := 0
deriving DecidableEq, Repr, Inhabited

namespace Metrics

def bump (counts : Dict Nat) (label : String) : Dict Nat :=
  counts.insert label ((counts.get? label).getD 0 + 1)

/-- A counter that has a series for a label, and what that series stands at. -/
def read (counts : Dict Nat) (label : String) : Nat × Dict Nat :=
  match counts.get? label with
  | some n => (n, counts)
  | none => (0, counts.insert label 0)

/-- Counts an entry that was applied. -/
def recordApplied (m : Metrics) (label : String) : Metrics :=
  { m with applied := bump m.applied label }

/-- Counts an entry whose application failed. -/
def recordFailure (m : Metrics) (label : String) : Metrics :=
  { m with failures := bump m.failures label }

/-- Counts a decision on a request. -/
def recordDispatch (m : Metrics) (label : String) : Metrics :=
  { m with dispatched := bump m.dispatched label }

/-- How many entries of a kind were applied; from then on the kind is listed. -/
def appliedCount (m : Metrics) (label : String) : Nat × Metrics :=
  let (n, applied) := read m.applied label
  (n, { m with applied })

/-- How many decisions had an outcome; from then on the outcome is listed. -/
def dispatchCount (m : Metrics) (label : String) : Nat × Metrics :=
  let (n, dispatched) := read m.dispatched label
  (n, { m with dispatched })

/-! ### Samples as floating-point numbers -/

/-- The 64-bit floating-point number nearest to a whole number, as a mantissa below `2 ^ 53` and a
power of two; a tie goes to the even mantissa. -/
def nearestFloat (n : Nat) : Nat × Nat :=
  let shift := n.log2 - 52
  let mantissa := n / Nat.pow 2 shift
  let rest := 2 * (n % Nat.pow 2 shift)
  let up := Nat.pow 2 shift < rest ∨ (rest = Nat.pow 2 shift ∧ mantissa % 2 = 1)
  let mantissa := if up then mantissa + 1 else mantissa
  if mantissa = Nat.pow 2 53 then (Nat.pow 2 52, shift + 1) else (mantissa, shift)

/-- The multiple of `grain` next to `value` that lies between two bounds, if there is one. All
numbers but `grain` are given four times over; the bounds count only if `closed` holds. -/
def onGrid? (value low high grain : Nat) (closed : Bool) : Option Nat :=
  let below := value / (4 * grain) * grain
  let above := below + grain
  let inside (n : Nat) : Bool :=
    (decide (low < 4 * n) && decide (4 * n < high)) || (closed && (4 * n = low || 4 * n = high))
  let nearer := if value - 4 * below ≤ 4 * above - value then [below, above] else [above, below]
  nearer.find? inside

/-- The digits of a whole sample: of the numbers that round to the same floating-point number, the
one with the most zeros at the end. -/
def wholeText (n : Nat) : String :=
  if n ≤ Nat.pow 2 53 then toString n
  else
    let (mantissa, shift) := nearestFloat n
    let value := 4 * mantissa * Nat.pow 2 shift
    let high := value + 2 * Nat.pow 2 shift
    let low :=
      if mantissa = Nat.pow 2 52 then value - Nat.pow 2 shift else value - 2 * Nat.pow 2 shift
    let found := (List.range 20).reverse.findSome? fun k =>
      onGrid? value low high (Nat.pow 10 k) (mantissa % 2 = 0)
    toString (found.getD (value / 4))

/-- A gauge that holds a count in a signed word of 64 bits. -/
def gaugeText (count : Nat) : String :=
  let word := count % Nat.pow 2 64
  if word < Nat.pow 2 63 then wholeText word else "-" ++ wholeText (Nat.pow 2 64 - word)

/-! ### The text exposition format -/

/-- A label value with backslashes, line breaks and quotation marks escaped. -/
def labelText (value : String) : String :=
  String.join (value.toList.map fun c =>
    if c = '\\' then "\\\\" else if c = '\n' then "\\n" else if c = '"' then "\\\"" else c.toString)

/-- A family of samples. -/
structure Family where
  name : String
  help : String
  /-- The kind of its samples. -/
  type : String
  /-- What stands behind the name in each sample, with the sample. -/
  samples : List (String × String)

/-- The family of a counter with one label; a counter without series is left out. -/
def counter (name help label : String) (counts : Dict Nat) : List Family :=
  if counts.isEmpty then []
  else
    [{ name, help, type := "counter"
       samples := counts.entries.map fun e =>
        ("\x7b" ++ label ++ "=\"" ++ labelText e.1 ++ "\"\x7d", wholeText e.2) }]

def gauge (name help : String) (count : Nat) : List Family :=
  [{ name, help, type := "gauge", samples := [("", gaugeText count)] }]

/-- The families in the order of their names. -/
def families (m : Metrics) : List Family :=
  gauge "concord_acl_rules" "Registered ACL blocks" m.aclRules ++
    counter "concord_apply_failures_total" "Committed log entries whose apply returned an error"
      "kind" m.failures ++
    counter "concord_dispatch_total" "Dispatch decisions by outcome" "outcome" m.dispatched ++
    counter "concord_log_entries_applied_total" "Committed log entries applied" "op" m.applied ++
    gauge "concord_pools" "Registered backend pools" m.pools

def Family.text (f : Family) : String :=
  "# HELP " ++ f.name ++ " " ++ f.help ++ "\n# TYPE " ++ f.name ++ " " ++ f.type ++ "\n" ++
    String.join (f.samples.map fun s => f.name ++ s.1 ++ " " ++ s.2 ++ "\n")

/-- All families as text. -/
def render (m : Metrics) : String := String.join (m.families.map Family.text)

end Metrics

end ClusterGateway
