import SignedLink.Number.Shortest
/-!
# SignedLink — metrics

Two families of samples by outcome: a counter of conversions, and a histogram
of the seconds that signing took. The exposition lists both families with
their samples in the order in which the outcomes were first seen.

* `count_addConversion`: one more conversion of an outcome, and of no other.
-/

namespace SignedLink

/-- Samples by outcome, in the order in which the outcomes were first seen. -/
abbrev Family (α : Type) := List (String × α)

namespace Family

/-- Changes the sample of an outcome; the first time it starts from `initial`. -/
def update {α : Type} (initial : α) (change : α → α) (outcome : String) : Family α → Family α
  | [] => [(outcome, change initial)]
  | (o, a) :: rest =>
    if outcome == o then (o, change a) :: rest else (o, a) :: update initial change outcome rest

end Family

/-- The upper bounds of the histogram in seconds. -/
def latencyBounds : List Binary64 :=
  [.ofDecimal false 5 (-4), .ofDecimal false 1 (-3), .ofDecimal false 25 (-4),
    .ofDecimal false 5 (-3), .ofDecimal false 1 (-2), .ofDecimal false 25 (-3),
    .ofDecimal false 5 (-2), .ofDecimal false 1 (-1), .ofDecimal false 25 (-2), .infinite false]

/-- A histogram: how many values fell into each cell, and their sum. -/
structure Histogram where
  /-- for each bound the values up to it and above the bound before -/
  counts : List Nat
  sum : Binary64
deriving DecidableEq

namespace Histogram

def empty : Histogram :=
  ⟨latencyBounds.map fun _ => 0, .zero⟩

/-- One more in the first cell whose bound is not below the value. What is no number falls into
none. -/
def place (x : Binary64) : List Binary64 → List Nat → List Nat
  | bound :: bounds, n :: counts =>
    if Binary64.le x bound then (n + 1) :: counts else n :: place x bounds counts
  | _, counts => counts

def observe (x : Binary64) (h : Histogram) : Histogram :=
  ⟨place x latencyBounds h.counts, h.sum.add x⟩

/-- The values up to each bound. -/
def cumulative (counts : List Nat) : List Nat :=
  (counts.foldl (fun (done, total) n => (done ++ [total + n], total + n)) (([] : List Nat), 0)).1

end Histogram

/-- The metrics of a process. -/
structure Metrics where
  conversions : Family Nat
  latencies : Family Histogram

namespace Metrics

def empty : Metrics :=
  ⟨[], []⟩

/-- One more conversion with an outcome. -/
def addConversion (outcome : String) (m : Metrics) : Metrics :=
  { m with conversions := m.conversions.update 0 (· + 1) outcome }

/-- One more signing with an outcome and the seconds it took. -/
def addLatency (outcome : String) (seconds : Binary64) (m : Metrics) : Metrics :=
  { m with latencies := m.latencies.update .empty (Histogram.observe seconds) outcome }

/-- How many conversions had an outcome. -/
def count (m : Metrics) (outcome : String) : Nat :=
  (m.conversions.lookup outcome).getD 0

/-! ## Exposition -/

/-- A positive number with seven digits or more before the point, in the form with an exponent. -/
def largeNumber (digits : List Char) (point : Nat) : List Char :=
  let mantissa := digits.take 1 ++ '.' :: (digits.take point).drop 1 ++ digits.drop (point + 1)
  let shortened := (mantissa.reverse.dropWhile fun c => c == '0' || c == '.').reverse
  shortened ++ "e+0".toList ++ Text.decimal (point - 1 : Nat)

/-- A sample value: the shortest decimal, with an exponent from a million on. -/
def number : Binary64 → List Char
  | .nan => "NaN".toList
  | .infinite negative => (if negative then '-' else '+') :: "Inf".toList
  | x@(.finite negative _ _) =>
    let s := Shortest.plain.text x
    let point := s.takeWhile (· != '.')
    if !negative && decide (6 < point.length) && point.length != s.length then
      largeNumber s point.length
    else s

/-- A whole number as a sample value. -/
def whole (n : Nat) : List Char :=
  number (.ofInt n)

/-- A label value: backslashes, quotes and line feeds are escaped. -/
def escapeLabel (c : Char) : List Char :=
  if c == '\\' then ['\\', '\\']
  else if c == '\n' then ['\\', 'n']
  else if c == '\x22' then ['\\', '\x22']
  else [c]

/-- A label with its value. -/
def label (name : String) (value : List Char) : List Char :=
  name.toList ++ '=' :: '\x22' :: value.flatMap escapeLabel ++ ['\x22']

/-- One sample. -/
def sample (name : String) (labels : List (List Char)) (value : List Char) : String :=
  .ofList (name.toList ++ '\x7b' :: [','].intercalate labels ++ '\x7d' :: ' ' :: value)

/-- The samples of one counter. -/
def conversionLine (outcome : String) (n : Nat) : String :=
  sample "cdn_uri_conversions_total" [label "result" outcome.toList] (whole n)

/-- The samples of one histogram: the cells, the count and the sum. -/
def latencyLines (outcome : String) (h : Histogram) : List String :=
  let result := label "result" outcome.toList
  let totals := Histogram.cumulative h.counts
  (latencyBounds.zip totals).map (fun (bound, total) =>
      sample "cdn_sign_seconds_bucket" [label "le" (number bound), result] (whole total)) ++
    [sample "cdn_sign_seconds_count" [result] (whole (totals.getLastD 0)),
      sample "cdn_sign_seconds_sum" [result] (number h.sum)]

/-- The lines of the exposition. -/
def exposition (m : Metrics) : List String :=
  ["# HELP cdn_uri_conversions_total Value-to-URI conversions by outcome",
      "# TYPE cdn_uri_conversions_total counter"] ++
    m.conversions.map (fun (outcome, n) => conversionLine outcome n) ++
    ["# HELP cdn_sign_seconds Latency for signed URL generation",
      "# TYPE cdn_sign_seconds histogram"] ++
    m.latencies.flatMap (fun (outcome, h) => latencyLines outcome h)

/-! ## Elementary facts -/

/-- What is found after an update. -/
theorem lookup_update {α : Type} (initial : α) (change : α → α) (outcome other : String)
    (family : Family α) :
    (family.update initial change outcome).lookup other =
      if other = outcome then some (change ((family.lookup outcome).getD initial))
      else family.lookup other := by
  induction family with
  | nil =>
    by_cases same : other = outcome
    · simp [Family.update, same]
    · have : (other == outcome) = false := by simpa using same
      simp [Family.update, same, List.lookup_cons, this]
  | cons entry rest ih =>
    obtain ⟨o, a⟩ := entry
    by_cases here : outcome = o
    · subst here
      by_cases same : other = outcome
      · simp [Family.update, same]
      · have : (other == outcome) = false := by simpa using same
        simp [Family.update, same, List.lookup_cons, this]
    · have away : (outcome == o) = false := by simpa using here
      simp only [Family.update, away, Bool.false_eq_true, if_false, List.lookup_cons]
      by_cases there : other = o
      · subst there
        have : ¬ other = outcome := fun e => here e.symm
        simp [this]
      · have : (other == o) = false := by simpa using there
        simp only [this, ih]

/-- One more conversion of an outcome, and of no other. -/
theorem count_addConversion (outcome other : String) (m : Metrics) :
    (m.addConversion outcome).count other = m.count other + if other = outcome then 1 else 0 := by
  unfold count addConversion
  rw [lookup_update]
  by_cases same : other = outcome
  · simp [same]
  · simp [same]

end Metrics

end SignedLink
