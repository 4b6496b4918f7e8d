import LedgerWallet.Metrics
import LedgerWallet.Text.Double

/-! Metrics as lines of text: families of samples, each under a line of help and one with its kind. -/
namespace LedgerWallet.Metrics

/-- A name with a suffix, the label of the series, where there is one, and its value. -/
structure Sample where
  suffix : String
  label : Option (String × String)
  value : String

inductive Family.Kind where
  | counter
  | histogram

structure Family where
  name : String
  help : String
  kind : Family.Kind
  samples : List Sample

/-- Every name starts with the name of the program. -/
def namePrefix : String := "quill_"

def Family.Kind.name : Family.Kind → String
  | counter => "counter"
  | histogram => "histogram"

def Sample.text (family : String) (sample : Sample) : String :=
  let label := match sample.label with
    | some (name, value) => s!"\x7b{name}=\"{value}\"\x7d"
    | none => ""
  s!"{family}{sample.suffix}{label} {sample.value}\n"

def Family.text (family : Family) : String :=
  let name := namePrefix ++ family.name
  s!"# HELP {name} {family.help}\n# TYPE {name} {family.kind.name}\n" ++
    String.join (family.samples.map (Sample.text name))

def counter (name help : String) (value : Nat) : Family :=
  ⟨name, help, .counter, [⟨"", none, toString value⟩]⟩

/-- Seconds are written without an exponent. -/
def seconds (value : Float) : String := Double.Layout.plain.text value

/-- The series of a histogram: one for each bound, one without bound, the sum and the count. -/
def Histogram.samples (h : Histogram) : List Sample :=
  (h.within.zip Histogram.bounds).map (fun (n, tenths) =>
    ⟨"_bucket", some ("le", seconds (Histogram.boundSeconds tenths)), toString n⟩) ++
  [⟨"_bucket", some ("le", "+Inf"), toString h.count⟩, ⟨"_sum", none, seconds h.sum⟩,
    ⟨"_count", none, toString h.count⟩]

/-- The series of the failures, in the order of their labels. -/
def failureSamples (tally : Tally) : List Sample :=
  let series := tally.counts.map fun (category, n) => (category.label, n)
  (series.mergeSort fun a b => decide (a.1 ≤ b.1)).map fun (label, n) =>
    ⟨"", some ("category", label), toString n⟩

/-- All families that have series, in the order of their names. -/
def families (metrics : Metrics) : List Family :=
  let all := [
    counter "status_poll_errors_total" "Transaction status queries that failed" metrics.pollErrors,
    counter "status_polls_total" "Transaction status queries issued" metrics.polls,
    ⟨"submission_duration_seconds", "Seconds from submission to a terminal ledger status",
      .histogram, Histogram.samples metrics.durations⟩,
    ⟨"transaction_failures_total", "Failed transactions by wallet error category", .counter,
      failureSamples metrics.failures⟩,
    counter "transactions_duplicate_total" "Submissions reported as duplicates by the gateway"
      metrics.duplicates,
    counter "transactions_submitted_total" "Notarized transactions submitted to the gateway"
      metrics.submitted]
  all.filter fun family => !family.samples.isEmpty

def text (metrics : Metrics) : String := String.join (metrics.families.map Family.text)

end LedgerWallet.Metrics
