import ClusterLink.Advisory
import ClusterLink.Filter.Fault

/-!
# Counters

What the filter counts. Two counters are kept apart by a label: startup failures by stage, and
advisories by their name.
-/

namespace ClusterLink

inductive Counter where
  | eventsIn
  | eventsOut
  | eventsMatched
  | startupFailures (stage : Stage)
  | advisories (advisory : Advisory)
deriving DecidableEq, Repr

def stageLabel : String := "stage"

def warningLabel : String := "warning"

namespace Counter

def name : Counter → String
  | eventsIn => "elastic_integration_events_in_total"
  | eventsOut => "elastic_integration_events_out_total"
  | eventsMatched => "elastic_integration_events_matched_total"
  | startupFailures _ => "elastic_integration_startup_failures_total"
  | advisories _ => "elastic_integration_validation_warnings_total"

def label? : Counter → Option (String × String)
  | startupFailures stage => some (stageLabel, stage.name)
  | advisories advisory => some (warningLabel, advisory.code)
  | _ => none

def description : Counter → String
  | eventsIn => "Total number of events handed to the enrichment engine"
  | eventsOut => "Total number of events returned by the enrichment engine"
  | eventsMatched => "Total number of events reported as matched by the enrichment engine"
  | startupFailures _ => "Total number of aborted startups by stage"
  | advisories _ => "Total number of non-fatal configuration warnings"

/-- One counter of every name. -/
def described : List Counter :=
  [eventsIn, eventsOut, eventsMatched, startupFailures .validate,
    advisories .credentialsOverHttp]

def key (counter : Counter) : String :=
  match counter.label? with
  | some (key, value) => counter.name ++ "\x7b" ++ key ++ "=" ++ value ++ "\x7d"
  | none => counter.name

end Counter

/-- Counters that have been touched, each with its count. -/
abbrev Metrics := List (Counter × Nat)

/-- The counters after one of them goes up, possibly by nothing. -/
def Metrics.add (counter : Counter) (amount : Nat) : Metrics → Metrics
  | [] => [(counter, amount)]
  | entry :: rest =>
      if entry.1 = counter then (counter, entry.2 + amount) :: rest
      else entry :: Metrics.add counter amount rest

end ClusterLink
