import ExportTable.Proofs.FileStore.Reading
import ExportTable.Proofs.Result
import ExportTable.Version.Resolver

/-!
# Waiting for a run

A started run is looked at until its end is found, or it is found to go on with the timeout passed,
or a look fails. An end that is found goes before the clock, so an end counts as in time when it is
found by the first look after the timeout. Only then is what the run printed read to its end, and
that wait has no bound.
-/

namespace ExportTable.Version.Resolver

variable {timeout : Duration} {run : WatchedRun}

/-! ## The end of a run -/

/-- The look finds the run going on, with time left. -/
def Waits (timeout : Duration) (look : Look) : Prop :=
  look.finding = .running ∧ look.elapsed.nanoseconds < timeout.nanoseconds

/-- The wait comes to the `n`-th look, and that look finds this. -/
def ComesTo (timeout : Duration) (run : WatchedRun) (n : Nat) (finding : Finding) : Prop :=
  (run.look n).finding = finding ∧ ∀ m < n, Waits timeout (run.look m)

/-- The end of the run is found before the run is found to go on with the timeout passed. -/
def EndsInTime (timeout : Duration) (run : WatchedRun) (status : ExitStatus) : Prop :=
  ∃ n, ComesTo timeout run n (.ended status)

/-- The run ends well and in time, and the text is what it prints. -/
structure Prints (timeout : Duration) (run : WatchedRun) (output : String) : Prop where
  succeeds : EndsInTime timeout run (.exited 0)
  stdout : run.output = .bytes output.toUTF8

end ExportTable.Version.Resolver
