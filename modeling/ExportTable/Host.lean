import ExportTable.FileStore
import ExportTable.Duration

/-!
# Hosts

What a generator finds around it: the files, the programs that can be run, and the output directory
that a build script is given. A program is run under watch: what counts is what the looks at it find.
-/

namespace ExportTable

inductive ExitStatus where
  | exited (code : Nat)
  | signalled (signal : Nat)
  deriving DecidableEq, Repr

namespace ExitStatus

/-- The names of the signals, from the first on. -/
def signalNames : List String :=
  ["SIGHUP", "SIGINT", "SIGQUIT", "SIGILL", "SIGTRAP", "SIGABRT", "SIGBUS", "SIGFPE", "SIGKILL",
   "SIGUSR1", "SIGSEGV", "SIGUSR2", "SIGPIPE", "SIGALRM", "SIGTERM", "SIGSTKFLT", "SIGCHLD",
   "SIGCONT", "SIGSTOP", "SIGTSTP", "SIGTTIN", "SIGTTOU", "SIGURG", "SIGXCPU", "SIGXFSZ",
   "SIGVTALRM", "SIGPROF", "SIGWINCH", "SIGIO", "SIGPWR", "SIGSYS"]

def text : ExitStatus → String
  | exited code => s!"exit status: {code}"
  | signalled signal =>
    match signal with
    | 0 => "signal: 0"
    | n + 1 =>
      match signalNames[n]? with
      | some name => s!"signal: {signal} ({name})"
      | none => s!"signal: {signal}"

end ExitStatus

/-! ## Runs -/

/-- What a program does by itself: what it prints, how it ends, and when. -/
structure ProgramRun where
  stdout : ByteArray
  status : ExitStatus
  runtime : Duration

/-- What a program does with its arguments in a working directory. -/
abbrev Program := List String → Location → ProgramRun

/-- What a look at a started run finds. -/
inductive Finding where
  | running
  | ended (status : ExitStatus)
  | fault (error : IoError)
  deriving DecidableEq, Repr

/-- A look at a run, and how long the run has lasted when the look is over. -/
structure Look where
  finding : Finding
  elapsed : Duration
  deriving DecidableEq, Repr

/-- What reading standard output to its end comes to. The end can be long after that of the run, where
another process holds the output open. Output that never ends has no place here, because nothing comes
of reading it. -/
inductive Output where
  | bytes (content : ByteArray)
  | fault (error : IoError)
  /-- The reader itself breaks down. -/
  | panic

/-- How long a watcher waits between two looks. -/
def pollInterval : Duration := .ofMicroseconds 10000

/-- A started run as its watcher sees it. A look can come late, fail, or find the end of the run long
after it. -/
structure WatchedRun where
  look : Nat → Look
  output : Output
  /-- Waiting takes no less time than it is asked to. -/
  pause_le : ∀ n, (look n).elapsed.nanoseconds + pollInterval.nanoseconds ≤
    (look (n + 1)).elapsed.nanoseconds

/-- The run with every look taken when it is due and all of its output read. No program is over at
the first look, which is taken at once. -/
def ProgramRun.watched (run : ProgramRun) : WatchedRun where
  look n :=
    let elapsed := n * pollInterval.nanoseconds
    ⟨if 0 < n ∧ run.runtime.nanoseconds ≤ elapsed then .ended run.status else .running, ⟨elapsed⟩⟩
  output := .bytes run.stdout
  pause_le n := by simp only [Nat.succ_mul, Nat.le_refl]

/-- What starting a program in a working directory comes to. -/
abbrev Command := List String → Location → Except IoError WatchedRun

/-- The program where it always starts and nothing disturbs it. -/
def Program.command (program : Program) : Command := fun arguments place ↦
  .ok (program arguments place).watched

instance : Coe (Option Program) (Option Command) := ⟨Option.map Program.command⟩

/-! ## Hosts -/

structure Host where
  files : FileStore
  program? : String → Option Command
  /-- The output directory of a build script. -/
  outDir? : Option Path

end ExportTable
