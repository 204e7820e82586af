import ExportTable.Capsule.Session
import ExportTable.Proofs.Capsule.Pointers

/-!
# What a step of a session does

A step changes at most one of three things that last: the registry, by a publication; the tables
that wait to be published; or one handle, which is made or asks the registry. `change_step` says so
once for all kinds of steps, so that a law about sessions is a case analysis over `Change`.
-/

namespace ExportTable.Capsule

/-- What a step publishes if it is answered thus. -/
def Step.publication? : Step → Answer → Option (String × Table)
  | publish key _, .table table => some (key, table)
  | foreignPublish key slots size, .status 0 => Foreign.denoted? key slots size
  | _, _ => none

namespace Session

/-- How a step with its answer leads from one session to another. -/
inductive Change (session : Session) : Step → Answer → Session → Prop
  | unfinished {step : Step} {answer : Answer} (unfinished : NameMap UnfinishedTable)
      (hpublication : step.publication? answer = none) :
      Change session step answer { session with unfinished }
  | finished {step : Step} {answer : Answer} {filled : UnfinishedTable} {table : Table}
      (unfinished : NameMap UnfinishedTable) (name : String)
      (hpublication : step.publication? answer = none) (hfinish : filled.finish = .ok table) :
      Change session step answer
        { session with unfinished, tables := session.tables.insert name table }
  | refused {step : Step} {answer : Answer} (name : String)
      (hpublication : step.publication? answer = none) :
      Change session step answer { session with tables := session.tables.erase name }
  | published {step : Step} {answer : Answer} {name key : String} {table : Table}
      {registry : Registry} (hpublication : step.publication? answer = some (key, table))
      (htable : session.tables.find? name = some table)
      (hpublish : session.registry.publish key table = .ok registry) :
      Change session step answer { session with registry, tables := session.tables.erase name }
  | foreignPublished {step : Step} {answer : Answer} {key : String} {table : Table}
      {registry : Registry} (hpublication : step.publication? answer = some (key, table))
      (hcomplete : table.Complete)
      (hpublish : session.registry.publish key table = .ok registry) :
      Change session step answer { session with registry }
  | newHandle (name key : String) :
      Change session (.newHandle name key) .done
        { session with handles := session.handles.insert name { key } }
  | usedHandle {name : String} {handle : ImportHandle}
      (hhandle : session.handles.find? name = some handle) :
      Change session (.useHandle name) (.ofResult (handle.acquire session.registry).2)
        { session with
          handles := session.handles.insert name (handle.acquire session.registry).1 }

theorem Change.kept {session : Session} {step : Step} {answer : Answer}
    (hpublication : step.publication? answer = none) : session.Change step answer session :=
  .unfinished session.unfinished hpublication

theorem change_step (session : Session) (step : Step) :
    session.Change step (session.step step).2 (session.step step).1 := by
  cases step with
  | begin name size => exact .unfinished _ rfl
  | set name index address =>
    rw [Session.step, Session.set]
    split
    · exact .kept rfl
    · split <;> exact .unfinished _ rfl
  | writeAll name writes =>
    rw [Session.step, Session.writeAll]
    split
    · exact .kept rfl
    · exact .unfinished _ rfl
  | finish name table =>
    rw [Session.step, Session.finish]
    split
    · exact .kept rfl
    · dsimp only
      split
      next finished hfinish => exact .finished _ table rfl hfinish
      next => exact .unfinished _ rfl
  | inspectTable table =>
    rw [Session.step]
    split <;> exact .kept rfl
  | publish key name =>
    rw [Session.step, Session.publish]
    split
    · exact .kept rfl
    next table htable =>
      dsimp only
      split
      next registry hpublish => exact .published rfl htable hpublish
      next => exact .refused name rfl
  | acquire key => exact .kept rfl
  | askPublished key => exact .kept rfl
  | newHandle name key => exact .newHandle name key
  | useHandle name =>
    rw [Session.step, Session.useHandle]
    split
    · exact .kept rfl
    next handle hhandle => exact .usedHandle hhandle
  | inspectHandle name =>
    rw [Session.step]
    split <;> exact .kept rfl
  | foreignPublish key slots size =>
    rw [Session.step, Session.foreignPublish]
    split
    next registry hpublish =>
      obtain ⟨name, table, hdenoted, hcomplete, hname⟩ := Foreign.denoted?_of_publish hpublish
      rw [hpublish]
      exact .foreignPublished hdenoted hcomplete hname
    next e hpublish =>
      rw [hpublish]
      exact .kept rfl
  | foreignAcquire key => exact .kept rfl

/-- What every step preserves holds after every run. -/
theorem run_of_step {P : Session → Prop}
    (hstep : ∀ {session}, P session → ∀ step, P (session.step step).1) {session : Session}
    (h : P session) (steps : List Step) : P (session.run steps).1 := by
  induction steps generalizing session with
  | nil => exact h
  | cons step rest ih => exact ih (hstep h step)

end Session

end ExportTable.Capsule
