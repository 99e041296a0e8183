import Workflows.EngineService
import Workflows.DagRunSafety
/-! An `EngineService` together with the `Run` of the engine each execution was handed. The
goroutine of `ExecuteWorkflow` writes FAILED when `engine.Run(execCtx)` returns an error, but
`Run` returns nil on every path, whatever its executors return: over every interleaving of the
service's calls, its goroutines and the steps of every `Run`, no execution is ever FAILED, and a
workflow whose node failed is reported COMPLETED. -/
namespace Workflows.Engine
open DagGraph

structure Runtime where
  service : EngineService
  runs : List (DAGEngine × DagRun.Sched)

/-- `dag exec a` is a step of the `Run` of execution `exec`. Its `cancel` step is the
cancellation of `execCtx`, which `StopWorkflow` makes and the caller's context may make at any
time; `runReturns exec` hands the goroutine what that `Run` returned. -/
inductive RuntimeAction where
  | executeWorkflow (workflowID version executionID : String) (engine : DAGEngine)
  | stopWorkflow (executionID : String)
  | dag (exec : Nat) (a : DagRun.Action)
  | runReturns (exec : Nat)
  | writeStatus (exec : Nat)
  | deleteRecord (exec : Nat)

def Runtime.step (rt : Runtime) : RuntimeAction → Option Runtime
  | .executeWorkflow workflowID version executionID engine =>
    some (match rt.service.executeWorkflow workflowID version executionID with
      | .ok es => ⟨es,rt.runs ++ [(engine,DagRun.Sched.init engine)]⟩
      | .error _ => rt)
  | .stopWorkflow executionID => (Engine.step rt.service (.stopWorkflow executionID)).map (⟨·,rt.runs⟩)
  | .dag h a =>
    match rt.runs[h]? with
    | some (e,s) => (DagRun.step e s a).map fun s => ⟨rt.service,rt.runs.set h (e,s)⟩
    | none => none
  | .runReturns h =>
    match rt.runs[h]? with
    | some (_,s) =>
      match s.returned with
      | some result => (Engine.step rt.service (.runReturns h !result.toBool)).map (⟨·,rt.runs⟩)
      | none => none
    | none => none
  | .writeStatus h => (Engine.step rt.service (.writeStatus h)).map (⟨·,rt.runs⟩)
  | .deleteRecord h => (Engine.step rt.service (.deleteRecord h)).map (⟨·,rt.runs⟩)

def Runtime.run (rt : Runtime) : List RuntimeAction → Option Runtime
  | [] => some rt
  | a :: trace => (rt.step a).bind fun rt => rt.run trace

/-! ### The service alone -/

def NeverFailed (es : EngineService) : Prop := ∀ x ∈ es.executions, x.status ≠ "FAILED" ∧ x.phase ≠ .returned true

theorem memModify {α : Type} {f : α → α} {h : Nat} {l : List α} {y : α} (mem : y ∈ l.modify f h) :
    ∃ x ∈ l, y = x ∨ y = f x := by
  obtain ⟨m,found⟩ := List.mem_iff_getElem?.mp mem
  rw [List.getElem?_modify] at found
  obtain ⟨x,at_,same⟩ := Option.map_eq_some'.mp found
  refine ⟨x,List.mem_iff_getElem?.mpr ⟨m,at_⟩,?_⟩
  split at same
  · exact .inr same.symm
  · exact .inl same.symm

theorem neverFailedSet {es : EngineService} (good : NeverFailed es) {h : Nat} {x : WorkflowExecution}
    (fine : x.status ≠ "FAILED" ∧ x.phase ≠ .returned true) : NeverFailed (es.setExecution h x) := fun y mem =>
  (List.mem_or_eq_of_mem_set mem).elim (good y) fun same => same ▸ fine

theorem neverFailedStep {es es' : EngineService} (good : NeverFailed es) {a : Action}
    (notError : ∀ h, a ≠ .runReturns h true) (stepped : step es a = some es') : NeverFailed es' := by
  cases a with
  | executeWorkflow workflowID version executionID =>
    cases stepped
    unfold EngineService.executeWorkflow
    split_ifs
    · exact good
    · intro x mem
      rcases List.mem_append.mp mem with old | new
      · exact good x old
      · rw [List.mem_singleton.mp new]; exact ⟨by show "RUNNING" ≠ "FAILED"; decide,nofun⟩
  | stopWorkflow executionID =>
    cases stepped
    cases found : es.activeWorkflows.lookup executionID with
    | none => simpa only [EngineService.stopWorkflow,found] using good
    | some h =>
      simp only [EngineService.stopWorkflow,found]
      intro y mem
      obtain ⟨x,inside,same | same⟩ := memModify mem <;> rw [same]
      · exact good x inside
      · exact ⟨by show "CANCELLED" ≠ "FAILED"; decide,(good x inside).2⟩
  | runReturns h failed =>
    have returnedOk : failed = false := by simpa using notError h
    simp only [step] at stepped
    split at stepped
    · rename_i x found
      split_ifs at stepped
      cases stepped
      exact neverFailedSet good ⟨(good x (List.mem_iff_getElem?.mpr ⟨h,found⟩)).1,by simp [returnedOk]⟩
    · cases stepped
  | writeStatus h =>
    simp only [step] at stepped
    split at stepped
    · rename_i x found
      have fine := good x (List.mem_iff_getElem?.mpr ⟨h,found⟩)
      split at stepped
      · rename_i failed returned
        cases stepped
        have returnedOk : failed = false := by
          cases failed
          · rfl
          · exact absurd returned fine.2
        exact neverFailedSet good ⟨by simp [returnedOk],nofun⟩
      · cases stepped
    · cases stepped
  | deleteRecord h =>
    simp only [step] at stepped
    split at stepped
    · rename_i x found
      split_ifs at stepped
      cases stepped
      exact neverFailedSet good ⟨(good x (List.mem_iff_getElem?.mpr ⟨h,found⟩)).1,nofun⟩
    · cases stepped

/-! ### The service with its runs -/

structure Runtime.Good (rt : Runtime) : Prop where
  runs : ∀ r ∈ rt.runs, r.2.returned = none ∨ r.2.returned = some (.ok ())
  service : NeverFailed rt.service

theorem Runtime.goodStep {rt rt' : Runtime} (good : rt.Good) {a : RuntimeAction} (stepped : rt.step a = some rt') :
    rt'.Good := by
  cases a with
  | executeWorkflow workflowID version executionID engine =>
    have service := @neverFailedStep _ _ good.service (.executeWorkflow workflowID version executionID) (fun _ => by simp) rfl
    cases stepped
    cases admitted : rt.service.executeWorkflow workflowID version executionID with
    | error _ => simpa only [admitted] using good
    | ok es =>
      simp only [step,admitted] at service
      refine ⟨fun r mem => ?_,service⟩
      rcases List.mem_append.mp mem with old | new
      · exact good.runs r old
      · rw [List.mem_singleton.mp new]; exact .inl rfl
  | stopWorkflow executionID =>
    simp only [Runtime.step] at stepped
    obtain ⟨es,stepped',rfl⟩ := Option.map_eq_some'.mp stepped
    exact ⟨good.runs,neverFailedStep good.service (fun _ => by simp) stepped'⟩
  | dag h a =>
    simp only [Runtime.step] at stepped
    split at stepped
    · rename_i e s found
      obtain ⟨s',dagStep,rfl⟩ := Option.map_eq_some'.mp stepped
      refine ⟨fun r mem => ?_,good.service⟩
      rcases List.mem_or_eq_of_mem_set mem with old | new
      · exact good.runs r old
      · rw [new]
        rcases DagRun.stepReturned dagStep with same | ok
        · rw [same]; exact good.runs (e,s) (List.mem_iff_getElem?.mpr ⟨h,found⟩)
        · exact .inr ok
    · cases stepped
  | runReturns h =>
    simp only [Runtime.step] at stepped
    split at stepped
    · rename_i e s found
      split at stepped
      · rename_i result returned
        obtain ⟨es,stepped',rfl⟩ := Option.map_eq_some'.mp stepped
        have ok : result = .ok () := by
          rcases good.runs (e,s) (List.mem_iff_getElem?.mpr ⟨h,found⟩) with none | ok
          · rw [returned] at none; cases none
          · rw [returned] at ok; exact Option.some.inj ok
        subst ok
        exact ⟨good.runs,neverFailedStep good.service (fun _ => by simp [Except.toBool]) stepped'⟩
      · cases stepped
    · cases stepped
  | writeStatus h | deleteRecord h =>
    simp only [Runtime.step] at stepped
    obtain ⟨es,stepped',rfl⟩ := Option.map_eq_some'.mp stepped
    exact ⟨good.runs,neverFailedStep good.service (fun _ => by simp) stepped'⟩

theorem Runtime.goodRun {rt rt' : Runtime} {trace : List RuntimeAction} (good : rt.Good) (ran : rt.run trace = some rt') :
    rt'.Good := by
  induction trace generalizing rt with
  | nil => cases ran; exact good
  | cons a trace ih =>
    obtain ⟨mid,first,rest⟩ := Option.bind_eq_some.mp ran
    exact ih (Runtime.goodStep good first) rest

/-- Over every interleaving of `ExecuteWorkflow` and `StopWorkflow`, of the steps of the `Run` of
every execution, whatever its executors return, and of the execution goroutines, no execution of
a new service is ever FAILED, and `GetWorkflowStatus` never answers FAILED. -/
theorem neverReportedFailed {id : String} {capacity : Int} {trace : List RuntimeAction} {rt : Runtime}
    (ran : Runtime.run ⟨newEngineService id capacity,[]⟩ trace = some rt) :
    (∀ x ∈ rt.service.executions, x.status ≠ "FAILED") ∧
      ∀ executionID, rt.service.getWorkflowStatus executionID ≠ .ok "FAILED" := by
  have good := Runtime.goodRun ⟨fun _ => by simp,fun _ => by simp [newEngineService]⟩ ran
  refine ⟨fun x mem => (good.service x mem).1,fun executionID reported => ?_⟩
  unfold EngineService.getWorkflowStatus at reported
  split at reported
  · cases reported
  · rename_i h _
    cases found : rt.service.executions[h]? with
    | none =>
      simp only [found,Option.map_none',Option.getD_none,Except.ok.injEq] at reported
      exact absurd reported (by decide)
    | some x =>
      simp only [found,Option.map_some',Option.getD_some,Except.ok.injEq] at reported
      exact (good.service x (List.mem_iff_getElem?.mpr ⟨h,found⟩)).1 reported

def failingRun : List RuntimeAction :=
  [.executeWorkflow "wf" "1.0.0" "A" DagRun.soloEngine,.dag 0 (.runVisit "a"),.dag 0 (.setRunning "a"),
    .dag 0 (.execute "a"),.dag 0 (.finish "a" (.error "boom")),.dag 0 .runReturn,.runReturns 0,.writeStatus 0]

theorem failedNodeCompleted : ∃ rt, Runtime.run ⟨newEngineService "e" 1,[]⟩ failingRun = some rt ∧
    (∃ e s, rt.runs[0]? = some (e,s) ∧ (s.node "a").status = .failed) ∧
    rt.service.getWorkflowStatus "A" = .ok "COMPLETED" ∧
    ((∀ x ∈ rt.service.executions, x.status ≠ "FAILED") ∧
      ∀ executionID, rt.service.getWorkflowStatus executionID ≠ .ok "FAILED") :=
  ⟨_,rfl,⟨_,_,rfl,rfl⟩,rfl,@neverReportedFailed "e" 1 failingRun _ rfl⟩

end Workflows.Engine
