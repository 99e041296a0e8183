import Workflows.SubWorkflows
import Workflows.VersionRegistry
/-! What a sub-workflow runs. The goroutine of `ExecuteSubWorkflow` calls its orchestrator's
`ExecuteWorkflow(ctx, subWorkflowID, inputs)`: the interface has no version parameter, and
`OrchestratorV2.ExecuteWorkflow` puts the latest version of the workflow into the request it
sends. The version the caller asked for is written into the record and nowhere else. -/
namespace Workflows.SubWorkflows
open Registry Engine

structure WorkflowRequest where
  workflowID : String
  workflowVersion : String
  executionID : String
  inputs : List (String × String)
  timeoutSeconds : Nat
  deriving DecidableEq, Repr

/-- `OrchestratorV2.ExecuteWorkflow` up to the request it sends, with its error texts. `selected`
is what `SelectEngine` returned, `engines` the keys of `o.engines`, `connected` what `Connect`
returned; the inputs are already formatted with `%v`. The execution counter moves once the
version is known, whether or not the call gets further. -/
def executeWorkflowRequest (wm : WorkflowManager) (engines : List String) (executionCounter nanos : BitVec 64)
    (selected : Except String String) (connected : Except String Unit) (workflowID : String)
    (inputs : List (String × String)) : Except String WorkflowRequest × BitVec 64 :=
  if !wm.hasWorkflow workflowID then (.error ("workflow " ++ workflowID ++ " not found"),executionCounter)
  else match wm.getLatestVersion workflowID with
    | .error err => (.error ("failed to get workflow version: " ++ err),executionCounter)
    | .ok version =>
      let (executionID,executionCounter) := Dispatch.nextExecutionID executionCounter nanos
      (do
        let engineID ← selected.mapError ("failed to select engine: " ++ ·)
        if engineID ∉ engines then throw ("engine " ++ engineID ++ " not found")
        let _ ← (wm.buildWorkflow workflowID).mapError ("failed to build workflow: " ++ ·)
        connected.mapError ("failed to connect to engine: " ++ ·)
        pure ⟨workflowID,version,executionID,inputs,600⟩,executionCounter)

/-- The call the goroutine of `ExecuteSubWorkflow` makes: the sub-workflow's id and the inputs
with the parent's ids set; `subWorkflowVersion` is not passed on. -/
def subWorkflowRequest (wm : WorkflowManager) (engines : List String) (executionCounter nanos : BitVec 64)
    (selected : Except String String) (connected : Except String Unit)
    (subWorkflowID parentWorkflowID parentExecutionID : String) (inputs : List (String × String)) :
    Except String WorkflowRequest × BitVec 64 :=
  executeWorkflowRequest wm engines executionCounter nanos selected connected subWorkflowID
    (setKey (setKey inputs "_parent_workflow_id" parentWorkflowID) "_parent_execution_id" parentExecutionID)

theorem childRunsLatestVersion : ∃ wm swc,
    (newWorkflowManager.registerWorkflow "w" "1.0.0" (.ok ⟨[]⟩) none).bind
      (·.registerWorkflow "w" "2.0.0" (.ok ⟨[]⟩) none) = .ok wm ∧
    wm.getWorkflowDefinition "w" "1.0.0" = .ok ⟨[]⟩ ∧
    (newSubWorkflowCoordinator.executeSubWorkflow "w" "1.0.0" "parent" 7).2 = swc ∧
    (swc.getSubWorkflowStatus (subExecutionID "parent" 7)).map (·.subWorkflowVersion) = .ok "1.0.0" ∧
    (subWorkflowRequest wm ["e1"] 0 8 (.ok "e1") (.ok ()) "w" "p" "parent" []).1.map (·.workflowVersion) = .ok "2.0.0" := by
  simp only [SubWorkflowCoordinator.executeSubWorkflow,subExecutionIDOfParent]
  exact ⟨_,_,rfl,rfl,rfl,rfl,rfl⟩

end Workflows.SubWorkflows
