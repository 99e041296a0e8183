import Mathlib.Data.List.Basic
/-! `EngineService`: admission of executions against `capacity`, the goroutine that runs
`engine.Run` and then, in two critical sections, writes the status and deletes the record, and
`StopWorkflow`. Each step is one critical section under `es.mu` or the return of a `Run`.
A call that returns an error leaves the service as it was. `activeWorkflows` is a Go map kept
as a list of entries with distinct keys, `m[key] = value` as `setKey` and `delete` as `deleteKey`. -/
namespace Workflows.Engine

inductive Phase where
  | running
  | returned (failed : Bool)
  | written
  | finished
  deriving DecidableEq, Repr

structure WorkflowExecution where
  executionID : String
  workflowID : String
  version : String
  status : String
  cancelled : Bool
  phase : Phase
  deriving DecidableEq, Repr

/-- `activeWorkflows` maps an execution id to the position of its `WorkflowExecution` in
`executions`, which keeps every execution ever created. -/
structure EngineService where
  id : String
  capacity : Int
  activeWorkflows : List (String × Nat)
  executions : List WorkflowExecution
  deriving DecidableEq, Repr

def newEngineService (id : String) (capacity : Int) : EngineService := ⟨id,capacity,[],[]⟩

/-- `m[key] = value` on a Go map kept as a list of entries with distinct keys. -/
def setKey {α : Type} (m : List (String × α)) (key : String) (value : α) : List (String × α) :=
  if m.any (·.1 == key) then m.map fun kv => if kv.1 = key then (key,value) else kv else m ++ [(key,value)]

theorem lookupCons {α : Type} (a : String) (b : α) (m : List (String × α)) (k : String) :
    ((a,b) :: m).lookup k = if k = a then some b else m.lookup k := by
  by_cases same : k = a
  · simp [same]
  · simp [List.lookup_cons,beq_false_of_ne same,same]

theorem lookupReplace {α : Type} (m : List (String × α)) (key k : String) (value : α) :
    (m.map fun kv => if kv.1 = key then (key,value) else kv).lookup k =
      if k = key then (m.lookup k).map fun _ => value else m.lookup k := by
  induction m with
  | nil => simp
  | cons kv m ih =>
    obtain ⟨a,b⟩ := kv
    by_cases here : a = key
    · subst here; by_cases hk : k = a <;> simp_all [lookupCons]
    · by_cases hk : k = key
      · subst hk; simp_all [lookupCons,Ne.symm here]
      · by_cases ha : k = a <;> simp_all [lookupCons]

@[simp] theorem lookupSetKey {α : Type} (m : List (String × α)) (key k : String) (value : α) :
    (setKey m key value).lookup k = if k = key then some value else m.lookup k := by
  unfold setKey
  split
  · rename_i present
    rw [lookupReplace]
    split
    · subst k
      obtain ⟨p,member,named⟩ := List.any_eq_true.mp present
      obtain ⟨v,found⟩ := Option.isSome_iff_exists.mp
        (List.lookup_isSome_iff.mpr ⟨p,member,beq_iff_eq.mpr (beq_iff_eq.mp named).symm⟩)
      rw [found]; rfl
    · rfl
  · rename_i absent
    rw [List.lookup_append]
    split
    · subst k
      have none : m.lookup key = none := List.lookup_eq_none_iff.mpr fun p member =>
        bne_iff_ne.mpr fun named => absent (List.any_eq_true.mpr ⟨p,member,beq_iff_eq.mpr named.symm⟩)
      simp [none]
    · rename_i other
      rw [lookupCons,if_neg other,List.lookup_nil,Option.or_none]

def deleteKey (m : List (String × Nat)) (key : String) : List (String × Nat) := m.filter (·.1 != key)

@[simp] theorem lookupDeleteKey (m : List (String × Nat)) (key k : String) :
    (deleteKey m key).lookup k = if k = key then none else m.lookup k := by
  induction m with
  | nil => split <;> rfl
  | cons kv m ih =>
    obtain ⟨a,b⟩ := kv
    by_cases here : a = key
    · subst here
      have filtered : deleteKey ((a,b) :: m) a = deleteKey m a := by simp [deleteKey,List.filter_cons]
      rw [filtered,ih,lookupCons]
      by_cases hk : k = a <;> simp [hk]
    · have filtered : deleteKey ((a,b) :: m) key = (a,b) :: deleteKey m key := by
        simp [deleteKey,List.filter_cons,here]
      rw [filtered,lookupCons,ih,lookupCons]
      by_cases hk : k = key
      · rw [if_pos hk,if_neg fun (same : k = a) => here (same ▸ hk),if_pos hk]
      · rw [if_neg hk,if_neg hk]

def EngineService.setExecution (es : EngineService) (h : Nat) (x : WorkflowExecution) : EngineService :=
  { es with executions := es.executions.set h x }

def EngineService.executeWorkflow (es : EngineService) (workflowID version executionID : String) :
    Except String EngineService :=
  if (es.activeWorkflows.length : Int) ≥ es.capacity then .error ("engine at capacity (" ++ toString es.capacity ++ ")")
  else .ok { es with
    activeWorkflows := setKey es.activeWorkflows executionID es.executions.length
    executions := es.executions ++ [⟨executionID,workflowID,version,"RUNNING",false,.running⟩] }

def EngineService.stopWorkflow (es : EngineService) (executionID : String) : Except String EngineService :=
  match es.activeWorkflows.lookup executionID with
  | none => .error ("workflow " ++ executionID ++ " not found")
  | some h => .ok { es with
      executions := es.executions.modify (fun x => { x with status := "CANCELLED", cancelled := true }) h }

def EngineService.getActiveWorkflows (es : EngineService) : Nat := es.activeWorkflows.length

def EngineService.getCapacity (es : EngineService) : Int := es.capacity

def EngineService.getWorkflowStatus (es : EngineService) (executionID : String) : Except String String :=
  match es.activeWorkflows.lookup executionID with
  | none => .error ("workflow " ++ executionID ++ " not found")
  | some h => .ok ((es.executions[h]?.map (·.status)).getD "")

def EngineService.listActiveWorkflows (es : EngineService) : List String := es.activeWorkflows.map (·.1)

inductive Action where
  | executeWorkflow (workflowID version executionID : String)
  | stopWorkflow (executionID : String)
  | runReturns (exec : Nat) (failed : Bool)
  | writeStatus (exec : Nat)
  | deleteRecord (exec : Nat)
  deriving DecidableEq, Repr

def step (es : EngineService) : Action → Option EngineService
  | .executeWorkflow workflowID version executionID =>
    some (match es.executeWorkflow workflowID version executionID with | .ok es' => es' | .error _ => es)
  | .stopWorkflow executionID => some (match es.stopWorkflow executionID with | .ok es' => es' | .error _ => es)
  | .runReturns h failed =>
    match es.executions[h]? with
    | some x => if x.phase = .running then some (es.setExecution h { x with phase := .returned failed }) else none
    | none => none
  | .writeStatus h =>
    match es.executions[h]? with
    | some x =>
      match x.phase with
      | .returned failed =>
        some (es.setExecution h { x with status := if failed then "FAILED" else "COMPLETED", phase := .written })
      | _ => none
    | none => none
  | .deleteRecord h =>
    match es.executions[h]? with
    | some x =>
      if x.phase = .written then
        some { es.setExecution h { x with phase := .finished } with
          activeWorkflows := deleteKey es.activeWorkflows x.executionID }
      else none
    | none => none

def run (es : EngineService) : List Action → Option EngineService
  | [] => some es
  | a :: trace => (step es a).bind fun es => run es trace

def EngineService.runningRuns (es : EngineService) : Nat := (es.executions.filter (·.phase = .running)).length

def EngineService.unfinished (es : EngineService) : Nat := (es.executions.filter (·.phase ≠ .finished)).length

end Workflows.Engine
