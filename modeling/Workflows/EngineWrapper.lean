import Workflows.ExecutionIds
/-! The in-process `Orchestrator` and its `EngineWrapper`s. `ExecuteWorkflow` reads a wrapper's
`Status` under its read lock, picks one that is Idle, builds a fresh `DAGEngine`, stores it in the
wrapper's `Engine`, and sends a workflow request into the wrapper's `Inbound`; nothing is held
from the check to the send. The wrapper's loop handles its messages one at a time: a request sets
Running and starts a goroutine, without looking at the status, and that goroutine reads
`ew.Engine` when it calls `Run`, sends its response, and in its deferred function sets Idle,
again without looking at the status. Stop, Pause and Resume messages set the status under the
same lock. Each step below is one critical section, one channel operation, or one call's
return.
The `DAGEngine`s live in a heap, of which a wrapper's `Engine` is a position; of a message's
payload the model keeps the `workflow_id` of a request and the `success` of a response. -/
namespace Workflows.Local

inductive MessageType where
  | workflowRequest
  | workflowResponse
  | statusUpdate
  | healthCheck
  | healthResponse
  | stop
  | pause
  | resume
  deriving DecidableEq, Repr

inductive EngineStatus where
  | idle
  | running
  | paused
  | error
  | stopped
  deriving DecidableEq, Repr

structure EngineMessage where
  type : MessageType
  requestID : String
  workflowID : String
  success : Bool
  deriving DecidableEq, Repr

inductive WorkflowPhase where
  | starting
  | running (engine : Nat)
  | returned (success : Bool)
  | responded
  | reported
  | finished
  deriving DecidableEq, Repr

structure WorkflowGoroutine where
  wrapper : Nat
  requestID : String
  cancelled : Bool
  phase : WorkflowPhase
  deriving DecidableEq, Repr

structure EngineWrapper where
  id : String
  engine : Nat
  inbound : List EngineMessage
  outbound : List EngineMessage
  status : EngineStatus
  currentWorkflow : String
  currentCancel : Option Nat
  loopExited : Bool
  monitorExited : Bool
  inboundClosed : Bool
  outboundClosed : Bool
  deriving DecidableEq, Repr

inductive CallPhase where
  | selecting
  | building (wrapper : Nat)
  | replacing (wrapper engine : Nat)
  | preprocessing (wrapper engine : Nat)
  | sending (wrapper : Nat) (requestID : String)
  | waiting (wrapper : Nat) (requestID : String)
  | returned (error : Option String)
  deriving DecidableEq, Repr

structure Caller where
  workflowID : String
  phase : CallPhase
  deriving DecidableEq, Repr

inductive StopPhase where
  | cancelled
  | sent
  | closed
  deriving DecidableEq, Repr

structure Stopper where
  wrapper : Nat
  phase : StopPhase
  deriving DecidableEq, Repr

/-- `engines` maps an engine id to a position in `wrappers`, which keeps every wrapper ever made;
`runs[e]` counts the calls of `Run` on `DAGEngine` `e`; `ctxDone` is `o.ctx.Done()`. A send on a
closed channel is recorded in `panicked`. -/
structure Orchestrator where
  engines : List (String × Nat)
  wrappers : List EngineWrapper
  workflows : List String
  goroutines : List WorkflowGoroutine
  runs : List Nat
  callers : List Caller
  stoppers : List Stopper
  requestID : BitVec 64
  ctxDone : Bool
  panicked : Bool
  deriving DecidableEq, Repr

def newOrchestrator : Orchestrator := ⟨[],[],[],[],[],[],[],0,false,false⟩

def channelCapacity : Nat := 100

def requestIDOf (nanos requestID : BitVec 64) : String :=
  "req-" ++ Dispatch.formatDecimal nanos.toInt ++ "-" ++ Dispatch.formatDecimal requestID.toInt

def Orchestrator.updateWrapper (o : Orchestrator) (w : Nat) (f : EngineWrapper → EngineWrapper) : Orchestrator :=
  { o with wrappers := o.wrappers.modify f w }

def Orchestrator.updateGoroutine (o : Orchestrator) (g : Nat) (f : WorkflowGoroutine → WorkflowGoroutine) : Orchestrator :=
  { o with goroutines := o.goroutines.modify f g }

def Orchestrator.setCaller (o : Orchestrator) (c : Nat) (phase : CallPhase) : Orchestrator :=
  { o with callers := o.callers.modify (fun x => { x with phase := phase }) c }

def Orchestrator.statuses (o : Orchestrator) : List EngineStatus := o.wrappers.map (·.status)

def Orchestrator.statusOf (o : Orchestrator) (w : Nat) : Option EngineStatus := o.statuses[w]?

def Orchestrator.cancelCurrent (o : Orchestrator) (cancel : Option Nat) : Orchestrator :=
  match cancel with
  | some g => o.updateGoroutine g fun x => { x with cancelled := true }
  | none => o

def Orchestrator.pushInbound (o : Orchestrator) (w : Nat) (msg : EngineMessage) : Orchestrator :=
  { o.updateWrapper w (fun x => { x with inbound := x.inbound ++ [msg] }) with
    panicked := o.panicked || (o.wrappers[w]?.map (·.inboundClosed)).getD false }

def Orchestrator.pushOutbound (o : Orchestrator) (w : Nat) (msg : EngineMessage) : Orchestrator :=
  { o.updateWrapper w (fun x => { x with outbound := x.outbound ++ [msg] }) with
    panicked := o.panicked || (o.wrappers[w]?.map (·.outboundClosed)).getD false }

def Orchestrator.handleMessage (o : Orchestrator) (w : Nat) (x : EngineWrapper) (msg : EngineMessage) : Orchestrator :=
  match msg.type with
  | .workflowRequest =>
    let spawned := o.updateWrapper w fun x =>
      { x with status := .running, currentWorkflow := msg.workflowID, currentCancel := some o.goroutines.length }
    { spawned with goroutines := o.goroutines ++ [⟨w,msg.requestID,o.ctxDone,.starting⟩] }
  | .stop => (o.updateWrapper w fun x => { x with status := .stopped }).cancelCurrent x.currentCancel
  | .pause =>
    if x.status = .running then (o.updateWrapper w fun x => { x with status := .paused }).cancelCurrent x.currentCancel
    else o
  | .resume => if x.status = .paused then o.updateWrapper w fun x => { x with status := .idle } else o
  | .healthCheck =>
    if x.outbound.length < channelCapacity then o.pushOutbound w ⟨.healthResponse,msg.requestID,"",false⟩ else o
  | _ => o

def Orchestrator.liveWrapper (o : Orchestrator) (w : Nat) : Option EngineWrapper :=
  (o.wrappers[w]?).filter fun x => !x.loopExited

inductive Action where
  | registerEngine (engineID : String)
  | unregisterEngine (engineID : String)
  | registerWorkflow (workflowID : String)
  | executeWorkflow (workflowID : String)
  | selectEngine (c w : Nat)
  | noEngine (c : Nat)
  | build (c : Nat) (ok : Bool)
  | replaceEngine (c : Nat)
  | preprocess (c : Nat) (ok : Bool) (nanos : BitVec 64)
  | sendRequest (c : Nat)
  | sendTimeout (c : Nat)
  | receiveResponse (c : Nat)
  | waitTimeout (c : Nat)
  | handle (w : Nat) (type : MessageType)
  | loopCancelled (w : Nat)
  | loopClosed (w : Nat)
  | startRun (g : Nat)
  | runReturns (g : Nat) (success : Bool)
  | respond (g : Nat)
  | respondCancelled (g : Nat)
  | reportStatus (g : Nat)
  | reset (w g : Nat)
  | drain (w : Nat)
  | monitorExit (w : Nat)
  | sendMessage (w : Nat) (msg : EngineMessage)
  | cancelContext
  | stopWrapper (w : Nat)
  | stopSend (t : Nat)
  | stopClose (t : Nat)
  deriving DecidableEq, Repr

def step (o : Orchestrator) : Action → Option Orchestrator
  | .registerEngine engineID =>
    if o.engines.any (·.1 == engineID) then some o
    else some { o with
      engines := o.engines ++ [(engineID,o.wrappers.length)], runs := o.runs ++ [0]
      wrappers := o.wrappers ++ [⟨engineID,o.runs.length,[],[],.idle,"",none,false,false,false,false⟩] }
  | .unregisterEngine engineID =>
    match o.engines.lookup engineID with
    | some w =>
      match o.wrappers[w]? with
      | some x => some { o.cancelCurrent x.currentCancel with
          engines := o.engines.filter (·.1 != engineID), stoppers := o.stoppers ++ [⟨w,.cancelled⟩] }
      | none => none
    | none => some o
  | .registerWorkflow workflowID =>
    if workflowID ∈ o.workflows then some o else some { o with workflows := o.workflows ++ [workflowID] }
  | .executeWorkflow workflowID =>
    some { o with callers := o.callers ++ [⟨workflowID,
      if workflowID ∈ o.workflows then .selecting else .returned (some ("workflow " ++ workflowID ++ " not found"))⟩] }
  | .selectEngine c w =>
    match o.callers[c]?, o.wrappers[w]? with
    | some ⟨_,.selecting⟩, some x =>
      if (o.engines.any (·.2 == w)) && x.status = .idle then some (o.setCaller c (.building w)) else none
    | _, _ => none
  | .noEngine c =>
    match o.callers[c]? with
    | some ⟨workflowID,.selecting⟩ =>
      if o.engines.all fun e => (o.wrappers[e.2]?.map (·.status)) ≠ some .idle then
        some (o.setCaller c (.returned (some ("no available engine for workflow " ++ workflowID))))
      else none
    | _ => none
  | .build c ok =>
    match o.callers[c]? with
    | some ⟨_,.building w⟩ =>
      if ok then some { o.setCaller c (.replacing w o.runs.length) with runs := o.runs ++ [0] }
      else some (o.setCaller c (.returned (some "failed to build workflow engine")))
    | _ => none
  | .replaceEngine c =>
    match o.callers[c]? with
    | some ⟨_,.replacing w e⟩ => some ((o.updateWrapper w fun x => { x with engine := e }).setCaller c (.preprocessing w e))
    | _ => none
  | .preprocess c ok nanos =>
    match o.callers[c]? with
    | some ⟨_,.preprocessing w _⟩ =>
      if ok then some { o.setCaller c (.sending w (requestIDOf nanos (o.requestID + 1))) with requestID := o.requestID + 1 }
      else some (o.setCaller c (.returned (some "failed to preprocess DAG")))
    | _ => none
  | .sendRequest c =>
    match o.callers[c]? with
    | some ⟨workflowID,.sending w requestID⟩ =>
      match o.wrappers[w]? with
      | some x =>
        if x.inbound.length < channelCapacity then
          some ((o.pushInbound w ⟨.workflowRequest,requestID,workflowID,false⟩).setCaller c (.waiting w requestID))
        else none
      | none => none
    | _ => none
  | .sendTimeout c =>
    match o.callers[c]? with
    | some ⟨_,.sending w _⟩ =>
      match o.wrappers[w]? with
      | some x => some (o.setCaller c (.returned (some ("timeout sending message to engine " ++ x.id))))
      | none => none
    | _ => none
  | .receiveResponse c =>
    match o.callers[c]? with
    | some ⟨_,.waiting w requestID⟩ =>
      match o.wrappers[w]? with
      | some x =>
        match x.outbound with
        | msg :: rest =>
          let o' := o.updateWrapper w fun x => { x with outbound := rest }
          if msg.type = .workflowResponse ∧ msg.requestID = requestID then
            some (o'.setCaller c (.returned (if msg.success then none else some "workflow execution failed")))
          else some (o'.setCaller c (.returned (some "unexpected response")))
        | [] => if x.outboundClosed then some { o with panicked := true } else none
      | none => none
    | _ => none
  | .waitTimeout c =>
    match o.callers[c]? with
    | some ⟨_,.waiting _ _⟩ => some (o.setCaller c (.returned (some "workflow execution timeout")))
    | _ => none
  | .handle w type =>
    match o.liveWrapper w with
    | some x =>
      match x.inbound with
      | msg :: rest =>
        if msg.type = type then some ((o.updateWrapper w fun x => { x with inbound := rest }).handleMessage w x msg) else none
      | [] => none
    | none => none
  | .loopCancelled w =>
    match o.liveWrapper w with
    | some _ => if o.ctxDone then some (o.updateWrapper w fun x => { x with status := .stopped, loopExited := true }) else none
    | none => none
  | .loopClosed w =>
    match o.liveWrapper w with
    | some x => if x.inboundClosed ∧ x.inbound = [] then some (o.updateWrapper w fun x => { x with loopExited := true }) else none
    | none => none
  | .startRun g =>
    match o.goroutines[g]? with
    | some ⟨w,_,_,.starting⟩ =>
      match o.wrappers[w]? with
      | some x =>
        some { o.updateGoroutine g (fun y => { y with phase := .running x.engine }) with
          runs := o.runs.modify (· + 1) x.engine }
      | none => none
    | _ => none
  | .runReturns g success =>
    match o.goroutines[g]? with
    | some ⟨_,_,_,.running _⟩ => some (o.updateGoroutine g fun y => { y with phase := .returned success })
    | _ => none
  | .respond g =>
    match o.goroutines[g]? with
    | some ⟨w,requestID,_,.returned success⟩ =>
      match o.wrappers[w]? with
      | some x =>
        if x.outbound.length < channelCapacity then
          some ((o.pushOutbound w ⟨.workflowResponse,requestID,"",success⟩).updateGoroutine g fun y => { y with phase := .responded })
        else none
      | none => none
    | _ => none
  | .respondCancelled g =>
    match o.goroutines[g]? with
    | some ⟨_,_,true,.returned _⟩ => some (o.updateGoroutine g fun y => { y with phase := .responded })
    | _ => none
  | .reportStatus g =>
    match o.goroutines[g]? with
    | some ⟨w,_,_,.responded⟩ =>
      match o.wrappers[w]? with
      | some x =>
        let o' := o.updateGoroutine g fun y => { y with phase := .reported }
        if x.outbound.length < channelCapacity then some (o'.pushOutbound w ⟨.statusUpdate,"","",false⟩) else some o'
      | none => none
    | _ => none
  | .reset w g =>
    match o.goroutines[g]? with
    | some ⟨w',_,_,.reported⟩ =>
      if w' = w then
        some ((o.updateWrapper w fun x => { x with status := .idle, currentWorkflow := "", currentCancel := none }).updateGoroutine g
          fun y => { y with phase := .finished })
      else none
    | _ => none
  | .drain w =>
    match o.wrappers[w]? with
    | some x =>
      match x.outbound, x.monitorExited with
      | _ :: rest, false => some (o.updateWrapper w fun x => { x with outbound := rest })
      | _, _ => none
    | none => none
  | .monitorExit w =>
    match o.wrappers[w]? with
    | some x =>
      if !x.monitorExited ∧ (o.ctxDone ∨ x.outboundClosed ∧ x.outbound = []) then
        some (o.updateWrapper w fun x => { x with monitorExited := true })
      else none
    | none => none
  | .sendMessage w msg =>
    match o.wrappers[w]? with
    | some x => if x.inbound.length < channelCapacity then some (o.pushInbound w msg) else none
    | none => none
  | .cancelContext => some { o with ctxDone := true, goroutines := o.goroutines.map fun y => { y with cancelled := true } }
  | .stopWrapper w =>
    match o.wrappers[w]? with
    | some x => some { o.cancelCurrent x.currentCancel with stoppers := o.stoppers ++ [⟨w,.cancelled⟩] }
    | none => none
  | .stopSend t =>
    match o.stoppers[t]? with
    | some ⟨w,.cancelled⟩ =>
      match o.wrappers[w]? with
      | some x =>
        let o' := { o with stoppers := o.stoppers.set t ⟨w,.sent⟩ }
        if x.inbound.length < channelCapacity then some (o'.pushInbound w ⟨.stop,"","",false⟩) else some o'
      | none => none
    | _ => none
  | .stopClose t =>
    match o.stoppers[t]? with
    | some ⟨w,.sent⟩ =>
      match o.wrappers[w]? with
      | some x =>
        if x.loopExited then
          some { o.updateWrapper w (fun x => { x with inboundClosed := true, outboundClosed := true }) with
            stoppers := o.stoppers.set t ⟨w,.closed⟩, panicked := o.panicked || x.inboundClosed || x.outboundClosed }
        else none
      | none => none
    | _ => none

def run (o : Orchestrator) : List Action → Option Orchestrator
  | [] => some o
  | a :: trace => (step o a).bind fun o => run o trace

/-! ### What changes a wrapper's status -/

section
variable {o : Orchestrator}

@[simp] theorem wrappersUpdateGoroutine {g : Nat} {f : WorkflowGoroutine → WorkflowGoroutine} :
    (o.updateGoroutine g f).wrappers = o.wrappers := rfl

@[simp] theorem wrappersSetCaller {c : Nat} {phase : CallPhase} : (o.setCaller c phase).wrappers = o.wrappers := rfl

@[simp] theorem wrappersCancelCurrent {cancel : Option Nat} : (o.cancelCurrent cancel).wrappers = o.wrappers := by
  cases cancel <;> rfl

@[simp] theorem wrappersPushInbound {w : Nat} {msg : EngineMessage} :
    (o.pushInbound w msg).wrappers = o.wrappers.modify (fun x => { x with inbound := x.inbound ++ [msg] }) w := rfl

@[simp] theorem wrappersPushOutbound {w : Nat} {msg : EngineMessage} :
    (o.pushOutbound w msg).wrappers = o.wrappers.modify (fun x => { x with outbound := x.outbound ++ [msg] }) w := rfl

end

section
variable {o o' : Orchestrator} {v w : Nat}

end

def overlappingCalls : List Action :=
  [.registerEngine "e1", .registerWorkflow "w", .executeWorkflow "w", .executeWorkflow "w",
    .selectEngine 0 0, .selectEngine 1 0, .build 0 true, .build 1 true,
    .replaceEngine 0, .preprocess 0 true 5, .sendRequest 0, .replaceEngine 1, .preprocess 1 true 6, .sendRequest 1,
    .handle 0 .workflowRequest, .handle 0 .workflowRequest, .startRun 0, .startRun 1]

theorem doubleRunOnOneWrapper : ∃ o, run newOrchestrator overlappingCalls = some o ∧
    o.goroutines.map (fun g => (g.wrapper,g.phase)) = [(0,.running 2),(0,.running 2)] ∧ o.runs = [0,0,2] :=
  ⟨_,rfl,rfl,rfl⟩

/-! ### Leaving Stopped and Paused -/

def servingThen (type : MessageType) : List Action :=
  [.registerEngine "e1", .sendMessage 0 ⟨.workflowRequest,"r1","w",false⟩, .handle 0 .workflowRequest,
    .sendMessage 0 ⟨type,"","",false⟩, .handle 0 type]

def goroutineFinishes : List Action := [.startRun 0, .runReturns 0 true, .respondCancelled 0, .reportStatus 0, .reset 0 0]

theorem statusLeavesStoppedAndPaused :
    (∃ o₁ o₂, run newOrchestrator (servingThen .stop) = some o₁ ∧ o₁.statusOf 0 = some .stopped ∧
      run o₁ goroutineFinishes = some o₂ ∧ o₂.statusOf 0 = some .idle) ∧
    (∃ o₁ o₂, run newOrchestrator (servingThen .pause) = some o₁ ∧ o₁.statusOf 0 = some .paused ∧
      run o₁ goroutineFinishes = some o₂ ∧ o₂.statusOf 0 = some .idle) ∧
    ∃ o₁ o₂, run newOrchestrator (servingThen .stop) = some o₁ ∧ o₁.statusOf 0 = some .stopped ∧
      run o₁ [.sendMessage 0 ⟨.workflowRequest,"r2","w",false⟩, .handle 0 .workflowRequest] = some o₂ ∧
      o₂.statusOf 0 = some .running :=
  ⟨⟨_,_,rfl,rfl,rfl,rfl⟩,⟨_,_,rfl,rfl,rfl,rfl⟩,_,_,rfl,rfl,rfl,rfl⟩

/-! ### Who receives a response -/

def respondedCall : List Action :=
  [.registerEngine "e1", .registerWorkflow "w", .executeWorkflow "w", .selectEngine 0 0, .build 0 true,
    .replaceEngine 0, .preprocess 0 true 5, .sendRequest 0, .handle 0 .workflowRequest, .startRun 0,
    .runReturns 0 true, .respond 0]

theorem responseTakenByMonitor : ∃ o₁ o₂ o₃, run newOrchestrator respondedCall = some o₁ ∧
    o₁.callers.map (·.phase) = [.waiting 0 (requestIDOf 5 1)] ∧
    o₁.wrappers.map (·.outbound) = [[⟨.workflowResponse,requestIDOf 5 1,"",true⟩]] ∧
    step o₁ (.drain 0) = some o₂ ∧ o₂.wrappers.map (·.outbound) = [[]] ∧ step o₂ (.receiveResponse 0) = none ∧
    run o₂ [.waitTimeout 0] = some o₃ ∧ o₃.callers.map (·.phase) = [.returned (some "workflow execution timeout")] :=
  ⟨_,_,_,rfl,rfl,rfl,rfl,rfl,rfl,rfl,rfl⟩

end Workflows.Local
