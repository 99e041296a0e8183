import Workflows.LoadBalancer
/-! `OrchestratorV2.ExecuteWorkflow` calls running concurrently with the discovery callback
`onChange`. A call selects an engine, may fail before its increment (engine lookup, build,
connect), and after `IncrementActiveWorkflows` always reaches its deferred decrement. Each
balancer method is atomic; an `onChange` is one step, which for the count of one engine is
the same as interleaving its balancer calls with those of the calls. -/
namespace Workflows.Dispatch
open Balancer

structure EngineInfo where
  id : String
  capacity : Int

inductive LoadBalancer where
  | consistentHash (lb : ConsistentHashLoadBalancer)
  | roundRobin (lb : RoundRobinLoadBalancer)

def orKeep {α : Type} (result : Except String α) (unchanged : α) : α :=
  match result with
  | .ok a => a
  | .error _ => unchanged

def LoadBalancer.addEngine : LoadBalancer → String → Int → LoadBalancer
  | .consistentHash lb, engineID, capacity => .consistentHash (lb.addEngine engineID capacity)
  | .roundRobin lb, engineID, capacity => .roundRobin (orKeep (lb.addEngine engineID capacity) lb)

def LoadBalancer.removeEngine : LoadBalancer → String → LoadBalancer
  | .consistentHash lb, engineID => .consistentHash (lb.removeEngine engineID)
  | .roundRobin lb, engineID => .roundRobin (orKeep (lb.removeEngine engineID) lb)

def LoadBalancer.updateEngineCapacity : LoadBalancer → String → Int → LoadBalancer
  | .consistentHash lb, engineID, capacity => .consistentHash (orKeep (lb.updateEngineCapacity engineID capacity) lb)
  | .roundRobin lb, engineID, capacity => .roundRobin (orKeep (lb.updateEngineCapacity engineID capacity) lb)

inductive CallPhase where
  | selected (engineID : String)
  | inFlight (engineID : String)
  | returned
  deriving DecidableEq, Repr

/-- `engines` is `o.engines` with each engine's capacity; `panicked` once a call has failed the
type assertion `o.loadBalancer.(*ConsistentHashLoadBalancer)`, which stops the process. -/
structure Orchestrator where
  loadBalancer : LoadBalancer
  engines : List (String × Int)
  calls : List CallPhase
  panicked : Bool

def newOrchestrator (lb : LoadBalancer) : Orchestrator := ⟨lb,[],[],false⟩

def Orchestrator.discover (o : Orchestrator) (info : EngineInfo) : Orchestrator :=
  if o.engines.any (·.1 == info.id) then
    { o with
      engines := o.engines.map fun e => if e.1 = info.id then (e.1,info.capacity) else e
      loadBalancer := o.loadBalancer.updateEngineCapacity info.id info.capacity }
  else
    { o with
      engines := o.engines ++ [(info.id,info.capacity)]
      loadBalancer := o.loadBalancer.addEngine info.id info.capacity }

def Orchestrator.forget (o : Orchestrator) (engineID : String) : Orchestrator :=
  { o with engines := o.engines.filter (·.1 != engineID), loadBalancer := o.loadBalancer.removeEngine engineID }

def Orchestrator.onChange (o : Orchestrator) (found : List EngineInfo) : Orchestrator :=
  let o := found.foldl Orchestrator.discover o
  ((o.engines.filter fun e => !found.any (·.id == e.1)).map (·.1)).foldl Orchestrator.forget o

inductive Action where
  | executeWorkflow (key engineID : String)
  | abandon (call : Nat)
  | increment (call : Nat)
  | finish (call : Nat)
  | onChange (found : List EngineInfo)

def Orchestrator.setCall (o : Orchestrator) (call : Nat) (phase : CallPhase) : Orchestrator :=
  { o with calls := o.calls.set call phase }

/-- `executeWorkflow key engineID` starts a call with `SelectEngine(key)`; for consistent
hashing `engineID` is the ring's answer, any host of the ring. `abandon` is a return before
the increment. `none` when the step cannot be taken. -/
def step (o : Orchestrator) (a : Action) : Option Orchestrator :=
  if o.panicked then none else
  match a with
  | .executeWorkflow key engineID =>
    match o.loadBalancer with
    | .consistentHash lb =>
      if lb.ring = [] then some { o with calls := o.calls ++ [.returned] }
      else if engineID ∈ lb.ring then some { o with calls := o.calls ++ [.selected engineID] }
      else none
    | .roundRobin lb =>
      match lb.selectEngine key with
      | none => some { o with panicked := true }
      | some (.error _, _) => some { o with calls := o.calls ++ [.returned] }
      | some (.ok engineID, lb') => some { o with loadBalancer := .roundRobin lb', calls := o.calls ++ [.selected engineID] }
  | .abandon call =>
    match o.calls[call]? with
    | some (.selected _) => some (o.setCall call .returned)
    | _ => none
  | .increment call =>
    match o.calls[call]? with
    | some (.selected engineID) =>
      match o.loadBalancer with
      | .consistentHash lb =>
        some { o.setCall call (.inFlight engineID) with loadBalancer := .consistentHash (lb.incrementActiveWorkflows engineID) }
      | .roundRobin _ => some { o with panicked := true }
    | _ => none
  | .finish call =>
    match o.calls[call]?, o.loadBalancer with
    | some (.inFlight engineID), .consistentHash lb =>
      some { o.setCall call .returned with loadBalancer := .consistentHash (lb.decrementActiveWorkflows engineID) }
    | _, _ => none
  | .onChange found => some (o.onChange found)

def run (o : Orchestrator) : List Action → Option Orchestrator
  | [] => some o
  | a :: trace => (step o a).bind fun o => run o trace

def Orchestrator.inFlight (o : Orchestrator) (engineID : String) : Nat := o.calls.count (.inFlight engineID)

end Workflows.Dispatch
