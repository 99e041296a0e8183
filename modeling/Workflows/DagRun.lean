import Workflows.DagGraph
/-! `DAGEngine.Run`, `executeNode` and `triggerChildren` as a system of goroutines. Each step
is one critical section of the Go code or one local action of a goroutine; any goroutine with
an enabled step may take it, so a run of the model is an interleaving of the Go program.
A goroutine at `visit rest` holds `e.mu` inside `triggerChildren`, with `rest` left of its
range over `Children`; a step is `none` where no goroutine is at that point or it waits on a mutex. -/
namespace Workflows.DagRun
open DagGraph

inductive Pc where
  | start | invoke | execute | trigger
  | visit (rest : List String)
  deriving DecidableEq, Repr

/-- The scheduler fields of one `Node`, its mutex, and the goroutines running `executeNode`
on it. `launches` counts `go e.executeNode` statements and `invocations` counts calls of
`Task.Execute`: both are ghost counters the Go code does not keep. -/
structure NodeState where
  status : Status
  readyCounter : Int
  result : List (String × String)
  locked : Bool
  goroutines : List Pc
  launches : Nat
  invocations : Nat
  deriving DecidableEq, Repr

/-- `executed` records each call of `Task.Execute`, oldest first: the node and the inputs map it
was passed, keyed by dependency id with that dependency's `Result`; a ghost record. -/
structure Sched where
  node : String → NodeState
  engineLocked : Bool
  waitGroup : Nat
  scan : List String
  returned : Option (Except String Unit)
  cancelled : Bool
  executed : List (String × List (String × List (String × String)))

inductive Action where
  | runVisit (id : String)
  | runReturn
  | cancel
  | setRunning (id : String)
  | execute (id : String)
  | finish (id : String) (outcome : Except String (List (String × String)))
  | lockEngine (id : String)
  | visitChild (id childID : String) (rest : List String)
  | unlockEngine (id : String)

def NodeState.ofNode (n : Node) : NodeState := ⟨n.status,n.readyCounter,n.result,false,[],0,0⟩

def NodeState.absent : NodeState := ⟨.pending,0,[],false,[],0,0⟩

def Sched.init (e : DAGEngine) : Sched :=
  ⟨fun id => ((e.find? id).map NodeState.ofNode).getD NodeState.absent,false,0,e.ids,none,false,[]⟩

def NodeState.move (pc pc' : Pc) (n : NodeState) : NodeState :=
  { n with goroutines := pc' :: n.goroutines.erase pc }

def NodeState.exit (pc : Pc) (n : NodeState) : NodeState := { n with goroutines := n.goroutines.erase pc }

def Sched.update (s : Sched) (id : String) (f : NodeState → NodeState) : Sched :=
  { s with node := Function.update s.node id (f (s.node id)) }

def Sched.spawn (s : Sched) (id : String) : Sched :=
  { s.update id (fun n => { n with goroutines := .start :: n.goroutines, launches := n.launches + 1 }) with
    waitGroup := s.waitGroup + 1 }

def decrementChild (e : DAGEngine) (s : Sched) (childID : String) : Option Sched :=
  if childID ∈ e.ids then
    if (s.node childID).locked then none
    else
      let s := s.update childID fun n => { n with readyCounter := n.readyCounter - 1 }
      if (s.node childID).readyCounter = 0 ∧ (s.node childID).status = .pending then some (s.spawn childID)
      else some s
  else some s

def step (e : DAGEngine) (s : Sched) : Action → Option Sched
  | .runVisit id =>
      if id ∈ s.scan then
        let s := { s with scan := s.scan.erase id }
        some (if e.deps id = [] then s.spawn id else s)
      else none
  | .runReturn =>
      if s.scan = [] ∧ s.waitGroup = 0 ∧ s.returned.isNone then some { s with returned := some (.ok ()) }
      else none
  | .cancel => if s.cancelled then none else some { s with cancelled := true }
  | .setRunning id =>
      if Pc.start ∈ (s.node id).goroutines ∧ (s.node id).locked = false then
        some (s.update id fun n => { n.move .start .invoke with status := .running })
      else none
  | .execute id =>
      if Pc.invoke ∈ (s.node id).goroutines then
        some { s.update id (fun n => { n.move .invoke .execute with invocations := n.invocations + 1 }) with
          executed := s.executed ++ [(id,[])] }
      else none
  | .finish id outcome =>
      if Pc.execute ∈ (s.node id).goroutines ∧ (s.node id).locked = false then
        match outcome with
        | .error _ => some { s.update id (fun n => { n.exit .execute with status := .failed, locked := true }) with
            waitGroup := s.waitGroup - 1 }
        | .ok r => some (s.update id fun n => { n.move .execute .trigger with status := .completed, result := r })
      else none
  | .lockEngine id =>
      if Pc.trigger ∈ (s.node id).goroutines ∧ s.engineLocked = false then
        some { s.update id (NodeState.move .trigger (.visit (e.children id))) with engineLocked := true }
      else none
  | .visitChild id childID rest =>
      if Pc.visit (childID :: rest) ∈ (s.node id).goroutines then
        (decrementChild e s childID).map fun s => s.update id (NodeState.move (.visit (childID :: rest)) (.visit rest))
      else none
  | .unlockEngine id =>
      if Pc.visit [] ∈ (s.node id).goroutines then
        some { s.update id (NodeState.exit (.visit [])) with engineLocked := false, waitGroup := s.waitGroup - 1 }
      else none

def run (e : DAGEngine) : Sched → List Action → Option Sched
  | s, [] => some s
  | s, a :: trace => (step e s a).bind fun s => run e s trace

def Reachable (e : DAGEngine) (s : Sched) : Prop := ∃ trace, run e (Sched.init e) trace = some s

def Action.fails : Action → Bool
  | .finish _ (.error _) => true
  | _ => false

@[simp] theorem updateSelf (s : Sched) (id : String) (f : NodeState → NodeState) :
    (s.update id f).node id = f (s.node id) := by simp [Sched.update]

@[simp] theorem updateOther (s : Sched) {id q : String} (f : NodeState → NodeState) (h : q ≠ id) :
    (s.update id f).node q = s.node q := by simp [Sched.update,h]

@[simp] theorem updateEngineLocked (s : Sched) (id : String) (f : NodeState → NodeState) :
    (s.update id f).engineLocked = s.engineLocked := rfl
@[simp] theorem updateWaitGroup (s : Sched) (id : String) (f : NodeState → NodeState) :
    (s.update id f).waitGroup = s.waitGroup := rfl
@[simp] theorem updateScan (s : Sched) (id : String) (f : NodeState → NodeState) :
    (s.update id f).scan = s.scan := rfl
@[simp] theorem updateReturned (s : Sched) (id : String) (f : NodeState → NodeState) :
    (s.update id f).returned = s.returned := rfl
@[simp] theorem updateCancelled (s : Sched) (id : String) (f : NodeState → NodeState) :
    (s.update id f).cancelled = s.cancelled := rfl
@[simp] theorem updateExecuted (s : Sched) (id : String) (f : NodeState → NodeState) :
    (s.update id f).executed = s.executed := rfl

@[simp] theorem spawnSelf (s : Sched) (id : String) :
    (s.spawn id).node id =
      { s.node id with goroutines := .start :: (s.node id).goroutines, launches := (s.node id).launches + 1 } := by
  simp [Sched.spawn]

@[simp] theorem spawnOther (s : Sched) {id q : String} (h : q ≠ id) : (s.spawn id).node q = s.node q := by
  simp [Sched.spawn,h]

@[simp] theorem spawnEngineLocked (s : Sched) (id : String) : (s.spawn id).engineLocked = s.engineLocked := rfl
@[simp] theorem spawnWaitGroup (s : Sched) (id : String) : (s.spawn id).waitGroup = s.waitGroup + 1 := rfl
@[simp] theorem spawnScan (s : Sched) (id : String) : (s.spawn id).scan = s.scan := rfl
@[simp] theorem spawnReturned (s : Sched) (id : String) : (s.spawn id).returned = s.returned := rfl
@[simp] theorem spawnCancelled (s : Sched) (id : String) : (s.spawn id).cancelled = s.cancelled := rfl
@[simp] theorem spawnExecuted (s : Sched) (id : String) : (s.spawn id).executed = s.executed := rfl

@[simp] theorem initEngineLocked (e : DAGEngine) : (Sched.init e).engineLocked = false := rfl
@[simp] theorem initWaitGroup (e : DAGEngine) : (Sched.init e).waitGroup = 0 := rfl
@[simp] theorem initScan (e : DAGEngine) : (Sched.init e).scan = e.ids := rfl
@[simp] theorem initReturned (e : DAGEngine) : (Sched.init e).returned = none := rfl
@[simp] theorem initCancelled (e : DAGEngine) : (Sched.init e).cancelled = false := rfl
@[simp] theorem initExecuted (e : DAGEngine) : (Sched.init e).executed = [] := rfl

end Workflows.DagRun
