import Workflows.DagRunProgress
/-! What `Run` leaves behind. When it returns no goroutine is left, so each node either ran
once and ended COMPLETED with its mutex free, or FAILED with its mutex still held (the failure
branch of `executeNode` returns without `n.mu.Unlock()`), or never ran and is PENDING. A node
below a failure is never launched, and nothing in the engine writes CANCELLED. -/
namespace Workflows.DagRun
open DagGraph

section
variable {e : DAGEngine} {s : Sched}

theorem idleNodeState (inv : Inv e s) {id : String} (member : id ∈ e.ids) (idle : (s.node id).goroutines = []) :
    (s.node id).invocations = 0 ∧ (s.node id).status = .pending ∧ (s.node id).locked = false ∨
      (s.node id).invocations = 1 ∧ ((s.node id).status = .completed ∧ (s.node id).locked = false ∨
        (s.node id).status = .failed ∧ (s.node id).locked = true) := by
  have life := inv.lifecycle id member
  simp only [Lifecycle,idle] at life
  rcases life with ⟨-,pending,calls,unlocked⟩ | ⟨-,calls,ended⟩
  · exact .inl ⟨calls,pending,unlocked⟩
  · exact .inr ⟨calls,ended⟩

/-- A parent that is not COMPLETED has not reached its children, so a child of it is not launched. -/
theorem unlaunchedOfIncompleteDependency (fin : Finalised e) (inv : Inv e s) {p c : String} (dep : e.DependsOn p c)
    (incomplete : (s.node p).status ≠ .completed) : (s.node c).launches = 0 := by
  have parent := fin.closed c p dep
  have member := DAGEngine.memOfDeps dep
  have untouched : unvisited e p (s.node p) = e.children p :=
    Classical.byContradiction fun visited => incomplete (completedOfVisited inv parent visited)
  have child : 0 < (e.children p).count c := fin.linked p c ▸ List.count_pos_iff.mpr dep
  have pending := countUnvisitedLe parent c (s := s)
  rw [untouched] at pending
  have counter := inv.ready c member
  have := (inv.launched c member).mpr
  simp only [List.ne_nil_of_mem dep,if_false] at this
  exact this (by omega)

end

section
variable {specs : List (String × List String)} {e : DAGEngine}
  (built : (newDAGEngine.addNodes (specs.map fun pr => newNode pr.1 pr.2)).preprocessDAG = .ok e)
include built

theorem nodesWhenRunReturns {s s' : Sched} (reach : Reachable e s) (returned : step e s .runReturn = some s') :
    ∀ id ∈ e.ids, (s'.node id).invocations = 0 ∧ (s'.node id).status = .pending ∧ (s'.node id).locked = false ∨
      (s'.node id).invocations = 1 ∧ ((s'.node id).status = .completed ∧ (s'.node id).locked = false ∨
        (s'.node id).status = .failed ∧ (s'.node id).locked = true) := by
  have inv := invReachable (finalisedOfBuild built) reach
  intro id member
  simp only [step] at returned
  split at returned
  · rename_i guard; cases returned
    exact idleNodeState inv member (idleOfWaitGroupZero inv guard.2.1 id)
  · cases returned

theorem unlaunchedBelowFailure {s : Sched} (reach : Reachable e s) {p c : String}
    (path : Relation.TransGen e.DependsOn p c) (failed : (s.node p).status = .failed) :
    (s.node c).launches = 0 ∧ (s.node c).status = .pending ∧ (s.node c).invocations = 0 := by
  have fin := finalisedOfBuild built
  have inv := invReachable fin reach
  have unlaunched : (s.node c).launches = 0 := by
    induction path with
    | single dep => exact unlaunchedOfIncompleteDependency fin inv dep (by rw [failed]; nofun)
    | tail _ dep ih =>
      have pending := (idleOfUnlaunched (inv.lifecycle _ (fin.closed _ _ dep)) ih).2.1
      exact unlaunchedOfIncompleteDependency fin inv dep (by rw [pending]; nofun)
  obtain ⟨b,-,last⟩ := Relation.TransGen.tail'_iff.mp path
  have idle := idleOfUnlaunched (inv.lifecycle c (DAGEngine.memOfDeps last)) unlaunched
  exact ⟨unlaunched,idle.2.1,idle.2.2.1⟩

end

def chainInputsTrace : List Action :=
  [.runVisit "a", .runVisit "b", .setRunning "a", .execute "a", .finish "a" (.ok [("out","1")]), .lockEngine "a",
    .visitChild "a" "b" [], .unlockEngine "a", .setRunning "b", .execute "b"]

/-- The executor of `b` is passed a nil map, although `b` depends on `a` and `a` has stored its
`Result`. -/
theorem inputsNotGathered :
    (newDAGEngine.addNodes (chainSpecs.map fun pr => newNode pr.1 pr.2)).preprocessDAG = .ok chainEngine ∧
    ∃ s, run chainEngine (Sched.init chainEngine) chainInputsTrace = some s ∧ chainEngine.deps "b" = ["a"] ∧
      (s.node "a").status = .completed ∧ (s.node "a").result = [("out","1")] ∧ s.executed = [("a",[]),("b",[])] :=
  ⟨rfl,_,rfl,rfl,rfl,rfl,rfl⟩

def failChainTrace : List Action :=
  [.runVisit "a", .runVisit "b", .setRunning "a", .execute "a", .finish "a" (.error "boom"), .runReturn]

theorem dependentLeftPending :
    (newDAGEngine.addNodes (chainSpecs.map fun pr => newNode pr.1 pr.2)).preprocessDAG = .ok chainEngine ∧
    ∃ s, run chainEngine (Sched.init chainEngine) failChainTrace = some s ∧ s.returned = some (.ok ()) ∧
      (s.node "a").status = .failed ∧ (s.node "b").status = .pending ∧ (s.node "b").invocations = 0 :=
  ⟨rfl,_,rfl,rfl,rfl,rfl,rfl⟩

theorem failedChainReturns : ∃ s s', run chainEngine (Sched.init chainEngine) failChainTrace.dropLast = some s ∧
    step chainEngine s .runReturn = some s' ∧
    ∀ id ∈ chainEngine.ids, (s'.node id).invocations = 0 ∧ (s'.node id).status = .pending ∧ (s'.node id).locked = false ∨
      (s'.node id).invocations = 1 ∧ ((s'.node id).status = .completed ∧ (s'.node id).locked = false ∨
        (s'.node id).status = .failed ∧ (s'.node id).locked = true) :=
  ⟨_,_,rfl,rfl,@nodesWhenRunReturns chainSpecs _ rfl _ _ ⟨failChainTrace.dropLast,rfl⟩ rfl⟩

theorem failedChainBlocksDependent : ∃ s, run chainEngine (Sched.init chainEngine) failChainTrace = some s ∧
    chainEngine.DependsOn "a" "b" ∧ (s.node "a").status = .failed ∧
    ((s.node "b").launches = 0 ∧ (s.node "b").status = .pending ∧ (s.node "b").invocations = 0) :=
  ⟨_,rfl,List.mem_singleton_self _,rfl,
    @unlaunchedBelowFailure chainSpecs _ rfl _ ⟨failChainTrace,rfl⟩ "a" "b" (.single (List.mem_singleton_self _)) rfl⟩

theorem lockHeldAfterReturn :
    (newDAGEngine.addNodes ([("a",[])].map fun pr => newNode pr.1 pr.2)).preprocessDAG = .ok soloEngine ∧
    ∃ s, run soloEngine (Sched.init soloEngine)
      [.runVisit "a", .setRunning "a", .execute "a", .finish "a" (.error "boom"), .runReturn] = some s ∧
      s.returned = some (.ok ()) ∧ (s.node "a").status = .failed ∧ (s.node "a").locked = true :=
  ⟨rfl,_,rfl,rfl,rfl,rfl⟩

end Workflows.DagRun
