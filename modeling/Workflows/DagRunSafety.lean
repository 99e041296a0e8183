import Workflows.DagRunInvariant
/-! What every interleaving of `Run` guarantees: at most one `Task.Execute` per node, called
only once every dependency is COMPLETED. And what it does not do: nothing stops launches
after a failure or a cancelled context, and `Run` returns nil whatever the nodes did. -/
namespace Workflows.DagRun
open DagGraph

section
variable {e : DAGEngine} {s s' : Sched}

theorem invocationsAtMostOne (inv : Inv e s) (id : String) : (s.node id).invocations ≤ 1 := by
  by_cases member : id ∈ e.ids
  · have life := inv.lifecycle id member
    unfold Lifecycle at life
    split at life
    · rcases life with ⟨-,-,calls,-⟩ | ⟨-,calls,-⟩ <;> omega
    · rename_i pc _
      obtain ⟨-,-,fits⟩ := life
      cases pc <;> simp only [PcFits] at fits <;> omega
    · exact life.elim
  · rw [inv.outside id member]; decide

theorem decrementChildKept {c : String} (h : decrementChild e s c = some s') (id : String) :
    (s'.node id).status = (s.node id).status ∧ (s'.node id).invocations = (s.node id).invocations := by
  simp only [decrementChild] at h
  by_cases hc : id = c
  · subst hc; split_ifs at h <;> cases h <;> simp
  · split_ifs at h <;> cases h <;> simp [hc]

theorem idleNodeKept {a : Action} (h : step e s a = some s') {id : String}
    (idle : (s.node id).goroutines = []) :
    (s'.node id).status = (s.node id).status ∧ (s'.node id).invocations = (s.node id).invocations := by
  have other : ∀ {x : String} {pc : Pc}, pc ∈ (s.node x).goroutines → id ≠ x := fun running same => by
    rw [← same,idle] at running; cases running
  cases a with
  | runVisit x =>
    simp only [step] at h
    split at h
    · cases h
      by_cases hx : id = x
      · subst hx; split <;> simp
      · split <;> simp [hx]
    · cases h
  | runReturn => simp only [step] at h; split at h <;> cases h; simp
  | cancel => simp only [step] at h; split at h <;> cases h; simp
  | setRunning x | execute x | lockEngine x | unlockEngine x =>
    simp only [step] at h; split at h <;> cases h
    rename_i guard
    first | simp [other guard.1] | simp [other guard]
  | finish x outcome =>
    simp only [step] at h; split at h
    · rename_i guard; cases outcome <;> cases h <;> simp [other guard.1]
    · cases h
  | visitChild x c rest =>
    simp only [step] at h; split at h
    · rename_i guard
      obtain ⟨mid,dec,rfl⟩ := Option.map_eq_some'.mp h
      simpa [other guard] using decrementChildKept dec id
    · cases h

theorem completedOfVisited (inv : Inv e s) {p : String} (member : p ∈ e.ids)
    (visited : unvisited e p (s.node p) ≠ e.children p) : (s.node p).status = .completed := by
  have life := inv.lifecycle p member
  unfold unvisited at visited
  unfold Lifecycle at life
  split at life
  · rename_i none; rw [none] at visited
    by_contra other; exact visited (if_neg other)
  · rename_i pc one; rw [one] at visited
    cases pc with
    | visit rest => exact life.2.2.1
    | _ => exact absurd rfl visited
  · exact life.elim

end

/-- Every executor is invoked at most once; and a node with dependencies is set RUNNING, or
has its executor invoked, only when its counter is zero and every dependency is COMPLETED. -/
theorem executorOnceAfterDependencies {specs : List (String × List String)} {e : DAGEngine}
    (built : (newDAGEngine.addNodes (specs.map fun pr => newNode pr.1 pr.2)).preprocessDAG = .ok e)
    {s : Sched} (reach : Reachable e s) :
    (∀ id, (s.node id).invocations ≤ 1) ∧
    ∀ a s' id, step e s a = some s' → e.deps id ≠ [] →
      ((s'.node id).status = .running ∧ (s.node id).status ≠ .running ∨
        (s.node id).invocations < (s'.node id).invocations) →
      (s.node id).readyCounter = 0 ∧ ∀ p ∈ e.deps id, (s.node p).status = .completed := by
  have fin := finalisedOfBuild built
  have inv := invReachable fin reach
  refine ⟨invocationsAtMostOne inv,fun a s' id h nonRoot change => ?_⟩
  have busy : (s.node id).goroutines ≠ [] := fun idle => by
    obtain ⟨status,calls⟩ := idleNodeKept h idle
    rcases change with ⟨now,before⟩ | more
    · exact before (status ▸ now)
    · omega
  have member : id ∈ e.ids := Classical.byContradiction fun absent => busy (by rw [inv.outside id absent]; rfl)
  have launched : (s.node id).launches ≠ 0 := fun zero => busy (idleOfUnlaunched (inv.lifecycle id member) zero).1
  have noneLeft : (pendingEdges e s).count id = 0 := by
    have := mt (inv.launched id member).mpr launched
    simp only [nonRoot,if_false,not_lt] at this
    have := inv.ready id member; omega
  refine ⟨by rw [inv.ready id member,noneLeft]; rfl,fun p dep => ?_⟩
  have parent := fin.closed id p dep
  refine completedOfVisited inv parent fun same => ?_
  have le := countUnvisitedLe parent id (s := s)
  rw [same,fin.linked p id,noneLeft] at le
  exact absurd (List.count_pos_iff.mpr dep) (by omega)

def chainSpecs : List (String × List String) := [("a",[]),("b",["a"])]

def chainEngine : DAGEngine := ⟨[⟨"a",[],["b"],[],.pending,0⟩,⟨"b",["a"],[],[],.pending,1⟩]⟩

def chainStarted : List Action :=
  [.runVisit "a", .runVisit "b", .setRunning "a", .execute "a", .finish "a" (.ok []), .lockEngine "a",
    .visitChild "a" "b" [], .unlockEngine "a"]

theorem executorOnceOnChain : ∃ s s', run chainEngine (Sched.init chainEngine) chainStarted = some s ∧
    (s.node "a").status = .completed ∧ (s.node "b").goroutines = [.start] ∧
    step chainEngine s (.setRunning "b") = some s' ∧ (s'.node "b").status = .running ∧
    ((∀ id, (s.node id).invocations ≤ 1) ∧
      ∀ a s' id, step chainEngine s a = some s' → chainEngine.deps id ≠ [] →
        ((s'.node id).status = .running ∧ (s.node id).status ≠ .running ∨
          (s.node id).invocations < (s'.node id).invocations) →
        (s.node id).readyCounter = 0 ∧ ∀ p ∈ chainEngine.deps id, (s.node p).status = .completed) :=
  ⟨_,_,rfl,rfl,rfl,rfl,rfl,@executorOnceAfterDependencies chainSpecs _ rfl _ ⟨chainStarted,rfl⟩⟩

/-! ### The ready counters -/

def Sched.triggered (s : Sched) (p : String) : Bool :=
  (s.node p).goroutines.isEmpty && (s.node p).status == .completed

section
variable {e : DAGEngine} {s : Sched}

theorem unvisitedQuiet (inv : Inv e s) (unlocked : s.engineLocked = false) (p : String) :
    unvisited e p (s.node p) = if s.triggered p then [] else e.children p := by
  have noVisit : ∀ rest, (s.node p).goroutines ≠ [.visit rest] := fun rest visiting => by
    have := inv.engine.mpr ⟨p,rest,visiting⟩; rw [unlocked] at this; cases this
  unfold unvisited Sched.triggered
  split
  · exact absurd ‹_› (noVisit _)
  · rename_i idle; simp [idle]
  · rename_i notIdle; simp only [List.isEmpty_iff,beq_iff_eq,Bool.and_eq_true,decide_eq_true_eq]
    exact (if_neg fun both => notIdle both.1).symm

theorem pendingEdgesQuiet (fin : Finalised e) (inv : Inv e s) (unlocked : s.engineLocked = false) (c : String) :
    (pendingEdges e s).count c = ((e.deps c).filter fun p => !s.triggered p).length := by
  have each : ∀ p, (unvisited e p (s.node p)).count c = ((e.deps c).filter fun p => !s.triggered p).count p := by
    intro p
    rw [unvisitedQuiet inv unlocked p]
    by_cases done : s.triggered p
    · rw [if_pos done,List.count_nil,eq_comm,List.count_eq_zero]; simp [done]
    · rw [if_neg done,List.count_filter (by simpa using done),fin.linked]
  rw [pendingEdges,List.count_flatMap]
  simp only [Function.comp_def,each]
  exact sumCounts fin.distinct fun p dep => fin.closed c p (List.mem_of_mem_filter dep)

end

theorem readyCounterTracksParents {e₀ e : DAGEngine} (distinct : e₀.ids.Nodup) (ok : e₀.preprocessDAG = .ok e) :
    (∀ p ∈ e.nodes, ∀ c ∈ e.nodes, p.children.count c.id = c.dependencies.count p.id) ∧
    ((∀ n ∈ e₀.nodes, n.status = .pending ∧ n.readyCounter = n.dependencies.length) →
      ∀ s, Reachable e s → ∀ c ∈ e.ids,
        (s.node c).readyCounter = (pendingEdges e s).count c ∧ 0 ≤ (s.node c).readyCounter ∧
        (s.engineLocked = false → (s.node c).readyCounter = ((e.deps c).filter fun p => !s.triggered p).length)) := by
  have ids : e.ids.Nodup := preprocessIds ok ▸ distinct
  refine ⟨fun p parent c child => ?_,fun fresh s reach c member => ?_⟩
  · have linked := linkedOfPreprocess distinct ok p.id c.id
    rwa [DAGEngine.childrenOfMem ids parent,DAGEngine.depsOfMem ids child] at linked
  · have fin := finalisedOfPreprocess distinct fresh ok
    have inv := invReachable fin reach
    have ready := inv.ready c member
    exact ⟨ready,by omega,fun unlocked => by rw [ready,pendingEdgesQuiet fin inv unlocked c]⟩

theorem readyCounterOnChain :
    (newDAGEngine.addNodes (chainSpecs.map fun pr => newNode pr.1 pr.2)).ids.Nodup ∧
    (newDAGEngine.addNodes (chainSpecs.map fun pr => newNode pr.1 pr.2)).preprocessDAG = .ok chainEngine ∧
    (∀ p ∈ chainEngine.nodes, ∀ c ∈ chainEngine.nodes, p.children.count c.id = c.dependencies.count p.id) ∧
    ((∀ n ∈ (newDAGEngine.addNodes (chainSpecs.map fun pr => newNode pr.1 pr.2)).nodes,
        n.status = .pending ∧ n.readyCounter = n.dependencies.length) →
      ∀ s, Reachable chainEngine s → ∀ c ∈ chainEngine.ids,
        (s.node c).readyCounter = (pendingEdges chainEngine s).count c ∧ 0 ≤ (s.node c).readyCounter ∧
        (s.engineLocked = false →
          (s.node c).readyCounter = ((chainEngine.deps c).filter fun p => !s.triggered p).length)) :=
  ⟨by decide,rfl,readyCounterTracksParents (by decide) rfl⟩

/-! ### No fail-fast -/

def failSpecs : List (String × List String) := [("a",[]),("b",[]),("c",["b"])]

def failEngine : DAGEngine :=
  ⟨[⟨"a",[],[],[],.pending,0⟩,⟨"b",[],["c"],[],.pending,0⟩,⟨"c",["b"],[],[],.pending,1⟩]⟩

def failTrace : List Action :=
  [.runVisit "a", .runVisit "b", .runVisit "c", .setRunning "a", .execute "a", .finish "a" (.error "boom"),
    .cancel, .setRunning "b", .execute "b", .finish "b" (.ok []), .lockEngine "b", .visitChild "b" "c" []]

/-- The failure branch of `executeNode` only returns, and nothing reads `ctx`: after `a` failed
and the context was cancelled, the independent branch still launches `c`. -/
theorem launchAfterFailure :
    (newDAGEngine.addNodes (failSpecs.map fun pr => newNode pr.1 pr.2)).preprocessDAG = .ok failEngine ∧
    ∃ s s', run failEngine (Sched.init failEngine) failTrace = some s ∧ (s.node "a").status = .failed ∧
      s.cancelled = true ∧ (s.node "c").status = .pending ∧
      step failEngine s (.setRunning "c") = some s' ∧ (s'.node "c").status = .running :=
  ⟨rfl,_,_,rfl,rfl,rfl,rfl,rfl,rfl⟩

/-! ### The result of `Run` -/

theorem decrementChildReturned {e : DAGEngine} {s s' : Sched} {c : String}
    (h : decrementChild e s c = some s') : s'.returned = s.returned := by
  simp only [decrementChild] at h
  split_ifs at h <;> cases h <;> rfl

theorem stepReturned {e : DAGEngine} {s s' : Sched} {a : Action} (h : step e s a = some s') :
    s'.returned = s.returned ∨ s'.returned = some (.ok ()) := by
  cases a with
  | runReturn => simp only [step] at h; split at h <;> cases h; exact .inr rfl
  | visitChild x c rest =>
    simp only [step] at h; split at h
    · obtain ⟨mid,dec,rfl⟩ := Option.map_eq_some'.mp h
      exact .inl ((updateReturned _ _ _).trans (decrementChildReturned dec))
    · cases h
  | finish x outcome =>
    simp only [step] at h; split at h
    · cases outcome <;> cases h <;> exact .inl rfl
    · cases h
  | runVisit x => simp only [step] at h; split at h <;> cases h; exact .inl (by split <;> rfl)
  | _ => simp only [step] at h; split at h <;> cases h; exact .inl rfl

theorem runReturnedOk {e : DAGEngine} {s₀ s : Sched} {trace : List Action}
    (now : s₀.returned = none ∨ s₀.returned = some (.ok ())) (h : run e s₀ trace = some s) :
    s.returned = none ∨ s.returned = some (.ok ()) := by
  induction trace generalizing s₀ with
  | nil => cases h; exact now
  | cons a trace ih =>
    simp only [run,Option.bind_eq_some] at h
    obtain ⟨mid,first,rest⟩ := h
    refine ih ?_ rest
    rcases stepReturned first with same | ok
    · exact same ▸ now
    · exact .inr ok

theorem runNeverReturnsError {e : DAGEngine} {s : Sched} (reach : Reachable e s) :
    s.returned = none ∨ s.returned = some (.ok ()) :=
  let ⟨_,h⟩ := reach; runReturnedOk (.inl rfl) h

def soloEngine : DAGEngine := ⟨[⟨"a",[],[],[],.pending,0⟩]⟩

theorem runNilAfterFailure :
    (newDAGEngine.addNodes ([("a",[])].map fun pr => newNode pr.1 pr.2)).preprocessDAG = .ok soloEngine ∧
    ∃ s, run soloEngine (Sched.init soloEngine)
      [.runVisit "a", .setRunning "a", .execute "a", .finish "a" (.error "boom"), .runReturn] = some s ∧
      (s.node "a").status = .failed ∧ s.returned = some (.ok ()) :=
  ⟨rfl,_,rfl,rfl,rfl⟩

end Workflows.DagRun
