import Workflows.DagRunSafety
/-! Termination of `Run`. A measure counts the steps every goroutine still has to take and
the launches still possible; each step lowers it. A state with no enabled step has no
goroutine left and `Run` has returned; on an acyclic graph where every executor succeeds,
every node has then run once and is COMPLETED. -/
namespace Workflows.DagRun
open DagGraph

/-- The steps left to a goroutine of `id` at `pc` on its longest path (the success path). -/
def pcCost (e : DAGEngine) (id : String) : Pc → Nat
  | .start => 5 + (e.children id).length
  | .invoke => 4 + (e.children id).length
  | .execute => 3 + (e.children id).length
  | .trigger => 2 + (e.children id).length
  | .visit rest => 1 + rest.length

def nodeCost (e : DAGEngine) (id : String) (n : NodeState) : Nat :=
  (if n.launches = 0 then 5 + (e.children id).length else 0) + (n.goroutines.map (pcCost e id)).sum

def costSum (e : DAGEngine) (node : String → NodeState) : Nat := (e.ids.map fun id => nodeCost e id (node id)).sum

def measure (e : DAGEngine) (s : Sched) : Nat :=
  costSum e s.node + s.scan.length + (if s.returned.isNone then 1 else 0) + (if s.cancelled then 0 else 1)

section
variable {e : DAGEngine} {s s' : Sched}

theorem costSumUpdate (fin : Finalised e) {id : String} (member : id ∈ e.ids) (s s' : Sched)
    (others : ∀ q ≠ id, nodeCost e q (s'.node q) = nodeCost e q (s.node q)) :
    costSum e s'.node + nodeCost e id (s.node id) = costSum e s.node + nodeCost e id (s'.node id) := by
  have shape : (fun q => nodeCost e q (s'.node q)) =
      Function.update (fun q => nodeCost e q (s.node q)) id (nodeCost e id (s'.node id)) := by
    funext q; by_cases h : q = id
    · subst h; simp
    · simp [h,others q h]
  simp only [costSum]; rw [shape]
  exact sumMapUpdate fin.distinct member _ _

theorem measureThreadStep (fin : Finalised e) {id : String} (member : id ∈ e.ids)
    (others : ∀ q ≠ id, nodeCost e q (s'.node q) = nodeCost e q (s.node q)) (scan : s'.scan = s.scan) (returned : s'.returned = s.returned)
    (cancelled : s'.cancelled = s.cancelled) (cheaper : nodeCost e id (s'.node id) < nodeCost e id (s.node id)) :
    measure e s' < measure e s := by
  have := costSumUpdate fin member s s' others
  simp only [measure,scan,returned,cancelled]; omega

theorem measureStep (fin : Finalised e) (inv : Inv e s) {a : Action} (h : step e s a = some s') :
    measure e s' < measure e s := by
  cases a with
  | runVisit id =>
    simp only [step] at h
    split at h
    · rename_i scanned
      cases h
      have member := inv.scanIds id scanned
      have shorter := List.length_erase_of_mem scanned
      have positive := List.length_pos_of_mem scanned
      split
      · rename_i root
        have unlaunched := (inv.launched id member).mpr (by simp [root,scanned])
        have pool := (idleOfUnlaunched (inv.lifecycle id member) unlaunched).1
        have same := costSumUpdate fin member s ({ s with scan := s.scan.erase id }.spawn id)
          fun q h => by rw [spawnOther _ h]
        simp [nodeCost,pool,unlaunched,pcCost] at same
        simp [measure,same]; omega
      · simp [measure]; omega
    · cases h
  | runReturn =>
    simp only [step] at h; split at h <;> cases h
    rename_i guard; simp [measure,guard.2.2]
  | cancel =>
    simp only [step] at h; split at h <;> cases h
    rename_i fresh; simp [measure,fresh]
  | setRunning id | execute id | lockEngine id | unlockEngine id =>
    simp only [step] at h
    split at h <;> cases h
    rename_i guard
    first | have inPool := guard.1 | have inPool := guard
    have member := memberOfPool inv inPool
    obtain ⟨pool,launch,-⟩ := poolSingleton (inv.lifecycle id member) inPool
    exact measureThreadStep fin member (fun q h => by simp [h]) rfl rfl rfl
      (by simp [nodeCost,NodeState.move,NodeState.exit,pool,launch,pcCost])
  | finish id outcome =>
    simp only [step] at h
    split at h
    · rename_i guard
      have member := memberOfPool inv guard.1
      obtain ⟨pool,launch,-⟩ := poolSingleton (inv.lifecycle id member) guard.1
      cases outcome <;> cases h <;>
        exact measureThreadStep fin member (fun q h => by simp [h]) rfl rfl rfl
          (by simp [nodeCost,NodeState.move,NodeState.exit,pool,launch,pcCost])
    · cases h
  | visitChild id c rest =>
    simp only [step] at h
    split at h
    · rename_i guard
      have member := memberOfPool inv guard
      obtain ⟨pool,launch,-⟩ := poolSingleton (inv.lifecycle id member) guard
      obtain ⟨childMember,different,-,-,childPool,childStatus,-,childUnlocked,unlaunched⟩ :=
        visitedChildIdle fin inv pool
      simp only [decrementChild,if_pos childMember,childUnlocked,Bool.false_eq_true,if_false,updateSelf,
        childStatus,and_true] at h
      split at h <;> simp only [Option.map_some',Option.some.injEq] at h <;> subst h <;>
        refine measureThreadStep fin member (fun q h => ?_) rfl rfl rfl
          (by simp [nodeCost,NodeState.move,pool,launch,pcCost,Ne.symm different])
      all_goals
        by_cases hc : q = c
        · subst hc; simp [h,nodeCost,unlaunched,childPool,pcCost]
        · simp [h,hc]
    · cases h

theorem runLengthBound (fin : Finalised e) {trace : List Action} (inv : Inv e s) (h : run e s trace = some s') :
    trace.length + measure e s' ≤ measure e s := by
  induction trace generalizing s with
  | nil => cases h; simp
  | cons a trace ih =>
    simp only [run,Option.bind_eq_some] at h
    obtain ⟨mid,first,rest⟩ := h
    have := ih (invStep fin inv first) rest
    have := measureStep fin inv first
    simp only [List.length_cons]; omega

/-! ### A state with no enabled step -/

theorem scanEmptyOfStuck (stuck : ∀ a, step e s a = none) : s.scan = [] := by
  cases hs : s.scan with
  | nil => rfl
  | cons id _ => have := stuck (.runVisit id); simp [step,hs] at this

theorem visitorEnabled (fin : Finalised e) (inv : Inv e s) {id : String} {rest : List String}
    (pool : (s.node id).goroutines = [.visit rest]) : ∃ a, step e s a ≠ none := by
  cases rest with
  | nil => exact ⟨.unlockEngine id,by simp [step,pool]⟩
  | cons c rest =>
    obtain ⟨childMember,-,-,-,-,-,-,childUnlocked,-⟩ := visitedChildIdle fin inv pool
    refine ⟨.visitChild id c rest,?_⟩
    simp only [step,pool,List.mem_singleton,if_true,decrementChild,if_pos childMember,childUnlocked,
      Bool.false_eq_true,if_false]
    split <;> simp

theorem idleOfWaitGroupZero (inv : Inv e s) (zero : s.waitGroup = 0) (id : String) :
    (s.node id).goroutines = [] := by
  by_cases member : id ∈ e.ids
  · exact List.length_eq_zero.mp (by have := poolLeWaitGroup inv member; omega)
  · rw [inv.outside id member]; rfl

theorem idleOfStuck (fin : Finalised e) (inv : Inv e s) (stuck : ∀ a, step e s a = none) (id : String) :
    (s.node id).goroutines = [] := by
  by_cases member : id ∈ e.ids
  · cases hp : (s.node id).goroutines with
    | nil => rfl
    | cons pc more =>
      obtain ⟨pool,-,unlocked,-⟩ := poolSingleton (inv.lifecycle id member) (hp ▸ List.mem_cons_self pc more)
      have visitorStuck : ∀ {v rest}, (s.node v).goroutines = [.visit rest] → False := fun vpool =>
        let ⟨a,enabled⟩ := visitorEnabled fin inv vpool; enabled (stuck a)
      exfalso
      cases pc with
      | start => have := stuck (.setRunning id); simp [step,pool,unlocked] at this
      | invoke => have := stuck (.execute id); simp [step,pool] at this
      | execute => have := stuck (.finish id (.ok [])); simp [step,pool,unlocked] at this
      | trigger =>
        cases engine : s.engineLocked
        · have := stuck (.lockEngine id); simp [step,pool,engine] at this
        · obtain ⟨v,rest,vpool⟩ := inv.engine.mp engine; exact visitorStuck vpool
      | visit rest => exact visitorStuck pool
  · rw [inv.outside id member]; rfl

/-! ### Runs where every executor succeeds -/

theorem notFailedStep {a : Action} (h : step e s a = some s') (succeeds : a.fails = false) (id : String)
    (before : (s.node id).status ≠ .failed) : (s'.node id).status ≠ .failed := by
  cases a with
  | runVisit x =>
    simp only [step] at h; split at h <;> cases h
    by_cases hx : id = x
    · subst hx; split <;> simpa using before
    · split <;> simpa [hx] using before
  | runReturn => simp only [step] at h; split at h <;> cases h; exact before
  | cancel => simp only [step] at h; split at h <;> cases h; exact before
  | setRunning x | execute x | lockEngine x | unlockEngine x =>
    simp only [step] at h; split at h <;> cases h
    by_cases hx : id = x
    · subst hx; simp [NodeState.move,NodeState.exit,before]
    · simpa [hx] using before
  | finish x outcome =>
    simp only [step] at h; split at h
    · cases outcome
      · cases succeeds
      · cases h; by_cases hx : id = x
        · subst hx; simp
        · simpa [hx] using before
    · cases h
  | visitChild x c rest =>
    simp only [step] at h; split at h
    · obtain ⟨mid,dec,rfl⟩ := Option.map_eq_some'.mp h
      have kept := (decrementChildKept dec id).1
      by_cases hx : id = x
      · subst hx; simpa [NodeState.move,kept] using before
      · simpa [hx,kept] using before
    · cases h

theorem notFailedRun {trace : List Action} (h : run e s trace = some s') (succeeds : ∀ a ∈ trace, a.fails = false)
    (before : ∀ id, (s.node id).status ≠ .failed) (id : String) : (s'.node id).status ≠ .failed := by
  induction trace generalizing s with
  | nil => cases h; exact before id
  | cons a trace ih =>
    simp only [run,Option.bind_eq_some] at h
    obtain ⟨mid,first,rest⟩ := h
    exact ih rest (fun b mem => succeeds b (List.mem_cons_of_mem a mem))
      (fun q => notFailedStep first (succeeds a (List.mem_cons_self a trace)) q (before q))

theorem initNotFailed (fin : Finalised e) (id : String) : ((Sched.init e).node id).status ≠ .failed := by
  by_cases member : id ∈ e.ids
  · have unlaunched : ((Sched.init e).node id).launches = 0 := by simp only [Sched.init]; cases e.find? id <;> rfl
    rw [(idleOfUnlaunched ((invInit fin).lifecycle id member) unlaunched).2.1]; decide
  · rw [initNodeAbsent member]; decide

theorem launchedOfQuiet (fin : Finalised e) (acyclic : e.Acyclic) (inv : Inv e s) (scan : s.scan = [])
    (idle : ∀ id, (s.node id).goroutines = []) (noFailure : ∀ id, (s.node id).status ≠ .failed) :
    ∀ id ∈ e.ids, (s.node id).launches ≠ 0 := by
  intro id
  refine (acyclicWellFounded acyclic).induction id (C := fun id => id ∈ e.ids → (s.node id).launches ≠ 0)
    fun id ih member unlaunched => ?_
  have waiting := (inv.launched id member).mp unlaunched
  split at waiting
  · rw [scan] at waiting; cases waiting
  · rw [inv.ready id member] at waiting
    obtain ⟨p,parent,edge⟩ : ∃ p ∈ e.ids, id ∈ unvisited e p (s.node p) := by
      have := List.count_pos_iff.mp (by omega : 0 < (pendingEdges e s).count id)
      simpa [pendingEdges] using this
    have life := inv.lifecycle p parent
    simp only [unvisited,Lifecycle,idle p] at edge life
    split at edge
    · cases edge
    · rename_i notCompleted
      refine ih p (dependsOfChild fin edge) parent ?_
      rcases life with ⟨zero,-⟩ | ⟨-,-,⟨done,-⟩ | ⟨failed,-⟩⟩
      · exact zero
      · exact absurd done notCompleted
      · exact absurd failed (noFailure p)

end

/-- On a graph `PreprocessDAG` accepted, every interleaving of `Run` stops within
`measure e (Sched.init e)` steps, and where no step is enabled the wait group is zero and
`Run` has returned. If no dependency chain is a cycle and no executor fails, once the range
loop is over and `e.wg.Wait()` returns, every executor has run once and every node is
COMPLETED. -/
theorem runTerminates {specs : List (String × List String)} {e : DAGEngine}
    (built : (newDAGEngine.addNodes (specs.map fun pr => newNode pr.1 pr.2)).preprocessDAG = .ok e) :
    (∀ trace s, run e (Sched.init e) trace = some s → trace.length ≤ measure e (Sched.init e)) ∧
    (∀ s, Reachable e s → (∀ a, step e s a = none) → s.waitGroup = 0 ∧ s.returned = some (.ok ())) ∧
    (e.Acyclic → ∀ trace s, run e (Sched.init e) trace = some s → (∀ a ∈ trace, a.fails = false) →
      s.scan = [] → s.waitGroup = 0 →
      ∀ id ∈ e.ids, (s.node id).invocations = 1 ∧ (s.node id).status = .completed) := by
  have fin := finalisedOfBuild built
  refine ⟨fun trace s h => ?_,fun s reach stuck => ?_,fun acyclic trace s h succeeds scan zero id member => ?_⟩
  · have := runLengthBound fin (invInit fin) h; omega
  · have inv := invReachable fin reach
    have zero : s.waitGroup = 0 := by simp [inv.waitGroup,idleOfStuck fin inv stuck]
    rcases runNeverReturnsError reach with none | ok
    · have := stuck .runReturn; simp [step,scanEmptyOfStuck stuck,zero,none] at this
    · exact ⟨zero,ok⟩
  · have inv := invRun fin (invInit fin) h
    have idle := idleOfWaitGroupZero inv zero
    have noFailure := notFailedRun h succeeds (initNotFailed fin)
    have launched := launchedOfQuiet fin acyclic inv scan idle noFailure id member
    have life := inv.lifecycle id member
    simp only [Lifecycle,idle id] at life
    rcases life with ⟨unlaunched,-⟩ | ⟨-,calls,⟨done,-⟩ | ⟨failed,-⟩⟩
    · exact absurd unlaunched launched
    · exact ⟨calls,done⟩
    · exact absurd failed (noFailure id)

theorem chainAcyclic : chainEngine.Acyclic :=
  acyclicOfRank (fun id => if id = "b" then 1 else 0) fun p c dep => by
    by_cases hb : c = "b"
    · subst hb
      simp [DAGEngine.DependsOn,DAGEngine.deps,DAGEngine.find?,chainEngine] at dep
      subst dep; decide
    · by_cases ha : c = "a"
      · subst ha; simp [DAGEngine.DependsOn,DAGEngine.deps,DAGEngine.find?,chainEngine] at dep
      · simp [DAGEngine.DependsOn,DAGEngine.deps,DAGEngine.find?,chainEngine,Ne.symm ha,Ne.symm hb] at dep

def chainTrace : List Action :=
  [.runVisit "a", .runVisit "b", .setRunning "a", .execute "a", .finish "a" (.ok []), .lockEngine "a",
    .visitChild "a" "b" [], .unlockEngine "a", .setRunning "b", .execute "b", .finish "b" (.ok []),
    .lockEngine "b", .unlockEngine "b"]

theorem chainRunsToCompletion : ∃ s, run chainEngine (Sched.init chainEngine) chainTrace = some s ∧
    s.scan = [] ∧ s.waitGroup = 0 ∧
    ∀ id ∈ chainEngine.ids, (s.node id).invocations = 1 ∧ (s.node id).status = .completed :=
  ⟨_,rfl,rfl,rfl,(@runTerminates chainSpecs _ rfl).2.2 chainAcyclic chainTrace _ rfl (by decide) rfl rfl⟩

end Workflows.DagRun
