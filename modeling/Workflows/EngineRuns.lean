import Mathlib.Data.List.Nodup
import Workflows.EngineService
/-! What every interleaving of `ExecuteWorkflow`, `StopWorkflow` and the execution goroutines
keeps. `activeWorkflows` holds one entry for each execution whose goroutine has not run its
deferred `delete`, which is why the count of running `Run`s stays within `capacity`, as long
as no call is admitted under an execution id that is still active. Such a call overwrites the
entry of a running execution, and the status write ignores a `StopWorkflow`. -/
namespace Workflows.Engine

/-! ### Lists the model updates in place -/

theorem mapSetSame {β : Type} {f : WorkflowExecution → β} :
    ∀ {l : List WorkflowExecution} {h : Nat} {a : WorkflowExecution},
      (∀ e, l[h]? = some e → f a = f e) → (l.set h a).map f = l.map f
  | [], _, _, _ => rfl
  | e :: l, 0, a, same => by simp [same e (by simp)]
  | e :: l, h + 1, a, same => by simp [mapSetSame (l := l) fun e' found => same e' (by simpa using found)]

theorem mapModifySame {β : Type} {f : WorkflowExecution → β} {g : WorkflowExecution → WorkflowExecution}
    (keep : ∀ e, f (g e) = f e) : ∀ (l : List WorkflowExecution) (h : Nat), (l.modify g h).map f = l.map f
  | [], 0 | [], _ + 1 => rfl
  | e :: l, 0 => by simp [keep]
  | e :: l, h + 1 => by simp [mapModifySame keep l h]

theorem lookupOfMem {m : List (String × Nat)} (distinct : (m.map (·.1)).Nodup) {k : String} {v : Nat}
    (mem : (k,v) ∈ m) : m.lookup k = some v := by
  induction m with
  | nil => cases mem
  | cons kv m ih =>
    obtain ⟨k',v'⟩ := kv
    obtain ⟨fresh,distinct⟩ := List.nodup_cons.mp distinct
    rcases List.mem_cons.mp mem with same | later
    · cases same; simp
    · have other : k ≠ k' := fun same => fresh (by rw [← same]; exact List.mem_map_of_mem (·.1) later)
      have differs : (k == k') = false := by simpa using other
      simp [List.lookup_cons,differs,ih distinct later]

theorem memOfLookup {m : List (String × Nat)} {k : String} {v : Nat} (found : m.lookup k = some v) : (k,v) ∈ m := by
  obtain ⟨l₁,l₂,shape,-⟩ := List.lookup_eq_some_iff.mp found
  rw [shape]; exact List.mem_append_right _ (List.mem_cons_self _ _)

theorem lengthDeleteKey {m : List (String × Nat)} (distinct : (m.map (·.1)).Nodup) {k : String} {v : Nat}
    (mem : (k,v) ∈ m) : (deleteKey m k).length + 1 = m.length := by
  have once : (m.map (·.1)).count k = 1 := List.count_eq_one_of_mem distinct (List.mem_map_of_mem _ mem)
  rw [List.count_eq_countP,List.countP_map,List.countP_eq_length_filter] at once
  conv_rhs => rw [List.length_eq_length_filter_add (fun kv : String × Nat => kv.1 != k)]
  simp only [deleteKey,bne,Bool.not_not,Function.comp_def] at once ⊢
  omega

theorem keyUnique {m : List (String × Nat)} (distinct : (m.map (·.1)).Nodup) {k : String} {v w : Nat}
    (first : (k,v) ∈ m) (second : (k,w) ∈ m) : v = w :=
  Option.some.inj ((lookupOfMem distinct first).symm.trans (lookupOfMem distinct second))

theorem countPSetDrop {α : Type} (p : α → Bool) {l : List α} {h : Nat} {x a : α} (found : l[h]? = some x)
    (was : p x = true) (now : p a = false) : (l.set h a).countP p + 1 = l.countP p := by
  obtain ⟨inside,at_⟩ := List.getElem?_eq_some_iff.mp found
  have positive := List.countP_pos_iff.mpr ⟨x,List.mem_iff_getElem?.mpr ⟨h,found⟩,was⟩
  rw [List.countP_set p l h a inside,at_,was,now]
  simp only [if_true,Bool.false_eq_true,if_false,Nat.add_zero]
  omega

/-! ### The invariant -/

/-- What an entry of `activeWorkflows` is paired with: the execution id and whether the
deferred `delete` has run. -/
def tag (e : WorkflowExecution) : String × Bool := (e.executionID,decide (e.phase = .finished))

structure Tracked (es : EngineService) : Prop where
  distinct : (es.activeWorkflows.map (·.1)).Nodup
  entries : ∀ x h, (x,h) ∈ es.activeWorkflows ↔ (es.executions.map tag)[h]? = some (x,false)
  count : es.activeWorkflows.length = es.unfinished
  bound : (es.activeWorkflows.length : Int) ≤ max es.capacity 0

theorem tagAt {l : List WorkflowExecution} {h : Nat} {x : String} :
    (l.map tag)[h]? = some (x,false) ↔ ∃ e, l[h]? = some e ∧ e.executionID = x ∧ e.phase ≠ .finished := by
  simp only [List.getElem?_map,Option.map_eq_some',tag,Prod.mk.injEq,decide_eq_false_iff_not]

theorem unfinishedTags (es : EngineService) :
    es.unfinished = (es.executions.map tag).countP fun t => !t.2 := by
  rw [EngineService.unfinished,List.countP_map,List.countP_eq_length_filter]
  congr 2; funext e; simp [tag]

theorem trackedFrame {es es' : EngineService} (t : Tracked es) (same : es'.activeWorkflows = es.activeWorkflows)
    (capacity : es'.capacity = es.capacity) (tags : es'.executions.map tag = es.executions.map tag) : Tracked es' := by
  refine ⟨same ▸ t.distinct,fun x h => ?_,?_,?_⟩
  · rw [same,tags]; exact t.entries x h
  · rw [same,unfinishedTags,tags,← unfinishedTags]; exact t.count
  · rw [same,capacity]; exact t.bound

theorem trackedSetExecution {es : EngineService} (t : Tracked es) {h : Nat} {x x' : WorkflowExecution}
    (found : es.executions[h]? = some x) (same : tag x' = tag x) : Tracked (es.setExecution h x') :=
  trackedFrame t rfl rfl (mapSetSame fun e at_ => by rw [found] at at_; cases at_; exact same)

theorem trackedStop {es : EngineService} (t : Tracked es) (executionID : String) :
    Tracked (match es.stopWorkflow executionID with | .ok es' => es' | .error _ => es) := by
  cases stopped : es.stopWorkflow executionID with
  | error _ => exact t
  | ok es' =>
    simp only [EngineService.stopWorkflow] at stopped
    split at stopped
    · cases stopped
    · cases stopped
      exact trackedFrame t rfl rfl (mapModifySame
        (fun e => show tag { e with status := "CANCELLED", cancelled := true } = tag e from rfl) _ _)

theorem trackedAdmit {es : EngineService} (t : Tracked es) {workflowID version executionID : String}
    (room : ¬(es.activeWorkflows.length : Int) ≥ es.capacity) (fresh : es.activeWorkflows.any (·.1 == executionID) = false) :
    Tracked { es with
      activeWorkflows := setKey es.activeWorkflows executionID es.executions.length
      executions := es.executions ++ [⟨executionID,workflowID,version,"RUNNING",false,.running⟩] } := by
  have absent : executionID ∉ es.activeWorkflows.map (·.1) := fun mem => by
    obtain ⟨kv,kin,same⟩ := List.mem_map.mp mem
    simpa [same] using List.any_eq_false.mp fresh kv kin
  simp only [setKey,fresh,if_false,Bool.false_eq_true]
  refine ⟨?_,fun x h => ?_,?_,?_⟩
  · rw [List.map_append]
    exact t.distinct.append (List.nodup_singleton _) (List.disjoint_singleton.mpr absent)
  · rw [List.mem_append,t.entries,List.map_append,List.mem_singleton,Prod.mk.injEq]
    rcases Nat.lt_trichotomy h es.executions.length with lt | rfl | gt
    · rw [List.getElem?_append_left (by simpa using lt)]
      exact or_iff_left fun ⟨_,same⟩ => absurd same (Nat.ne_of_lt lt)
    · rw [List.getElem?_append_right (by simp),List.length_map,Nat.sub_self]
      simp [tag,eq_comm]
    · rw [List.getElem?_eq_none (by simp; omega),List.getElem?_eq_none (by simp; omega)]
      simp; omega
  · simp [t.count,EngineService.unfinished,List.filter_append]
  · have := t.bound; simp only [List.length_append,List.length_singleton]; push_cast; omega

theorem trackedDelete {es : EngineService} (t : Tracked es) {h : Nat} {x : WorkflowExecution}
    (found : es.executions[h]? = some x) (written : x.phase = .written) :
    Tracked { es.setExecution h { x with phase := .finished } with
      activeWorkflows := deleteKey es.activeWorkflows x.executionID } := by
  have own : (x.executionID,h) ∈ es.activeWorkflows := (t.entries _ _).mpr (by simp [found,tag,written])
  have inside : h < es.executions.length := (List.getElem?_eq_some_iff.mp found).1
  have removed := lengthDeleteKey t.distinct own
  refine ⟨t.distinct.sublist ((List.filter_sublist _).map _),fun y k => ?_,?_,?_⟩
  · simp only [EngineService.setExecution,List.map_set,deleteKey,List.mem_filter,t.entries y k,bne_iff_ne,
      ne_eq,List.getElem?_set,List.length_map,inside,if_true]
    by_cases hk : h = k
    · subst hk; simp only [found,tag,if_true,written]; simp
      intro e at_ tagged
      rw [found] at at_; cases at_
      exact (Prod.mk.inj tagged).1.symm
    · simp only [hk,if_false,and_iff_left_iff_imp]
      intro entry same
      exact hk (keyUnique t.distinct own (same ▸ (t.entries y k).mpr entry))
  · have drop := countPSetDrop (fun e : WorkflowExecution => decide (e.phase ≠ .finished)) found
      (by simp [written]) (by simp) (a := { x with phase := .finished })
    have count := t.count
    simp only [EngineService.unfinished,← List.countP_eq_length_filter] at count ⊢
    simp only [EngineService.setExecution]
    omega
  · have := t.bound; simp only [EngineService.setExecution]; push_cast at this ⊢; omega

/-! ### Every history -/

def EngineService.reusesActive (es : EngineService) : Action → Bool
  | .executeWorkflow _ _ executionID =>
    es.activeWorkflows.any (·.1 == executionID) && decide ((es.activeWorkflows.length : Int) < es.capacity)
  | _ => false

def runFresh (es : EngineService) : List Action → Option EngineService
  | [] => some es
  | a :: trace => if es.reusesActive a then none else (step es a).bind fun es => runFresh es trace

theorem runOfRunFresh {es es' : EngineService} {trace : List Action} (h : runFresh es trace = some es') :
    run es trace = some es' := by
  induction trace generalizing es with
  | nil => exact h
  | cons a trace ih =>
    simp only [runFresh] at h
    split at h
    · cases h
    · obtain ⟨mid,first,rest⟩ := Option.bind_eq_some.mp h
      simp only [run,first,Option.bind_some]; exact ih rest

theorem trackedStep {es es' : EngineService} (t : Tracked es) {a : Action} (fresh : es.reusesActive a = false)
    (h : step es a = some es') : Tracked es' := by
  cases a with
  | executeWorkflow workflowID version executionID =>
    simp only [step,Option.some.injEq] at h; subst h
    by_cases room : (es.activeWorkflows.length : Int) ≥ es.capacity
    · simp only [EngineService.executeWorkflow,room,if_true]; exact t
    · simp only [EngineService.executeWorkflow,room,if_false]
      refine trackedAdmit t room ?_
      simpa [EngineService.reusesActive,not_le.mp room] using fresh
  | stopWorkflow executionID => simp only [step,Option.some.injEq] at h; subst h; exact trackedStop t executionID
  | runReturns n _ | writeStatus n | deleteRecord n =>
    simp only [step] at h
    cases found : es.executions[n]? with
    | none => simp [found] at h
    | some x =>
      simp only [found] at h
      split at h <;> cases h
      first
      | exact trackedSetExecution t found (by simp [tag, *])
      | exact trackedDelete t found ‹_›

theorem capacityStep {es es' : EngineService} {a : Action} (h : step es a = some es') : es'.capacity = es.capacity := by
  cases a <;> simp only [step] at h
  case executeWorkflow workflowID version executionID =>
    cases h; unfold EngineService.executeWorkflow
    by_cases room : (es.activeWorkflows.length : Int) ≥ es.capacity <;> simp [room]
  case stopWorkflow executionID =>
    cases h; unfold EngineService.stopWorkflow
    cases es.activeWorkflows.lookup executionID <;> rfl
  all_goals
    split at h
    · split at h <;> cases h; rfl
    · cases h

theorem capacityRun {es es' : EngineService} {trace : List Action} (h : run es trace = some es') :
    es'.capacity = es.capacity := by
  induction trace generalizing es with
  | nil => cases h; rfl
  | cons a trace ih =>
    obtain ⟨mid,first,rest⟩ := Option.bind_eq_some.mp h
    exact (ih rest).trans (capacityStep first)

theorem trackedRunFresh {es es' : EngineService} {trace : List Action} (t : Tracked es)
    (h : runFresh es trace = some es') : Tracked es' := by
  induction trace generalizing es with
  | nil => cases h; exact t
  | cons a trace ih =>
    simp only [runFresh] at h
    split at h
    · cases h
    · rename_i fresh
      obtain ⟨mid,first,rest⟩ := Option.bind_eq_some.mp h
      exact ih (trackedStep t (by simpa using fresh) first) rest

theorem trackedNew (id : String) (capacity : Int) : Tracked (newEngineService id capacity) :=
  ⟨List.nodup_nil,fun _ _ => by simp [newEngineService],rfl,by simp [newEngineService]⟩

theorem runningLeUnfinished (es : EngineService) : es.runningRuns ≤ es.unfinished :=
  (List.monotone_filter_right _ fun e running => by simp_all).length_le

theorem admissionBound {id : String} {capacity : Int} {trace : List Action} {es : EngineService}
    (h : runFresh (newEngineService id capacity) trace = some es) :
    (es.runningRuns : Int) ≤ max capacity 0 ∧ es.listActiveWorkflows.Nodup ∧
      es.getActiveWorkflows = es.unfinished ∧
      (∀ x, x ∈ es.listActiveWorkflows ↔ ∃ e ∈ es.executions, e.executionID = x ∧ e.phase ≠ .finished) ∧
      ∀ workflowID version executionID, (es.getActiveWorkflows : Int) ≥ capacity →
        step es (.executeWorkflow workflowID version executionID) = some es := by
  have t := trackedRunFresh (trackedNew id capacity) h
  have capacityKept : es.capacity = capacity := capacityRun (runOfRunFresh h)
  refine ⟨?_,t.distinct,t.count,fun x => ?_,fun workflowID version executionID full => ?_⟩
  · have := runningLeUnfinished es; have := t.bound; have := t.count
    rw [capacityKept] at *; omega
  · simp only [EngineService.listActiveWorkflows,List.mem_map,Prod.exists,exists_and_right,exists_eq_right]
    constructor
    · rintro ⟨h,entry⟩
      obtain ⟨e,at_,same,open_⟩ := tagAt.mp ((t.entries x h).mp entry)
      exact ⟨e,List.mem_iff_getElem?.mpr ⟨h,at_⟩,same,open_⟩
    · rintro ⟨e,member,same,open_⟩
      obtain ⟨h,at_⟩ := List.mem_iff_getElem?.mp member
      exact ⟨h,(t.entries x h).mpr (tagAt.mpr ⟨e,at_,same,open_⟩)⟩
  · simp only [EngineService.getActiveWorkflows] at full
    simp [step,EngineService.executeWorkflow,capacityKept,full]

def fullTrace : List Action := [.executeWorkflow "wf" "1.0.0" "A", .executeWorkflow "wf" "1.0.0" "B"]

theorem admissionBoundAtCapacity : ∃ es, runFresh (newEngineService "e" 1) fullTrace = some es ∧
    (es.runningRuns : Int) ≤ max 1 0 ∧ es.listActiveWorkflows.Nodup ∧ es.getActiveWorkflows = es.unfinished ∧
      (∀ x, x ∈ es.listActiveWorkflows ↔ ∃ e ∈ es.executions, e.executionID = x ∧ e.phase ≠ .finished) ∧
      ∀ workflowID version executionID, (es.getActiveWorkflows : Int) ≥ 1 →
        step es (.executeWorkflow workflowID version executionID) = some es :=
  ⟨_,rfl,@admissionBound "e" 1 fullTrace _ rfl⟩

theorem recordOutlivesRun :
    ∃ es, run (newEngineService "e" 1) [.executeWorkflow "wf" "1.0.0" "A", .runReturns 0 false] = some es ∧
      "A" ∈ es.listActiveWorkflows ∧ ¬∃ e ∈ es.executions, e.executionID = "A" ∧ e.phase = .running :=
  ⟨_,rfl,by decide,by decide⟩

/-- Without the restriction of `runFresh` the bound fails: a second call under the active id `A`
is admitted and overwrites its entry, which leaves room for `B`, and three `Run`s are in flight
at capacity 2. -/
theorem reusedIdExceedsCapacity :
    ∃ es, run (newEngineService "e" 2)
        [.executeWorkflow "wf" "1.0.0" "A", .executeWorkflow "wf" "1.0.0" "A", .executeWorkflow "wf" "1.0.0" "B"] = some es ∧
      es.runningRuns = 3 ∧ es.getActiveWorkflows = 2 :=
  ⟨_,rfl,rfl,rfl⟩

/-! ### Status -/

theorem statusWriteOverwrites {id : String} {capacity : Int} {trace : List Action} {es es' : EngineService}
    (ran : runFresh (newEngineService id capacity) trace = some es) {n : Nat} {x : WorkflowExecution}
    (found : es.executions[n]? = some x) (returned : x.phase = .returned false)
    (h : step es (.writeStatus n) = some es') : es'.getWorkflowStatus x.executionID = .ok "COMPLETED" := by
  have t := trackedRunFresh (trackedNew id capacity) ran
  have own : (x.executionID,n) ∈ es.activeWorkflows := (t.entries _ _).mpr (by simp [found,tag,returned])
  have inside : n < es.executions.length := (List.getElem?_eq_some_iff.mp found).1
  simp only [step,found,returned,Option.some.injEq] at h
  subst h
  simp [EngineService.getWorkflowStatus,EngineService.setExecution,lookupOfMem t.distinct own,inside]

def stopThenReturn : List Action := [.executeWorkflow "wf" "1.0.0" "A", .stopWorkflow "A", .runReturns 0 false]

theorem stoppedRunOverwritten : ∃ es es' x, runFresh (newEngineService "e" 1) stopThenReturn = some es ∧
    es.executions[0]? = some x ∧ x.status = "CANCELLED" ∧ x.phase = .returned false ∧
    step es (.writeStatus 0) = some es' ∧ es'.getWorkflowStatus x.executionID = .ok "COMPLETED" := by
  refine ⟨_,_,_,rfl,rfl,rfl,rfl,rfl,?_⟩
  apply @statusWriteOverwrites "e" 1 stopThenReturn _ _ rfl 0
  all_goals rfl

theorem stoppedThenCompleted :
    ∃ es₁ es₂, run (newEngineService "e" 1) [.executeWorkflow "wf" "1.0.0" "A", .stopWorkflow "A"] = some es₁ ∧
      es₁.getWorkflowStatus "A" = .ok "CANCELLED" ∧
      run es₁ [.runReturns 0 false, .writeStatus 0] = some es₂ ∧ es₂.getWorkflowStatus "A" = .ok "COMPLETED" :=
  ⟨_,_,rfl,rfl,rfl,rfl⟩

end Workflows.Engine
