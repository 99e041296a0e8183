import Workflows.EngineService
import Workflows.ExecutionIds
/-! `SubWorkflowCoordinator`. `ExecuteSubWorkflow` stores a PENDING record and starts a goroutine
that, each time under `swc.mu`, writes RUNNING, then FAILED or COMPLETED once the orchestrator call
returns, then `EndTime`. `CancelChildren` looks a child up under the read lock, reads its status,
and when it saw RUNNING writes CANCELLED under the write lock in a later critical section. Neither
write looks at the status it replaces: a record's statuses never go back to PENDING or RUNNING,
but one record can be given two terminal statuses, one after the other. The id of a call is
`<parent>-sub-<nanos>`, injective in the two: when no two calls of a run share both, the id each
call returned names the record it created.
Each record keeps, as a ghost field, every status written to it, oldest first. -/
namespace Workflows.SubWorkflows
open Engine (setKey)

inductive Phase where
  | starting
  | calling
  | ending
  | exited
  deriving DecidableEq, Repr

structure SubWorkflowExecution where
  executionID : String
  subWorkflowID : String
  subWorkflowVersion : String
  parentExecutionID : String
  status : String
  ended : Bool
  phase : Phase
  statuses : List String
  deriving DecidableEq, Repr

/-- The maps hold positions in `executions`, which keeps every record ever created: a goroutine
or a `CancelChildren` call keeps its pointer after the map entry is replaced. -/
structure SubWorkflowCoordinator where
  activeSubWorkflows : List (String × Nat)
  parentToChildren : List (String × List String)
  executions : List SubWorkflowExecution
  deriving DecidableEq, Repr

def newSubWorkflowCoordinator : SubWorkflowCoordinator := ⟨[],[],[]⟩

def appendChild (m : List (String × List String)) (parent child : String) : List (String × List String) :=
  if m.any (·.1 == parent) then m.map fun kv => if kv.1 = parent then (parent,kv.2 ++ [child]) else kv
  else m ++ [(parent,[child])]

def subExecutionID (parentExecutionID : String) (nanos : BitVec 64) : String :=
  parentExecutionID ++ "-sub-" ++ Dispatch.formatDecimal nanos.toInt

def SubWorkflowCoordinator.executeSubWorkflow (swc : SubWorkflowCoordinator)
    (subWorkflowID subWorkflowVersion parentExecutionID : String) (nanos : BitVec 64) : String × SubWorkflowCoordinator :=
  let executionID := subExecutionID parentExecutionID nanos
  (executionID,{ activeSubWorkflows := setKey swc.activeSubWorkflows executionID swc.executions.length
                 parentToChildren := appendChild swc.parentToChildren parentExecutionID executionID
                 executions := swc.executions ++
                   [⟨executionID,subWorkflowID,subWorkflowVersion,parentExecutionID,"PENDING",false,.starting,["PENDING"]⟩] })

def SubWorkflowCoordinator.getSubWorkflowStatus (swc : SubWorkflowCoordinator) (executionID : String) :
    Except String SubWorkflowExecution :=
  match swc.activeSubWorkflows.lookup executionID >>= fun h => swc.executions[h]? with
  | some x => .ok x
  | none => .error ("sub-workflow " ++ executionID ++ " not found")

def SubWorkflowCoordinator.getChildrenExecutions (swc : SubWorkflowCoordinator) (parentExecutionID : String) : List String :=
  (swc.parentToChildren.lookup parentExecutionID).getD []

def SubWorkflowExecution.write (x : SubWorkflowExecution) (status : String) : SubWorkflowExecution :=
  { x with status := status, statuses := x.statuses ++ [status] }

def SubWorkflowCoordinator.update (swc : SubWorkflowCoordinator) (h : Nat) (f : SubWorkflowExecution → SubWorkflowExecution) :
    SubWorkflowCoordinator :=
  { swc with executions := swc.executions.modify f h }

/-- Where a call of `CancelChildren` stands in its loop over a child: about to look it up, holding
the pointer it looked up (read under the read lock, its status read after `RUnlock`), or having
seen RUNNING and about to take the write lock. -/
inductive CancelPhase where
  | next
  | fetched (exec : Option Nat)
  | cancelling (exec : Nat)
  deriving DecidableEq, Repr

structure CancelChildren where
  children : List String
  phase : CancelPhase
  deriving DecidableEq, Repr

structure System where
  swc : SubWorkflowCoordinator
  cancels : List CancelChildren
  deriving DecidableEq, Repr

def newSystem : System := ⟨newSubWorkflowCoordinator,[]⟩

inductive Action where
  | executeSubWorkflow (subWorkflowID subWorkflowVersion parentExecutionID : String) (nanos : BitVec 64)
  | setRunning (exec : Nat)
  | finish (exec : Nat) (failed : Bool)
  | setEndTime (exec : Nat)
  | cancelChildren (parentExecutionID : String)
  | lookupChild (c : Nat)
  | readStatus (c : Nat)
  | cancelChild (c : Nat)
  deriving DecidableEq, Repr

def System.advance (s : System) (h : Nat) (phase : Phase) (f : SubWorkflowExecution → SubWorkflowExecution) : Option System :=
  match s.swc.executions[h]? with
  | some x => if x.phase = phase then some { s with swc := s.swc.update h f } else none
  | none => none

def step (s : System) : Action → Option System
  | .executeSubWorkflow subWorkflowID subWorkflowVersion parentExecutionID nanos =>
    some { s with swc := (s.swc.executeSubWorkflow subWorkflowID subWorkflowVersion parentExecutionID nanos).2 }
  | .setRunning h => s.advance h .starting fun x => { x.write "RUNNING" with phase := .calling }
  | .finish h failed => s.advance h .calling fun x => { x.write (if failed then "FAILED" else "COMPLETED") with phase := .ending }
  | .setEndTime h => s.advance h .ending fun x => { x with ended := true, phase := .exited }
  | .cancelChildren parentExecutionID =>
    some { s with cancels := s.cancels ++ [⟨s.swc.getChildrenExecutions parentExecutionID,.next⟩] }
  | .lookupChild c =>
    match s.cancels[c]? with
    | some ⟨childID :: rest,.next⟩ =>
      some { s with cancels := s.cancels.set c ⟨rest,.fetched (s.swc.activeSubWorkflows.lookup childID)⟩ }
    | _ => none
  | .readStatus c =>
    match s.cancels[c]? with
    | some ⟨rest,.fetched exec⟩ =>
      let seen := match exec with
        | some h => if (s.swc.executions[h]?.map (·.status)) = some "RUNNING" then CancelPhase.cancelling h else .next
        | none => .next
      some { s with cancels := s.cancels.set c ⟨rest,seen⟩ }
    | _ => none
  | .cancelChild c =>
    match s.cancels[c]? with
    | some ⟨rest,.cancelling h⟩ => some ⟨s.swc.update h (·.write "CANCELLED"),s.cancels.set c ⟨rest,.next⟩⟩
    | _ => none

def run (s : System) : List Action → Option System
  | [] => some s
  | a :: trace => (step s a).bind fun s => run s trace

/-! ### What every run keeps -/

def Terminal (status : String) : Prop := status = "COMPLETED" ∨ status = "FAILED" ∨ status = "CANCELLED"

structure Shaped (x : SubWorkflowExecution) : Prop where
  current : x.statuses.getLast? = some x.status
  history : x.phase = .starting ∧ x.statuses = ["PENDING"] ∨
    x.phase ≠ .starting ∧ ∃ rest, x.statuses = "PENDING" :: "RUNNING" :: rest ∧ ∀ t ∈ rest, Terminal t

def CancelPhase.Started (swc : SubWorkflowCoordinator) : CancelPhase → Prop
  | .cancelling h => ∃ x, swc.executions[h]? = some x ∧ x.phase ≠ .starting
  | _ => True

structure Inv (s : System) : Prop where
  shaped : ∀ (h : Nat) x, s.swc.executions[h]? = some x → Shaped x
  started : ∀ c ∈ s.cancels, c.phase.Started s.swc

theorem shapedWrite {x : SubWorkflowExecution} (shaped : Shaped x) (started : x.phase ≠ .starting) {t : String}
    (terminal : Terminal t) (phase : Phase) (stays : phase ≠ .starting) : Shaped { x.write t with phase := phase } := by
  rcases shaped.history with ⟨starting,-⟩ | ⟨-,rest,history,terminals⟩
  · exact absurd starting started
  · refine ⟨by simp [SubWorkflowExecution.write],.inr ⟨stays,rest ++ [t],?_,?_⟩⟩
    · simp [SubWorkflowExecution.write,history]
    · simpa [or_imp,forall_and] using And.intro terminals terminal

theorem runningStarted {x : SubWorkflowExecution} (shaped : Shaped x) (running : x.status = "RUNNING") :
    x.phase ≠ .starting := by
  rcases shaped.history with ⟨-,history⟩ | ⟨started,-⟩
  · have := shaped.current; simp [history,running] at this
  · exact started

theorem getElemUpdate {swc : SubWorkflowCoordinator} {h i : Nat} {f : SubWorkflowExecution → SubWorkflowExecution} :
    (swc.update h f).executions[i]? = if h = i then swc.executions[i]?.map f else swc.executions[i]? := by
  simp only [SubWorkflowCoordinator.update,List.getElem?_modify]
  split <;> simp

theorem getElemPush {l : List SubWorkflowExecution} {r : SubWorkflowExecution} {i : Nat} :
    (l ++ [r])[i]? = if i = l.length then some r else l[i]? := by
  rw [List.getElem?_append]
  split
  · rw [if_neg (by omega)]
  · rw [List.getElem?_cons]
    split <;> split
    · rfl
    · omega
    · omega
    · simp only [List.getElem?_nil]; exact (List.getElem?_eq_none (by omega)).symm

theorem invUpdate {s : System} (inv : Inv s) {h : Nat} {f : SubWorkflowExecution → SubWorkflowExecution}
    (keeps : ∀ x, s.swc.executions[h]? = some x → Shaped (f x) ∧ (x.phase ≠ .starting → (f x).phase ≠ .starting))
    (cancels : List CancelChildren) (started : ∀ c ∈ cancels, c.phase.Started s.swc) : Inv ⟨s.swc.update h f,cancels⟩ := by
  refine ⟨fun i x found => ?_,fun c member => ?_⟩
  · rw [getElemUpdate] at found
    split at found
    · subst h; obtain ⟨y,old,rfl⟩ := Option.map_eq_some'.mp found
      exact (keeps y old).1
    · exact inv.shaped i x found
  · have := started c member
    cases phase : c.phase with
    | cancelling i =>
      rw [phase] at this
      obtain ⟨x,found,started⟩ := this
      show ∃ y, (s.swc.update h f).executions[i]? = some y ∧ y.phase ≠ .starting
      rw [getElemUpdate]
      split
      · subst h; exact ⟨f x,by rw [found]; rfl,(keeps x found).2 started⟩
      · exact ⟨x,found,started⟩
    | _ => trivial

theorem invAdvance {s s' : System} (inv : Inv s) {h : Nat} {phase : Phase} {f : SubWorkflowExecution → SubWorkflowExecution}
    (keeps : ∀ x, x.phase = phase → Shaped x → Shaped (f x) ∧ (f x).phase ≠ .starting)
    (advanced : s.advance h phase f = some s') : Inv s' := by
  simp only [System.advance] at advanced
  split at advanced
  · rename_i x found
    split at advanced
    · cases advanced
      refine invUpdate inv (fun y found' => ?_) s.cancels inv.started
      obtain rfl : x = y := Option.some.inj (found.symm.trans found')
      have := keeps x ‹_› (inv.shaped h x found)
      exact ⟨this.1,fun _ => this.2⟩
    · cases advanced
  · cases advanced

theorem startedSet {swc : SubWorkflowCoordinator} {cancels : List CancelChildren} (started : ∀ c ∈ cancels, c.phase.Started swc)
    {c : Nat} {d : CancelChildren} (fresh : d.phase.Started swc) : ∀ e ∈ cancels.set c d, e.phase.Started swc := by
  intro e member
  rcases List.mem_or_eq_of_mem_set member with old | rfl
  · exact started e old
  · exact fresh

theorem invExecute {s : System} (inv : Inv s) (subWorkflowID subWorkflowVersion parentExecutionID : String)
    (nanos : BitVec 64) :
    Inv { s with swc := (s.swc.executeSubWorkflow subWorkflowID subWorkflowVersion parentExecutionID nanos).2 } := by
  refine ⟨fun i x found => ?_,fun c member => ?_⟩
  · simp only [SubWorkflowCoordinator.executeSubWorkflow,getElemPush] at found
    split at found
    · cases found; exact ⟨rfl,.inl ⟨rfl,rfl⟩⟩
    · exact inv.shaped i x found
  · have := inv.started c member
    cases phase : c.phase with
    | cancelling i =>
      rw [phase] at this
      obtain ⟨x,found,started⟩ := this
      refine ⟨x,?_,started⟩
      simp only [SubWorkflowCoordinator.executeSubWorkflow,getElemPush]
      rw [if_neg (fun same => by simp [same] at found),found]
    | _ => trivial

theorem invCancel {s : System} (inv : Inv s) {c h : Nat} {rest : List String}
    (found : s.cancels[c]? = some ⟨rest,.cancelling h⟩) :
    Inv ⟨s.swc.update h (·.write "CANCELLED"),s.cancels.set c ⟨rest,.next⟩⟩ := by
  obtain ⟨y,found',started⟩ : ∃ y, s.swc.executions[h]? = some y ∧ y.phase ≠ .starting :=
    inv.started _ (List.getElem?_mem found)
  refine invUpdate inv (fun x found'' => ?_) _ (startedSet inv.started trivial)
  obtain rfl : y = x := Option.some.inj (found'.symm.trans found'')
  exact ⟨shapedWrite (inv.shaped h y found') started (by simp [Terminal]) y.phase started,id⟩

theorem stepInv {s s' : System} (inv : Inv s) {a : Action} (h : step s a = some s') : Inv s' := by
  cases a with
  | executeSubWorkflow subWorkflowID subWorkflowVersion parentExecutionID nanos =>
    cases h; exact invExecute inv subWorkflowID subWorkflowVersion parentExecutionID nanos
  | setRunning h' =>
    refine invAdvance inv (fun x starting shaped => ?_) h
    rcases shaped.history with ⟨-,history⟩ | ⟨started,-⟩
    · exact ⟨⟨by simp [SubWorkflowExecution.write],.inr ⟨by simp,[],by simp [SubWorkflowExecution.write,history],by simp⟩⟩,by simp⟩
    · exact absurd starting started
  | finish h' failed =>
    refine invAdvance inv (fun x calling shaped => ⟨shapedWrite shaped (by rw [calling]; nofun) ?_ .ending nofun,by simp⟩) h
    cases failed <;> simp [Terminal]
  | setEndTime h' =>
    refine invAdvance inv (fun x ending shaped => ?_) h
    rcases shaped.history with ⟨starting,-⟩ | ⟨-,rest⟩
    · rw [ending] at starting; cases starting
    · exact ⟨⟨shaped.current,.inr ⟨by simp,rest⟩⟩,by simp⟩
  | cancelChildren parentExecutionID =>
    cases h
    refine ⟨inv.shaped,fun c member => ?_⟩
    rcases List.mem_append.mp member with old | fresh
    · exact inv.started c old
    · rw [List.mem_singleton.mp fresh]; trivial
  | lookupChild c => simp only [step] at h; split at h <;> cases h; exact ⟨inv.shaped,startedSet inv.started trivial⟩
  | readStatus c =>
    simp only [step] at h; split at h <;> cases h
    refine ⟨inv.shaped,startedSet inv.started ?_⟩
    split
    · split
      · rename_i p _ running
        obtain ⟨x,found,status⟩ := Option.map_eq_some'.mp running
        exact ⟨x,found,runningStarted (inv.shaped p x found) status⟩
      · trivial
    · trivial
  | cancelChild c => simp only [step] at h; split at h <;> cases h; exact invCancel inv ‹_›

theorem newSystemInv : Inv newSystem := ⟨fun _ _ found => (by cases found),nofun⟩

theorem runInv {s s' : System} (inv : Inv s) {trace : List Action} (h : run s trace = some s') : Inv s' := by
  induction trace generalizing s with
  | nil => cases h; exact inv
  | cons a trace ih =>
    obtain ⟨s₁,stepped,rest⟩ := Option.bind_eq_some.mp h
    exact ih (stepInv inv stepped) rest

theorem reportedStatuses {trace : List Action} {s : System} (h : run newSystem trace = some s) {executionID : String}
    {x : SubWorkflowExecution} (reported : s.swc.getSubWorkflowStatus executionID = .ok x) :
    x.statuses.getLast? = some x.status ∧
      (x.statuses = ["PENDING"] ∨ ∃ rest, x.statuses = "PENDING" :: "RUNNING" :: rest ∧ ∀ t ∈ rest, Terminal t) := by
  simp only [SubWorkflowCoordinator.getSubWorkflowStatus] at reported
  split at reported
  · rename_i found
    cases reported
    obtain ⟨p,-,found⟩ := Option.bind_eq_some.mp found
    have shaped := (runInv newSystemInv h).shaped p x found
    refine ⟨shaped.current,?_⟩
    rcases shaped.history with ⟨-,pending⟩ | ⟨-,running⟩
    · exact .inl pending
    · exact .inr running
  · cases reported

/-! ### Each id names the record of its own call -/

theorem formatDecimalNoS (x : Int) : ∀ c ∈ (Dispatch.formatDecimal x).data, c ≠ 's' := by
  intro c member
  rcases List.mem_append.mp member with sign | digit
  · split at sign <;> simp_all
  · exact Dispatch.decimalDigitsAvoid (by decide) _ c digit

theorem subExecutionIDReversed (parentExecutionID : String) (nanos : BitVec 64) :
    (subExecutionID parentExecutionID nanos).data.reverse =
      ((Dispatch.formatDecimal nanos.toInt).data.reverse ++ ['-','b','u']) ++ 's' :: '-' :: parentExecutionID.data.reverse := by
  simp [subExecutionID,List.reverse_append]

theorem subExecutionIDInj {parentExecutionID parentExecutionID' : String} {nanos nanos' : BitVec 64} :
    subExecutionID parentExecutionID nanos = subExecutionID parentExecutionID' nanos' ↔
      parentExecutionID = parentExecutionID' ∧ nanos = nanos' := by
  refine ⟨fun same => ?_,fun ⟨parent,reading⟩ => parent ▸ reading ▸ rfl⟩
  have free : ∀ x : Int, ∀ c ∈ (Dispatch.formatDecimal x).data.reverse ++ ['-','b','u'], c ≠ 's' := by
    intro x c member
    rcases List.mem_append.mp member with digit | tail
    · exact formatDecimalNoS x c (List.mem_reverse.mp digit)
    · simp only [List.mem_cons,List.mem_singleton,List.not_mem_nil,or_false] at tail
      rcases tail with rfl | rfl | rfl <;> decide
  have chars := congrArg (fun id : String => id.data.reverse) same
  simp only [subExecutionIDReversed] at chars
  obtain ⟨reading,parent⟩ := Dispatch.splitAtFirst (free _) (free _) chars
  have reading := List.reverse_injective (List.append_cancel_right reading)
  exact ⟨String.ext (List.reverse_injective (List.cons.inj parent).2),
    BitVec.toInt_inj.mp (Dispatch.formatDecimalInj (String.ext reading))⟩

structure Call where
  subWorkflowID : String
  subWorkflowVersion : String
  parentExecutionID : String
  nanos : BitVec 64
  deriving DecidableEq, Repr

def Call.executionID (c : Call) : String := subExecutionID c.parentExecutionID c.nanos

def Call.identity (c : Call) : String × String × String × String :=
  (c.executionID,c.subWorkflowID,c.subWorkflowVersion,c.parentExecutionID)

def SubWorkflowExecution.identity (x : SubWorkflowExecution) : String × String × String × String :=
  (x.executionID,x.subWorkflowID,x.subWorkflowVersion,x.parentExecutionID)

def Action.call : Action → List Call
  | .executeSubWorkflow subWorkflowID subWorkflowVersion parentExecutionID nanos =>
    [⟨subWorkflowID,subWorkflowVersion,parentExecutionID,nanos⟩]
  | _ => []

def calls : List Action → List Call
  | [] => []
  | a :: trace => a.call ++ calls trace

def Indexed (swc : SubWorkflowCoordinator) (made : List Call) : Prop :=
  ∀ c ∈ made, ∃ h x, swc.activeSubWorkflows.lookup c.executionID = some h ∧ swc.executions[h]? = some x ∧
    ∃ c' ∈ made, c'.executionID = c.executionID ∧ x.identity = c'.identity

theorem indexedUpdate {swc : SubWorkflowCoordinator} {made : List Call} (indexed : Indexed swc made) (h : Nat)
    {f : SubWorkflowExecution → SubWorkflowExecution} (keeps : ∀ x, (f x).identity = x.identity) :
    Indexed (swc.update h f) made := by
  intro c member
  obtain ⟨i,x,found,at_,c',member',sameID,identity⟩ := indexed c member
  refine ⟨i,if h = i then f x else x,found,?_,c',member',sameID,?_⟩
  · rw [getElemUpdate,at_]; split <;> rfl
  · split <;> simp only [keeps,identity]

theorem indexedExecute {swc : SubWorkflowCoordinator} {made : List Call} (indexed : Indexed swc made)
    (subWorkflowID subWorkflowVersion parentExecutionID : String) (nanos : BitVec 64) :
    Indexed (swc.executeSubWorkflow subWorkflowID subWorkflowVersion parentExecutionID nanos).2
      (made ++ [⟨subWorkflowID,subWorkflowVersion,parentExecutionID,nanos⟩]) := by
  intro c member
  simp only [SubWorkflowCoordinator.executeSubWorkflow,Engine.lookupSetKey,getElemPush]
  by_cases same : c.executionID = subExecutionID parentExecutionID nanos
  · exact ⟨_,_,if_pos same,if_pos rfl,_,List.mem_append_right _ (List.mem_singleton_self _),same.symm,rfl⟩
  · obtain ⟨i,x,found,at_,c',member',sameID,identity⟩ :=
      indexed c ((List.mem_append.mp member).resolve_right fun last => same (by rw [List.mem_singleton.mp last]; rfl))
    have inside : i ≠ swc.executions.length := Nat.ne_of_lt (List.getElem?_eq_some_iff.mp at_).1
    exact ⟨i,x,by rw [if_neg same,found],by rw [if_neg inside,at_],c',List.mem_append_left _ member',sameID,identity⟩

theorem indexedStep {s s' : System} {made : List Call} (indexed : Indexed s.swc made) {a : Action}
    (h : step s a = some s') : Indexed s'.swc (made ++ a.call) := by
  cases a with
  | executeSubWorkflow subWorkflowID subWorkflowVersion parentExecutionID nanos =>
    cases h; exact indexedExecute indexed subWorkflowID subWorkflowVersion parentExecutionID nanos
  | setRunning p | finish p _ | setEndTime p =>
    simp only [step,System.advance] at h
    split at h
    · split at h <;> cases h
      exact (List.append_nil made).symm ▸ indexedUpdate indexed p fun _ => rfl
    · cases h
  | cancelChildren _ => cases h; exact (List.append_nil made).symm ▸ indexed
  | lookupChild c | readStatus c =>
    simp only [step] at h; split at h <;> cases h; exact (List.append_nil made).symm ▸ indexed
  | cancelChild c =>
    simp only [step] at h; split at h <;> cases h
    exact (List.append_nil made).symm ▸ indexedUpdate indexed _ fun _ => rfl

theorem indexedRun {s s' : System} {made : List Call} (indexed : Indexed s.swc made) {trace : List Action}
    (h : run s trace = some s') : Indexed s'.swc (made ++ calls trace) := by
  induction trace generalizing s made with
  | nil => cases h; rw [calls,List.append_nil]; exact indexed
  | cons a trace ih =>
    obtain ⟨s₁,stepped,rest⟩ := Option.bind_eq_some.mp h
    rw [calls,← List.append_assoc]
    exact ih (indexedStep indexed stepped) rest

theorem ownRecordReported {trace : List Action} {s : System} (h : run newSystem trace = some s)
    (distinct : ((calls trace).map fun c => (c.parentExecutionID,c.nanos)).Nodup) {c : Call} (made : c ∈ calls trace) :
    ∃ x, s.swc.getSubWorkflowStatus c.executionID = .ok x ∧ x.identity = c.identity := by
  obtain ⟨i,x,found,at_,c',member',sameID,identity⟩ := @indexedRun newSystem s [] (fun _ => nofun) trace h c made
  have ids : ((calls trace).map Call.executionID).Nodup := by
    have := distinct.map (f := fun pn : String × BitVec 64 => subExecutionID pn.1 pn.2)
      fun _ _ same => Prod.ext_iff.mpr (subExecutionIDInj.mp same)
    rwa [List.map_map] at this
  obtain rfl := List.inj_on_of_nodup_map ids member' made sameID
  exact ⟨x,by simp [SubWorkflowCoordinator.getSubWorkflowStatus,found,at_],identity⟩

def twoReadings : List Action := [.executeSubWorkflow "a" "1.0.0" "parent" 7, .executeSubWorkflow "b" "1.0.0" "parent" 8]

theorem twoReadingsReported : ∃ s, run newSystem twoReadings = some s ∧
    ((calls twoReadings).map fun c => (c.parentExecutionID,c.nanos)).Nodup ∧ ⟨"a","1.0.0","parent",7⟩ ∈ calls twoReadings ∧
    ∃ x, s.swc.getSubWorkflowStatus (Call.executionID ⟨"a","1.0.0","parent",7⟩) = .ok x ∧
      x.identity = Call.identity ⟨"a","1.0.0","parent",7⟩ := by
  have distinct : ((calls twoReadings).map fun c => (c.parentExecutionID,c.nanos)).Nodup := by decide
  have made : (⟨"a","1.0.0","parent",7⟩ : Call) ∈ calls twoReadings := by decide
  refine ⟨_,rfl,distinct,made,?_⟩
  exact @ownRecordReported twoReadings _ rfl distinct _ made

theorem subExecutionIDOfParent : subExecutionID "parent" 7 = "parent-sub-7" := by
  simp only [subExecutionID,Dispatch.formatDecimal]; rw [Dispatch.decimalDigits]; rfl

def cancelInFlight : List Action :=
  [.executeSubWorkflow "child" "1.0.0" "parent" 7, .setRunning 0, .cancelChildren "parent", .lookupChild 0, .readStatus 0,
    .cancelChild 0]

def cancelRacesCompletion : List Action :=
  [.executeSubWorkflow "child" "1.0.0" "parent" 7, .setRunning 0, .cancelChildren "parent", .lookupChild 0, .readStatus 0,
    .finish 0 false]

theorem terminalStatusOverwritten :
    (∃ s₁ s₂, run newSystem cancelInFlight = some s₁ ∧
      (s₁.swc.getSubWorkflowStatus (subExecutionID "parent" 7)).map (·.status) = .ok "CANCELLED" ∧
      run s₁ [.finish 0 false] = some s₂ ∧
      (s₂.swc.getSubWorkflowStatus (subExecutionID "parent" 7)).map (·.status) = .ok "COMPLETED") ∧
    ∃ s₁ s₂, run newSystem cancelRacesCompletion = some s₁ ∧
      (s₁.swc.getSubWorkflowStatus (subExecutionID "parent" 7)).map (·.status) = .ok "COMPLETED" ∧
      run s₁ [.cancelChild 0] = some s₂ ∧
      (s₂.swc.getSubWorkflowStatus (subExecutionID "parent" 7)).map (·.status) = .ok "CANCELLED" := by
  simp only [cancelInFlight,cancelRacesCompletion,run,step,SubWorkflowCoordinator.executeSubWorkflow,
    subExecutionIDOfParent,Option.some_bind]
  exact ⟨⟨_,_,rfl,rfl,rfl,rfl⟩,_,_,rfl,rfl,rfl,rfl⟩

theorem racedChildStatuses : ∃ s x, run newSystem (cancelRacesCompletion ++ [.cancelChild 0]) = some s ∧
    s.swc.getSubWorkflowStatus (subExecutionID "parent" 7) = .ok x ∧
    x.statuses = ["PENDING","RUNNING","COMPLETED","CANCELLED"] ∧
    (x.statuses.getLast? = some x.status ∧
      (x.statuses = ["PENDING"] ∨ ∃ rest, x.statuses = "PENDING" :: "RUNNING" :: rest ∧ ∀ t ∈ rest, Terminal t)) := by
  obtain ⟨s,ran,x,reported,statuses⟩ : ∃ s, run newSystem (cancelRacesCompletion ++ [.cancelChild 0]) = some s ∧
      ∃ x, s.swc.getSubWorkflowStatus (subExecutionID "parent" 7) = .ok x ∧
        x.statuses = ["PENDING","RUNNING","COMPLETED","CANCELLED"] := by
    simp only [cancelRacesCompletion,List.cons_append,List.nil_append,run,step,SubWorkflowCoordinator.executeSubWorkflow,
      subExecutionIDOfParent,Option.some_bind]
    exact ⟨_,rfl,_,rfl,rfl⟩
  exact ⟨s,x,ran,reported,statuses,reportedStatuses ran reported⟩

/-! ### Execution ids -/

theorem repeatedReadingCollides : ∃ swc₁ swc₂,
    newSubWorkflowCoordinator.executeSubWorkflow "a" "1.0.0" "parent" 7 = (subExecutionID "parent" 7,swc₁) ∧
    swc₁.executeSubWorkflow "b" "1.0.0" "parent" 7 = (subExecutionID "parent" 7,swc₂) ∧
    (swc₂.getSubWorkflowStatus (subExecutionID "parent" 7)).map (·.subWorkflowID) = .ok "b" ∧
    swc₂.getChildrenExecutions "parent" = [subExecutionID "parent" 7,subExecutionID "parent" 7] := by
  simp only [SubWorkflowCoordinator.executeSubWorkflow,subExecutionIDOfParent]
  exact ⟨_,_,rfl,rfl,rfl,rfl⟩

end Workflows.SubWorkflows
