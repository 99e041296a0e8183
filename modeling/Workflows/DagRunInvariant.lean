import Mathlib.Algebra.Order.BigOperators.Group.List
import Mathlib.Algebra.Order.Ring.Nat
import Workflows.DagRun
/-! The invariant of every interleaving of `Run` on a finalised graph. One node has at most
one goroutine, whose point of `executeNode` fixes its status, lock and ghost counters; a
`ReadyCounter` counts the `Children` entries naming the node that no parent has visited yet;
a node is launched once, by the range loop of `Run` if it is a root, else when its counter
reaches zero. -/
namespace Workflows.DagRun
open DagGraph

def PcFits (e : DAGEngine) (id : String) (n : NodeState) : Pc → Prop
  | .start => n.status = .pending ∧ n.invocations = 0
  | .invoke => n.status = .running ∧ n.invocations = 0
  | .execute => n.status = .running ∧ n.invocations = 1
  | .trigger => n.status = .completed ∧ n.invocations = 1
  | .visit rest => n.status = .completed ∧ n.invocations = 1 ∧ rest <:+ e.children id

def Lifecycle (e : DAGEngine) (id : String) (n : NodeState) : Prop :=
  match n.goroutines with
  | [] => n.launches = 0 ∧ n.status = .pending ∧ n.invocations = 0 ∧ n.locked = false ∨
      n.launches = 1 ∧ n.invocations = 1 ∧
        (n.status = .completed ∧ n.locked = false ∨ n.status = .failed ∧ n.locked = true)
  | [pc] => n.launches = 1 ∧ n.locked = false ∧ PcFits e id n pc
  | _ :: _ :: _ => False

/-- The `Children` entries of `id` that `triggerChildren` has not visited yet. -/
def unvisited (e : DAGEngine) (id : String) (n : NodeState) : List String :=
  match n.goroutines with
  | [.visit rest] => rest
  | [] => if n.status = .completed then [] else e.children id
  | _ => e.children id

/-- Every dependency occurrence whose parent has not yet decremented the child. -/
def pendingEdges (e : DAGEngine) (s : Sched) : List String :=
  e.ids.flatMap fun id => unvisited e id (s.node id)

structure Inv (e : DAGEngine) (s : Sched) : Prop where
  lifecycle : ∀ id ∈ e.ids, Lifecycle e id (s.node id)
  outside : ∀ id ∉ e.ids, s.node id = NodeState.absent
  waitGroup : s.waitGroup = (e.ids.map fun id => (s.node id).goroutines.length).sum
  scanNodup : s.scan.Nodup
  scanIds : ∀ id ∈ s.scan, id ∈ e.ids
  ready : ∀ id ∈ e.ids, (s.node id).readyCounter = (pendingEdges e s).count id
  launched : ∀ id ∈ e.ids,
    (s.node id).launches = 0 ↔ if e.deps id = [] then id ∈ s.scan else 0 < (s.node id).readyCounter
  engine : s.engineLocked = true ↔ ∃ id rest, (s.node id).goroutines = [.visit rest]
  oneVisitor : ∀ a b ra rb, (s.node a).goroutines = [.visit ra] → (s.node b).goroutines = [.visit rb] → a = b

theorem Inv.logged {e : DAGEngine} {s : Sched} (inv : Inv e s) (executed : List (String × List (String × List (String × String)))) :
    Inv e { s with executed := executed } :=
  ⟨inv.lifecycle,inv.outside,inv.waitGroup,inv.scanNodup,inv.scanIds,inv.ready,inv.launched,inv.engine,inv.oneVisitor⟩

/-! ### Counting -/

theorem sumMapUpdate {l : List String} (distinct : l.Nodup) {id : String} (member : id ∈ l)
    (g : String → Nat) (v : Nat) :
    (l.map (Function.update g id v)).sum + g id = (l.map g).sum + v := by
  induction l with
  | nil => cases member
  | cons q rest ih =>
    obtain ⟨fresh,distinct⟩ := List.nodup_cons.mp distinct
    by_cases h : q = id
    · subst h
      have same : rest.map (Function.update g q v) = rest.map g :=
        List.map_congr_left fun x inRest => Function.update_noteq (fun (same : x = q) => fresh (same ▸ inRest)) _ _
      simp [same]; omega
    · have := ih distinct ((List.mem_cons.mp member).resolve_left (Ne.symm h))
      simp [Function.update_noteq h]; omega

theorem sumMapIte {l : List String} (distinct : l.Nodup) {x : String} (member : x ∈ l) :
    (l.map fun p => if x = p then 1 else 0).sum = 1 := by
  induction l with
  | nil => cases member
  | cons q rest ih =>
    obtain ⟨fresh,distinct⟩ := List.nodup_cons.mp distinct
    by_cases h : x = q
    · subst h
      have zero : (rest.map fun p => if x = p then 1 else 0) = rest.map fun _ => 0 :=
        List.map_congr_left fun p inRest => if_neg fun (same : x = p) => fresh (same ▸ inRest)
      simp [zero]
    · simp [h,ih distinct ((List.mem_cons.mp member).resolve_left h)]

theorem sumCounts {l deps : List String} (distinct : l.Nodup) (inside : ∀ x ∈ deps, x ∈ l) :
    (l.map fun p => deps.count p).sum = deps.length := by
  induction deps with
  | nil => simp
  | cons x rest ih =>
    have split : (l.map fun p => (x :: rest).count p) =
        l.map fun p => rest.count p + if x = p then 1 else 0 :=
      List.map_congr_left fun p _ => by simp [List.count_cons]
    rw [split,List.sum_map_add,ih fun y inRest => inside y (List.mem_cons_of_mem _ inRest),
      sumMapIte distinct (inside x (List.mem_cons_self _ _))]
    rfl

theorem flatMapCongr {l : List String} {f g : String → List String} (same : ∀ x ∈ l, f x = g x) :
    l.flatMap f = l.flatMap g := by
  simp only [List.flatMap]; rw [List.map_congr_left same]

theorem countUnvisitedLe {e : DAGEngine} {s : Sched} {id : String} (member : id ∈ e.ids) (x : String) :
    (unvisited e id (s.node id)).count x ≤ (pendingEdges e s).count x := by
  rw [pendingEdges,List.count_flatMap]
  exact List.le_sum_of_mem (List.mem_map_of_mem (List.count x ∘ fun id => unvisited e id (s.node id)) member)

/-! ### One node -/

theorem poolSingleton {e : DAGEngine} {id : String} {n : NodeState} {pc : Pc} (life : Lifecycle e id n)
    (running : pc ∈ n.goroutines) :
    n.goroutines = [pc] ∧ n.launches = 1 ∧ n.locked = false ∧ PcFits e id n pc := by
  unfold Lifecycle at life
  split at life
  · rename_i none; rw [none] at running; cases running
  · rename_i pc' one; rw [one] at running
    obtain rfl := List.mem_singleton.mp running
    exact ⟨one,life⟩
  · exact life.elim

theorem idleOfUnlaunched {e : DAGEngine} {id : String} {n : NodeState} (life : Lifecycle e id n)
    (unlaunched : n.launches = 0) :
    n.goroutines = [] ∧ n.status = .pending ∧ n.invocations = 0 ∧ n.locked = false := by
  unfold Lifecycle at life
  split at life
  · rename_i none
    rcases life with idle | ⟨launch,_⟩
    · exact ⟨none,idle.2⟩
    · omega
  · omega
  · exact life.elim

theorem lifecycleOf {e : DAGEngine} {id : String} {n : NodeState} (pc : Pc) (one : n.goroutines = [pc])
    (launch : n.launches = 1) (unlocked : n.locked = false) (fits : PcFits e id n pc) : Lifecycle e id n := by
  unfold Lifecycle; rw [one]; exact ⟨launch,unlocked,fits⟩

theorem unvisitedOf {e : DAGEngine} {id : String} {n : NodeState} {pc : Pc} (one : n.goroutines = [pc])
    (notVisit : ∀ rest, pc ≠ .visit rest) : unvisited e id n = e.children id := by
  unfold unvisited; rw [one]; cases pc <;> simp_all

section
variable {e : DAGEngine} {s s' : Sched}

theorem memberOfPool (inv : Inv e s) {id : String} {pc : Pc} (running : pc ∈ (s.node id).goroutines) :
    id ∈ e.ids :=
  Classical.byContradiction fun absent => by rw [inv.outside id absent] at running; cases running

theorem poolLeWaitGroup (inv : Inv e s) {id : String} (member : id ∈ e.ids) :
    (s.node id).goroutines.length ≤ s.waitGroup := by
  rw [inv.waitGroup]
  exact List.le_sum_of_mem (List.mem_map_of_mem (fun q => (s.node q).goroutines.length) member)

theorem invNodeStep (fin : Finalised e) (inv : Inv e s) {id : String} (member : id ∈ e.ids)
    (others : ∀ q ≠ id, s'.node q = s.node q)
    (scanNodup : s'.scan.Nodup) (scanIds : ∀ q ∈ s'.scan, q ∈ e.ids)
    (scanOthers : ∀ q ≠ id, (q ∈ s'.scan ↔ q ∈ s.scan))
    (counter : (s'.node id).readyCounter = (s.node id).readyCounter)
    (launched : (s'.node id).launches = 0 ↔
      if e.deps id = [] then id ∈ s'.scan else 0 < (s'.node id).readyCounter)
    (edges : unvisited e id (s'.node id) = unvisited e id (s.node id))
    (life : Lifecycle e id (s'.node id))
    (wg : s'.waitGroup + (s.node id).goroutines.length = s.waitGroup + (s'.node id).goroutines.length)
    (engine : s'.engineLocked = true ↔ ∃ q rest, (s'.node q).goroutines = [.visit rest])
    (one : ∀ a b ra rb, (s'.node a).goroutines = [.visit ra] → (s'.node b).goroutines = [.visit rb] → a = b) :
    Inv e s' := by
  have pending : pendingEdges e s' = pendingEdges e s :=
    flatMapCongr fun q _ => if h : q = id then h ▸ edges else by rw [others q h]
  have pools : (fun q => (s'.node q).goroutines.length) =
      Function.update (fun q => (s.node q).goroutines.length) id (s'.node id).goroutines.length := by
    funext q; by_cases h : q = id
    · subst h; simp
    · simp [h,others q h]
  have sum := sumMapUpdate fin.distinct member (fun q => (s.node q).goroutines.length)
    (s'.node id).goroutines.length
  refine ⟨fun q inside => if h : q = id then h ▸ life else others q h ▸ inv.lifecycle q inside,
    fun q absent => (others q fun h => absent (h ▸ member)) ▸ inv.outside q absent,?_,scanNodup,
    scanIds,fun q inside => ?_,fun q inside => ?_,engine,one⟩
  · have := inv.waitGroup
    rw [pools]; omega
  · rw [pending]
    by_cases h : q = id
    · subst h; rw [counter]; exact inv.ready q inside
    · rw [others q h]; exact inv.ready q inside
  · by_cases h : q = id
    · subst h; exact launched
    · rw [others q h,scanOthers q h]; exact inv.launched q inside

theorem invThreadStep (fin : Finalised e) (inv : Inv e s) {id : String} (member : id ∈ e.ids)
    (others : ∀ q ≠ id, s'.node q = s.node q) (scan : s'.scan = s.scan)
    (launches : (s'.node id).launches = (s.node id).launches)
    (counter : (s'.node id).readyCounter = (s.node id).readyCounter)
    (edges : unvisited e id (s'.node id) = unvisited e id (s.node id))
    (life : Lifecycle e id (s'.node id))
    (wg : s'.waitGroup + (s.node id).goroutines.length = s.waitGroup + (s'.node id).goroutines.length)
    (engine : s'.engineLocked = true ↔ ∃ q rest, (s'.node q).goroutines = [.visit rest])
    (one : ∀ a b ra rb, (s'.node a).goroutines = [.visit ra] → (s'.node b).goroutines = [.visit rb] → a = b) :
    Inv e s' :=
  invNodeStep fin inv member others (scan ▸ inv.scanNodup) (scan ▸ inv.scanIds) (fun _ _ => by rw [scan])
    counter (by rw [launches,counter,scan]; exact inv.launched id member) edges life wg engine one

theorem visitorsKept {id : String} (others : ∀ q ≠ id, s'.node q = s.node q)
    (before : ∀ rest, (s.node id).goroutines ≠ [.visit rest])
    (after : ∀ rest, (s'.node id).goroutines ≠ [.visit rest]) (q : String) (rest : List String) :
    (s'.node q).goroutines = [.visit rest] ↔ (s.node q).goroutines = [.visit rest] := by
  by_cases h : q = id
  · subst h; exact ⟨fun v => absurd v (after rest),fun v => absurd v (before rest)⟩
  · rw [others q h]

theorem invLocalMove (fin : Finalised e) (inv : Inv e s) {id : String} {pc : Pc}
    {f : NodeState → NodeState} (member : id ∈ e.ids) (pool : (s.node id).goroutines = [pc]) (pc' : Pc)
    (pool' : (f (s.node id)).goroutines = [pc']) (outside : ∀ rest, pc ≠ .visit rest)
    (outside' : ∀ rest, pc' ≠ .visit rest) (launches : (f (s.node id)).launches = (s.node id).launches)
    (counter : (f (s.node id)).readyCounter = (s.node id).readyCounter)
    (life : Lifecycle e id (f (s.node id))) : Inv e (s.update id f) := by
  have others : ∀ q ≠ id, (s.update id f).node q = s.node q := fun q h => updateOther _ _ h
  have kept := visitorsKept others (fun rest v => outside rest (by simpa [pool] using v))
    (fun rest v => outside' rest (by simpa [pool'] using v))
  refine invThreadStep fin inv member others rfl (by simpa using launches) (by simpa using counter) ?_
    (by simpa using life) (by simp [pool,pool']) ?_ ?_
  · simp only [updateSelf]; rw [unvisitedOf pool' outside',unvisitedOf pool outside]
  · simp only [updateEngineLocked,kept]; exact inv.engine
  · intro a b ra rb va vb; exact inv.oneVisitor a b ra rb ((kept a ra).mp va) ((kept b rb).mp vb)

theorem invSetRunning (fin : Finalised e) (inv : Inv e s) {id : String}
    (h : step e s (.setRunning id) = some s') : Inv e s' := by
  simp only [step] at h
  split at h
  · rename_i guard
    cases h
    have member := memberOfPool inv guard.1
    obtain ⟨pool,launch,unlocked,status,calls⟩ := poolSingleton (inv.lifecycle id member) guard.1
    exact invLocalMove fin inv member pool .invoke (by simp [NodeState.move,pool])
      (fun _ => by simp) (fun _ => by simp) rfl rfl
      (lifecycleOf .invoke (by simp [NodeState.move,pool]) launch unlocked ⟨rfl,calls⟩)
  · cases h

theorem invExecute (fin : Finalised e) (inv : Inv e s) {id : String}
    (h : step e s (.execute id) = some s') : Inv e s' := by
  simp only [step] at h
  split at h
  · rename_i guard
    cases h
    have member := memberOfPool inv guard
    obtain ⟨pool,launch,unlocked,status,calls⟩ := poolSingleton (inv.lifecycle id member) guard
    refine (invLocalMove (f := fun n => { n.move .invoke .execute with invocations := n.invocations + 1 }) fin inv
      member pool .execute (by simp [NodeState.move,pool]) (fun _ => by simp) (fun _ => by simp) rfl rfl
      (lifecycleOf .execute (by simp [NodeState.move,pool]) launch unlocked ⟨status,by simp [calls]⟩)).logged _
  · cases h

theorem invFinish (fin : Finalised e) (inv : Inv e s) {id : String} {outcome : Except String (List (String × String))}
    (h : step e s (.finish id outcome) = some s') : Inv e s' := by
  simp only [step] at h
  split at h
  · rename_i guard
    have member := memberOfPool inv guard.1
    obtain ⟨pool,launch,unlocked,status,calls⟩ := poolSingleton (inv.lifecycle id member) guard.1
    cases outcome with
    | ok r =>
      cases h
      exact invLocalMove fin inv member pool .trigger (by simp [NodeState.move,pool])
        (fun _ => by simp) (fun _ => by simp) rfl rfl
        (lifecycleOf .trigger (by simp [NodeState.move,pool]) launch unlocked ⟨rfl,calls⟩)
    | error msg =>
      cases h
      have others : ∀ q ≠ id, (s.update id fun n => { n.exit .execute with status := .failed, locked := true }).node q = s.node q :=
        fun q h => updateOther _ _ h
      have kept := visitorsKept others (fun rest v => by simp [pool] at v) (fun rest v => by simp [NodeState.exit,pool] at v)
      refine invThreadStep fin inv member others rfl (by simp [NodeState.exit]) (by simp [NodeState.exit]) ?_ ?_ ?_ ?_ ?_
      · simp [unvisited,NodeState.exit,pool,unvisitedOf pool (fun _ => by simp)]
      · simp only [updateSelf]; unfold Lifecycle; simp [NodeState.exit,pool,launch,calls]
      · have := poolLeWaitGroup inv member
        simp [NodeState.exit,pool] at this ⊢; omega
      · simp only [kept]; exact inv.engine
      · intro a b ra rb va vb; exact inv.oneVisitor a b ra rb ((kept a ra).mp va) ((kept b rb).mp vb)
  · cases h

theorem invLockEngine (fin : Finalised e) (inv : Inv e s) {id : String}
    (h : step e s (.lockEngine id) = some s') : Inv e s' := by
  simp only [step] at h
  split at h
  · rename_i guard
    cases h
    have member := memberOfPool inv guard.1
    obtain ⟨pool,launch,unlocked,status,calls⟩ := poolSingleton (inv.lifecycle id member) guard.1
    have idle : ∀ q rest, (s.node q).goroutines ≠ [.visit rest] := fun q rest v =>
      Bool.false_ne_true (guard.2.symm.trans (inv.engine.mpr ⟨q,rest,v⟩))
    have visitor : ∀ q rest, ((s.update id (NodeState.move .trigger (.visit (e.children id)))).node q).goroutines =
        [.visit rest] → q = id := fun q rest v => Classical.byContradiction fun h => by
      rw [updateOther _ _ h] at v; exact idle q rest v
    refine invThreadStep fin inv member (fun q h => updateOther _ _ h) rfl (by simp [NodeState.move])
      (by simp [NodeState.move]) ?_ ?_ (by simp [NodeState.move,pool])
      ⟨fun _ => ⟨id,e.children id,by simp [NodeState.move,pool]⟩,fun _ => rfl⟩
      fun a b ra rb va vb => (visitor a ra va).trans (visitor b rb vb).symm
    · simp [unvisited,NodeState.move,pool,unvisitedOf pool (fun _ => by simp)]
    · exact lifecycleOf (.visit (e.children id)) (by simp [NodeState.move,pool])
        (by simp [NodeState.move,launch]) (by simp [NodeState.move,unlocked])
        ⟨by simp [NodeState.move,status],by simp [NodeState.move,calls],by simp⟩
  · cases h

theorem invUnlockEngine (fin : Finalised e) (inv : Inv e s) {id : String}
    (h : step e s (.unlockEngine id) = some s') : Inv e s' := by
  simp only [step] at h
  split at h
  · rename_i guard
    cases h
    have member := memberOfPool inv guard
    obtain ⟨pool,launch,unlocked,status,calls,_⟩ := poolSingleton (inv.lifecycle id member) guard
    have gone : ∀ q rest, ((s.update id (NodeState.exit (.visit []))).node q).goroutines ≠ [.visit rest] :=
      fun q rest v => by
        by_cases h : q = id
        · subst h; simp [NodeState.exit,pool] at v
        · rw [updateOther _ _ h] at v; exact h (inv.oneVisitor q id rest [] v pool)
    have := poolLeWaitGroup inv member
    refine invThreadStep fin inv member (fun q h => updateOther _ _ h) rfl (by simp [NodeState.exit])
      (by simp [NodeState.exit]) ?_ ?_ ?_ ⟨fun h => (by cases h),fun ⟨q,rest,v⟩ => absurd v (gone q rest)⟩
      fun a _ ra _ va => absurd va (gone a ra)
    · simp [unvisited,NodeState.exit,pool,status]
    · unfold Lifecycle; simp [NodeState.exit,pool,launch,calls,status,unlocked]
    · simp [NodeState.exit,pool] at this ⊢; omega
  · cases h

theorem invRunVisit (fin : Finalised e) (inv : Inv e s) {id : String}
    (h : step e s (.runVisit id) = some s') : Inv e s' := by
  simp only [step] at h
  split at h
  · rename_i scanned
    cases h
    have member := inv.scanIds id scanned
    have nodup := inv.scanNodup.erase id
    have scanIds : ∀ q ∈ s.scan.erase id, q ∈ e.ids := fun q inside => inv.scanIds q (List.mem_of_mem_erase inside)
    have scanOthers : ∀ q ≠ id, (q ∈ s.scan.erase id ↔ q ∈ s.scan) := fun q h => List.mem_erase_of_ne h
    have gone : id ∉ s.scan.erase id := fun inside => ((inv.scanNodup.mem_erase_iff).mp inside).1 rfl
    split
    · rename_i root
      have unlaunched := (inv.launched id member).mpr (by simp [root,scanned])
      obtain ⟨pool,status,calls,unlocked⟩ := idleOfUnlaunched (inv.lifecycle id member) unlaunched
      have kept := @visitorsKept s ({ s with scan := s.scan.erase id }.spawn id) id
        (fun q h => spawnOther _ h) (fun rest v => by simp [pool] at v) (fun rest v => by simp [pool] at v)
      refine invNodeStep fin inv member (fun q h => spawnOther _ h) nodup scanIds scanOthers (by simp)
        ?_ ?_ ?_ ?_ ?_ ?_
      · simp [root,gone]
      · simp [unvisited,pool,status]
      · exact lifecycleOf .start (by simp [pool]) (by simp [unlaunched]) (by simp [unlocked])
          ⟨by simp [status],by simp [calls]⟩
      · simp [pool]
      · simp only [spawnEngineLocked,kept]; exact inv.engine
      · intro a b ra rb va vb; exact inv.oneVisitor a b ra rb ((kept a ra).mp va) ((kept b rb).mp vb)
    · rename_i nonRoot
      refine invNodeStep fin inv member (fun _ _ => rfl) nodup scanIds scanOthers rfl ?_ rfl
        (inv.lifecycle id member) (by simp) inv.engine inv.oneVisitor
      simp only [nonRoot,if_false]; exact (inv.launched id member).trans (by simp [nonRoot])
  · cases h

theorem invRunReturn (inv : Inv e s) (h : step e s .runReturn = some s') : Inv e s' := by
  simp only [step] at h
  split at h
  · cases h; exact ⟨inv.1,inv.2,inv.3,inv.4,inv.5,inv.6,inv.7,inv.8,inv.9⟩
  · cases h

theorem invCancel (inv : Inv e s) (h : step e s .cancel = some s') : Inv e s' := by
  simp only [step] at h
  split at h
  · cases h
  · cases h; exact ⟨inv.1,inv.2,inv.3,inv.4,inv.5,inv.6,inv.7,inv.8,inv.9⟩

theorem dependsOfChild (fin : Finalised e) {p c : String} (child : c ∈ e.children p) : p ∈ e.deps c := by
  have positive : 0 < (e.deps c).count p := fin.linked p c ▸ List.count_pos_iff.mpr child
  exact List.count_pos_iff.mp positive

theorem countPendingUpdate (fin : Finalised e) {id : String} (member : id ∈ e.ids)
    (others : ∀ q ≠ id, unvisited e q (s'.node q) = unvisited e q (s.node q)) (x : String) :
    (pendingEdges e s').count x + (unvisited e id (s.node id)).count x =
      (pendingEdges e s).count x + (unvisited e id (s'.node id)).count x := by
  have shape : (List.count x ∘ fun q => unvisited e q (s'.node q)) =
      Function.update (List.count x ∘ fun q => unvisited e q (s.node q)) id
        ((unvisited e id (s'.node id)).count x) := by
    funext q; by_cases h : q = id
    · subst h; simp
    · simp [h,others q h]
  rw [pendingEdges,pendingEdges,List.count_flatMap,List.count_flatMap,shape]
  exact sumMapUpdate fin.distinct member _ _

theorem visitedChildIdle (fin : Finalised e) (inv : Inv e s) {id c : String} {rest : List String}
    (pool : (s.node id).goroutines = [.visit (c :: rest)]) :
    c ∈ e.ids ∧ c ≠ id ∧ e.deps c ≠ [] ∧ 0 < (s.node c).readyCounter ∧
      (s.node c).goroutines = [] ∧ (s.node c).status = .pending ∧ (s.node c).invocations = 0 ∧
      (s.node c).locked = false ∧ (s.node c).launches = 0 := by
  have member := memberOfPool inv (pool ▸ List.mem_singleton_self _)
  obtain ⟨-,-,-,-,-,suffix⟩ := poolSingleton (inv.lifecycle id member) (pool ▸ List.mem_singleton_self _)
  have dep := dependsOfChild fin (suffix.subset (List.mem_cons_self c rest))
  have childMember := DAGEngine.memOfDeps dep
  have positive : 0 < (pendingEdges e s).count c := by
    have := countUnvisitedLe member c (s := s)
    simp only [unvisited,pool,List.count_cons_self] at this; omega
  have counter : 0 < (s.node c).readyCounter := by rw [inv.ready c childMember]; exact_mod_cast positive
  have nonRoot : e.deps c ≠ [] := List.ne_nil_of_mem dep
  have unlaunched := (inv.launched c childMember).mpr (by simp [nonRoot,counter])
  obtain ⟨childPool,idle⟩ := idleOfUnlaunched (inv.lifecycle c childMember) unlaunched
  exact ⟨childMember,fun same => (by rw [same,pool] at childPool; cases childPool),nonRoot,counter,
    childPool,idle.1,idle.2.1,idle.2.2,unlaunched⟩

theorem invVisitBody (fin : Finalised e) (inv : Inv e s) {id c : String} {rest : List String}
    (pool : (s.node id).goroutines = [.visit (c :: rest)])
    (parent : s'.node id = { s.node id with goroutines := [.visit rest] })
    (child : s'.node c = if (s.node c).readyCounter - 1 = 0 then
        { s.node c with readyCounter := 0, goroutines := [.start], launches := 1 }
      else { s.node c with readyCounter := (s.node c).readyCounter - 1 })
    (others : ∀ q, q ≠ id → q ≠ c → s'.node q = s.node q)
    (wg : s'.waitGroup = s.waitGroup + if (s.node c).readyCounter - 1 = 0 then 1 else 0)
    (scan : s'.scan = s.scan) (locked : s'.engineLocked = s.engineLocked) : Inv e s' := by
  have member := memberOfPool inv (pool ▸ List.mem_singleton_self _)
  obtain ⟨-,launch,unlocked,status,calls,suffix⟩ :=
    poolSingleton (inv.lifecycle id member) (pool ▸ List.mem_singleton_self _)
  obtain ⟨childMember,different,nonRoot,counter,childPool,childStatus,childCalls,childUnlocked,unlaunched⟩ :=
    visitedChildIdle fin inv pool
  have childEdges : unvisited e c (s'.node c) = unvisited e c (s.node c) := by
    rw [child]; split <;> simp [unvisited,childPool,childStatus]
  have edges : ∀ q ≠ id, unvisited e q (s'.node q) = unvisited e q (s.node q) := fun q h =>
    if hc : q = c then hc ▸ childEdges else by rw [others q h hc]
  have count := countPendingUpdate fin member edges
  have visitor : ∀ a ra, (s'.node a).goroutines = [.visit ra] → a = id := fun a ra v => by
    by_cases ha : a = id
    · exact ha
    · by_cases hc : a = c
      · subst hc; rw [child] at v; split at v <;> simp [childPool] at v
      · rw [others a ha hc] at v; exact inv.oneVisitor a id ra (c :: rest) v pool
  have lengths : (fun q => (s'.node q).goroutines.length) = Function.update
      (fun q => (s.node q).goroutines.length) c (if (s.node c).readyCounter - 1 = 0 then 1 else 0) := by
    funext q
    by_cases hc : q = c
    · subst hc; rw [child]; split <;> simp [*]
    · by_cases ha : q = id
      · subst ha; simp [hc,parent,pool]
      · simp [hc,others q ha hc]
  refine ⟨fun q inside => ?_,fun q absent => ?_,?_,scan ▸ inv.scanNodup,scan ▸ inv.scanIds,
    fun q inside => ?_,fun q inside => ?_,?_,fun a b ra rb va vb => (visitor a ra va).trans (visitor b rb vb).symm⟩
  · by_cases ha : q = id
    · subst ha; rw [parent]
      exact lifecycleOf (.visit rest) rfl launch unlocked
        ⟨status,calls,(List.suffix_cons c rest).trans suffix⟩
    · by_cases hc : q = c
      · subst hc; rw [child]
        split
        · exact lifecycleOf .start rfl rfl childUnlocked ⟨childStatus,childCalls⟩
        · unfold Lifecycle; simp [childPool,unlaunched,childStatus,childCalls,childUnlocked]
      · rw [others q ha hc]; exact inv.lifecycle q inside
  · rw [others q (fun h => absent (h ▸ member)) (fun h => absent (h ▸ childMember))]; exact inv.outside q absent
  · have := sumMapUpdate fin.distinct childMember (fun q => (s.node q).goroutines.length)
      (if (s.node c).readyCounter - 1 = 0 then 1 else 0)
    rw [wg,lengths,inv.waitGroup]; simp only [childPool,List.length_nil] at this; omega
  · have := count q
    have ready := inv.ready q inside
    simp only [unvisited,pool,parent,List.count_cons] at this
    by_cases hc : q = c
    · subst hc; rw [child]; simp only [beq_self_eq_true,↓reduceIte] at this
      split <;> (simp only []; omega)
    · have same : (s'.node q).readyCounter = (s.node q).readyCounter := by
        by_cases ha : q = id
        · subst ha; rw [parent]
        · rw [others q ha hc]
      have : (c == q) = false := by simpa using Ne.symm hc
      simp only [this,Bool.false_eq_true,↓reduceIte] at *; omega
  · by_cases hc : q = c
    · subst hc; rw [child]
      split
      · simp [nonRoot]
      · simp only [nonRoot,if_false,unlaunched,true_iff]; omega
    · by_cases ha : q = id
      · subst ha; rw [parent,scan]; exact inv.launched q inside
      · rw [others q ha hc,scan]; exact inv.launched q inside
  · rw [locked]; exact ⟨fun _ => ⟨id,rest,by rw [parent]⟩,fun _ => inv.engine.mpr ⟨id,_,pool⟩⟩

theorem invVisitChild (fin : Finalised e) (inv : Inv e s) {id c : String} {rest : List String}
    (h : step e s (.visitChild id c rest) = some s') : Inv e s' := by
  simp only [step] at h
  split at h
  · rename_i guard
    have member := memberOfPool inv guard
    obtain ⟨pool,-⟩ := poolSingleton (inv.lifecycle id member) guard
    obtain ⟨childMember,different,-,-,childPool,childStatus,-,childUnlocked,unlaunched⟩ :=
      visitedChildIdle fin inv pool
    simp only [decrementChild,if_pos childMember,childUnlocked,Bool.false_eq_true,if_false,updateSelf,
      childStatus,and_true] at h
    split at h <;> simp only [Option.map_some',Option.some.injEq] at h <;> subst h <;> rename_i zero
    · refine invVisitBody fin inv pool ?_ ?_ (fun q ha hc => by simp [ha,hc]) (by simp [zero]) rfl rfl
      · simp [NodeState.move,pool,Ne.symm different]
      · simp [different,zero,childPool,unlaunched]
    · refine invVisitBody fin inv pool ?_ ?_ (fun q ha hc => by simp [ha,hc]) (by simp [zero]) rfl rfl
      · simp [NodeState.move,pool,Ne.symm different]
      · simp [different,zero]
  · cases h

theorem invStep (fin : Finalised e) (inv : Inv e s) {a : Action} (h : step e s a = some s') : Inv e s' := by
  cases a with
  | runVisit id => exact invRunVisit fin inv h
  | runReturn => exact invRunReturn inv h
  | cancel => exact invCancel inv h
  | setRunning id => exact invSetRunning fin inv h
  | execute id => exact invExecute fin inv h
  | finish id outcome => exact invFinish fin inv h
  | lockEngine id => exact invLockEngine fin inv h
  | visitChild id c rest => exact invVisitChild fin inv h
  | unlockEngine id => exact invUnlockEngine fin inv h

theorem invRun (fin : Finalised e) {trace : List Action} (inv : Inv e s) (h : run e s trace = some s') :
    Inv e s' := by
  induction trace generalizing s with
  | nil => cases h; exact inv
  | cons a trace ih =>
    simp only [run,Option.bind_eq_some] at h
    obtain ⟨mid,first,rest⟩ := h
    exact ih (invStep fin inv first) rest

theorem initNodeOf (fin : Finalised e) {n : Node} (member : n ∈ e.nodes) :
    (Sched.init e).node n.id = NodeState.ofNode n := by
  simp [Sched.init,DAGEngine.findSome fin.distinct member]

theorem initNodeAbsent {id : String} (absent : id ∉ e.ids) : (Sched.init e).node id = NodeState.absent := by
  simp [Sched.init,DAGEngine.findNone absent]

theorem initPool (id : String) : ((Sched.init e).node id).goroutines = [] := by
  simp only [Sched.init]; cases e.find? id <;> rfl

theorem invInit (fin : Finalised e) : Inv e (Sched.init e) := by
  have atId : ∀ id ∈ e.ids, ∃ n, (Sched.init e).node id = NodeState.ofNode n ∧ n.status = .pending ∧
      n.readyCounter = (e.deps id).length := by
    intro id member
    obtain ⟨n,inNodes,rfl⟩ := List.mem_map.mp member
    exact ⟨n,initNodeOf fin inNodes,(fin.fresh n inNodes).1,
      by rw [(fin.fresh n inNodes).2,DAGEngine.depsOfMem fin.distinct inNodes]⟩
  have edges : pendingEdges e (Sched.init e) = e.ids.flatMap e.children :=
    flatMapCongr fun id member => by
      obtain ⟨n,node,status,_⟩ := atId id member
      simp [unvisited,node,NodeState.ofNode,status]
  refine ⟨fun id member => ?_,fun id absent => initNodeAbsent absent,by simp [initPool],fin.distinct,
    fun _ h => h,fun id member => ?_,fun id member => ?_,by simp [initPool],
    fun a _ ra _ va => by simp [initPool] at va⟩
  · obtain ⟨n,node,status,_⟩ := atId id member
    unfold Lifecycle; simp [node,NodeState.ofNode,status]
  · obtain ⟨n,node,_,counter⟩ := atId id member
    have mirror : e.ids.map (List.count id ∘ e.children) = e.ids.map fun p => (e.deps id).count p :=
      List.map_congr_left fun p _ => fin.linked p id
    rw [node,edges,List.count_flatMap,mirror,sumCounts fin.distinct (fin.closed id)]
    exact counter
  · obtain ⟨n,node,_,counter⟩ := atId id member
    rw [node]
    by_cases root : e.deps id = []
    · simp [NodeState.ofNode,root,member]
    · simp [NodeState.ofNode,root,counter,List.length_pos.mpr root]

theorem invReachable (fin : Finalised e) (reach : Reachable e s) : Inv e s :=
  let ⟨_,h⟩ := reach; invRun fin (invInit fin) h

end

end Workflows.DagRun
