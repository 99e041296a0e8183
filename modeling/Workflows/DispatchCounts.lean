import Workflows.Dispatch
/-! The active count the consistent-hash balancer keeps for an engine of its ring never
exceeds the calls in flight to it, and equals them as long as discovery drops no engine.
`RemoveEngine` deletes the count and `AddEngine` restarts it at zero, so an engine that
leaves and comes back while calls to it are in flight has lost them from its count. -/
namespace Workflows.Dispatch
open Balancer

/-! ### The consistent-hash balancer -/

section
variable {lb : ConsistentHashLoadBalancer}

theorem addEngineRing {engineID e : String} {capacity : Int} :
    e ∈ (lb.addEngine engineID capacity).ring ↔ e ∈ lb.ring ∨ e = engineID := by
  unfold ConsistentHashLoadBalancer.addEngine
  split <;> simp_all

theorem addEngineCount (engineID e : String) (capacity : Int) :
    (lb.addEngine engineID capacity).getActiveWorkflows e = if e = engineID then 0 else lb.getActiveWorkflows e := by
  by_cases h : e = engineID <;> simp [ConsistentHashLoadBalancer.addEngine,ConsistentHashLoadBalancer.getActiveWorkflows,h]

theorem removeEngineRing {engineID e : String} (member : e ∈ (lb.removeEngine engineID).ring) : e ∈ lb.ring :=
  List.mem_of_mem_erase member

theorem removeEngineCount (engineID e : String) :
    (lb.removeEngine engineID).getActiveWorkflows e = if e = engineID then 0 else lb.getActiveWorkflows e := by
  by_cases h : e = engineID <;>
    simp [ConsistentHashLoadBalancer.removeEngine,ConsistentHashLoadBalancer.getActiveWorkflows,h]

theorem updateEngineKeeps (engineID : String) (capacity : Int) :
    (orKeep (lb.updateEngineCapacity engineID capacity) lb).ring = lb.ring ∧
      (orKeep (lb.updateEngineCapacity engineID capacity) lb).activeWorkflows = lb.activeWorkflows := by
  by_cases known : (lb.capacities engineID).isNone <;>
    simp [ConsistentHashLoadBalancer.updateEngineCapacity,known,orKeep]

theorem incrementCount (engineID e : String) :
    (lb.incrementActiveWorkflows engineID).getActiveWorkflows e =
      if e = engineID then lb.getActiveWorkflows e + 1 else lb.getActiveWorkflows e := by
  by_cases h : e = engineID <;>
    simp [ConsistentHashLoadBalancer.incrementActiveWorkflows,ConsistentHashLoadBalancer.getActiveWorkflows,h]

theorem decrementRing (engineID : String) : (lb.decrementActiveWorkflows engineID).ring = lb.ring := by
  unfold ConsistentHashLoadBalancer.decrementActiveWorkflows; dsimp only; split <;> rfl

theorem decrementCount (engineID e : String) :
    (lb.decrementActiveWorkflows engineID).getActiveWorkflows e =
      if e = engineID ∧ 0 < lb.getActiveWorkflows e then lb.getActiveWorkflows e - 1 else lb.getActiveWorkflows e := by
  unfold ConsistentHashLoadBalancer.decrementActiveWorkflows ConsistentHashLoadBalancer.getActiveWorkflows
  by_cases h : e = engineID
  · subst h; by_cases positive : 0 < (lb.activeWorkflows e).getD 0 <;> simp [positive]
  · by_cases positive : 0 < (lb.activeWorkflows engineID).getD 0 <;> simp [positive,h]

end

/-! ### Calls -/

theorem countSetCall {calls : List CallPhase} {i : Nat} {p : CallPhase} (found : calls[i]? = some p) (q x : CallPhase) :
    (calls.set i q).count x + (if p = x then 1 else 0) = calls.count x + (if q = x then 1 else 0) := by
  obtain ⟨inside,at_⟩ := List.getElem?_eq_some_iff.mp found
  have present : p = x → 0 < calls.count x := fun same =>
    List.count_pos_iff.mpr (same ▸ List.mem_iff_getElem?.mpr ⟨i,found⟩)
  rw [List.count_set q x calls i inside,at_]
  by_cases hp : p = x
  · have := present hp; simp only [hp,beq_self_eq_true,if_true,beq_iff_eq]; omega
  · simp [hp]

/-! ### `onChange` -/

theorem foldlKeeps {α β : Type} {P : α → Prop} {f : α → β → α} (l : List β) (keep : ∀ a, ∀ b ∈ l, P a → P (f a b)) :
    ∀ a, P a → P (l.foldl f a) := by
  induction l with
  | nil => exact fun _ h => h
  | cons b l ih =>
    intro a h
    exact ih (fun a' b' member => keep a' b' (List.mem_cons_of_mem b member)) _ (keep a b (List.mem_cons_self b l) h)

def Refreshed (lb₀ : ConsistentHashLoadBalancer) (calls₀ : List CallPhase) (o : Orchestrator) : Prop :=
  ∃ lb, o.loadBalancer = .consistentHash lb ∧ o.calls = calls₀ ∧
    ∀ e ∈ lb.ring, lb.getActiveWorkflows e = lb₀.getActiveWorkflows e ∧ e ∈ lb₀.ring ∨ lb.getActiveWorkflows e = 0

theorem refreshedDiscover {lb₀ : ConsistentHashLoadBalancer} {calls₀ : List CallPhase} {o : Orchestrator}
    (info : EngineInfo) (h : Refreshed lb₀ calls₀ o) : Refreshed lb₀ calls₀ (o.discover info) := by
  obtain ⟨lb,balancer,calls,counts⟩ := h
  unfold Orchestrator.discover
  split
  · obtain ⟨ring,active⟩ := @updateEngineKeeps lb info.id info.capacity
    refine ⟨_,by simp only [Orchestrator.discover]; rw [balancer]; rfl,calls,fun e member => ?_⟩
    rw [ring] at member
    simpa [ConsistentHashLoadBalancer.getActiveWorkflows,active] using counts e member
  · refine ⟨_,by rw [balancer]; rfl,calls,fun e member => ?_⟩
    rw [addEngineCount]
    rcases addEngineRing.mp member with old | rfl
    · split
      · exact .inr rfl
      · exact counts e old
    · exact .inr (if_pos rfl)

theorem refreshedForget {lb₀ : ConsistentHashLoadBalancer} {calls₀ : List CallPhase} {o : Orchestrator}
    (engineID : String) (h : Refreshed lb₀ calls₀ o) : Refreshed lb₀ calls₀ (o.forget engineID) := by
  obtain ⟨lb,balancer,calls,counts⟩ := h
  refine ⟨_,by simp only [Orchestrator.forget]; rw [balancer]; rfl,calls,fun e member => ?_⟩
  rw [removeEngineCount]
  split
  · exact .inr rfl
  · exact counts e (removeEngineRing member)

theorem onChangeRefreshes {o : Orchestrator} {lb : ConsistentHashLoadBalancer} (balancer : o.loadBalancer = .consistentHash lb)
    (found : List EngineInfo) : Refreshed lb o.calls (o.onChange found) := by
  have start : Refreshed lb o.calls o := ⟨lb,balancer,rfl,fun e member => .inl ⟨rfl,member⟩⟩
  exact foldlKeeps _ (fun o' engineID _ => refreshedForget engineID) _
    (foldlKeeps found (fun o' info _ => refreshedDiscover info) o start)

/-! ### One step -/

def Orchestrator.routes (o : Orchestrator) (e : String) : Prop :=
  CallPhase.selected e ∈ o.calls ∨ CallPhase.inFlight e ∈ o.calls

theorem countAppendOther (calls : List CallPhase) {p : CallPhase} (notInFlight : ∀ e, p ≠ .inFlight e) (e : String) :
    (calls ++ [p]).count (.inFlight e) = calls.count (.inFlight e) := by
  simp [List.count_singleton,Ne.symm (notInFlight e)]

theorem countMoved {calls : List CallPhase} {i : Nat} {p : CallPhase} (found : calls[i]? = some p) (q : CallPhase)
    (e : String) : (calls.set i q).count (.inFlight e) + (if p = .inFlight e then 1 else 0) =
      calls.count (.inFlight e) + (if q = .inFlight e then 1 else 0) :=
  countSetCall found q (.inFlight e)

theorem routesSet {o : Orchestrator} {i : Nat} {q : CallPhase} (q_ : ∀ e, q ≠ .selected e) {e : String}
    (routed : ({ o with calls := o.calls.set i q } : Orchestrator).routes e) : o.routes e ∨ q = .inFlight e := by
  rcases routed with s | f
  · rcases List.mem_or_eq_of_mem_set s with old | same
    · exact .inl (.inl old)
    · exact absurd same.symm (q_ e)
  · rcases List.mem_or_eq_of_mem_set f with old | same
    · exact .inl (.inr old)
    · exact .inr same.symm

/-- What a step other than `onChange` does to the consistent-hash balancer: ring and engines
stay, a new call is routed to a host of the ring, and for every engine the count less the calls
in flight is kept, but where a call returns while the count is not positive. -/
theorem stepEffect {o o' : Orchestrator} {lb : ConsistentHashLoadBalancer} (balancer : o.loadBalancer = .consistentHash lb)
    {a : Action} (notChange : ∀ found, a ≠ .onChange found) (h : step o a = some o') :
    ∃ lb', o'.loadBalancer = .consistentHash lb' ∧ lb'.ring = lb.ring ∧ o'.engines = o.engines ∧
      (∀ e, o'.routes e → o.routes e ∨ e ∈ lb.ring) ∧
      ∀ e, (0 ≤ lb.getActiveWorkflows e → 0 ≤ lb'.getActiveWorkflows e) ∧
        (lb'.getActiveWorkflows e - o'.inFlight e = lb.getActiveWorkflows e - o.inFlight e ∨
          lb.getActiveWorkflows e ≤ 0 ∧ lb'.getActiveWorkflows e = lb.getActiveWorkflows e ∧
            o'.inFlight e + 1 = o.inFlight e) := by
  unfold step at h
  split at h
  · cases h
  cases a with
  | executeWorkflow key engineID =>
    simp only [balancer] at h
    split_ifs at h with empty member <;> cases h
    · refine ⟨lb,rfl,rfl,rfl,fun e routed => ?_,fun e => ⟨id,.inl ?_⟩⟩
      · exact .inl (by simpa [Orchestrator.routes] using routed)
      · simp [Orchestrator.inFlight,countAppendOther o.calls (p := .returned) nofun e]
    · refine ⟨lb,rfl,rfl,rfl,fun e routed => ?_,fun e => ⟨id,.inl ?_⟩⟩
      · simp only [Orchestrator.routes,List.mem_append,List.mem_singleton,CallPhase.selected.injEq,
          reduceCtorEq,or_false] at routed
        rcases routed with (old | rfl) | old
        · exact .inl (.inl old)
        · exact .inr member
        · exact .inl (.inr old)
      · simp [Orchestrator.inFlight,countAppendOther o.calls (p := .selected engineID) nofun e]
  | abandon call =>
    simp only at h
    split at h
    · rename_i engineID found; cases h
      refine ⟨lb,balancer,rfl,rfl,fun e routed => ?_,fun e => ⟨id,.inl ?_⟩⟩
      · exact .inl ((routesSet (by simp) routed).resolve_right (by simp))
      · have moved := countMoved found .returned e
        simp only [reduceCtorEq,if_false,Nat.add_zero] at moved
        simp [Orchestrator.setCall,Orchestrator.inFlight,moved]
    · cases h
  | increment call =>
    simp only [balancer] at h
    split at h
    · rename_i engineID found; cases h
      refine ⟨_,rfl,rfl,rfl,fun e routed => ?_,fun e => ?_⟩
      · rcases routesSet (o := o) (by simp) routed with old | same
        · exact .inl old
        · cases same; exact .inl (.inl (List.mem_iff_getElem?.mpr ⟨call,found⟩))
      · have moved := countMoved found (.inFlight engineID) e
        simp only [Orchestrator.setCall,Orchestrator.inFlight,incrementCount] at moved ⊢
        by_cases same : e = engineID
        · subst same; simp only [reduceCtorEq,if_false,if_true,Nat.add_zero] at moved ⊢
          exact ⟨by omega,.inl (by omega)⟩
        · simp only [reduceCtorEq,if_false,same,CallPhase.inFlight.injEq,Ne.symm same,Nat.add_zero] at moved ⊢
          exact ⟨id,.inl (by omega)⟩
    · cases h
  | finish call =>
    simp only [balancer] at h
    split at h
    · rename_i engineID lb' found same; cases same; cases h
      refine ⟨_,rfl,decrementRing engineID,rfl,fun e routed => ?_,fun e => ?_⟩
      · exact .inl ((routesSet (by simp) routed).resolve_right (by simp))
      · have moved := countMoved found .returned e
        simp only [Orchestrator.setCall,Orchestrator.inFlight,decrementCount] at moved ⊢
        by_cases same : e = engineID
        · subst same; simp only [reduceCtorEq,if_false,if_true,true_and,Nat.add_zero] at moved ⊢
          split
          · exact ⟨fun _ => by omega,.inl (by omega)⟩
          · exact ⟨id,.inr ⟨by omega,by omega,by omega⟩⟩
        · simp only [reduceCtorEq,if_false,same,CallPhase.inFlight.injEq,Ne.symm same,false_and,
            Nat.add_zero] at moved ⊢
          exact ⟨id,.inl (by omega)⟩
    · cases h
  | onChange found => exact absurd rfl (notChange found)

/-! ### Every history -/

def Below (o : Orchestrator) : Prop :=
  ∃ lb, o.loadBalancer = .consistentHash lb ∧
    ∀ e ∈ lb.ring, 0 ≤ lb.getActiveWorkflows e ∧ lb.getActiveWorkflows e ≤ o.inFlight e

theorem belowStep {o o' : Orchestrator} (below : Below o) {a : Action} (h : step o a = some o') : Below o' := by
  obtain ⟨lb,balancer,bounds⟩ := below
  cases a
  case onChange found =>
    simp only [step,Option.ite_none_left_eq_some,Option.some.injEq] at h
    obtain ⟨-,rfl⟩ := h
    obtain ⟨lb',balancer',calls,counts⟩ := onChangeRefreshes balancer found
    refine ⟨lb',balancer',fun e member => ?_⟩
    simp only [Orchestrator.inFlight,calls]
    rcases counts e member with ⟨same,old⟩ | zero
    · rw [same]; exact bounds e old
    · rw [zero]; exact ⟨by omega,by omega⟩
  all_goals
    obtain ⟨lb',balancer',ring,-,-,counts⟩ := stepEffect balancer (fun _ => by simp) h
    refine ⟨lb',balancer',fun e member => ?_⟩
    have := bounds e (ring ▸ member)
    obtain ⟨nonneg,moved⟩ := counts e
    exact ⟨nonneg this.1,by rcases moved with same | ⟨nonpos,kept,-⟩ <;> omega⟩

theorem belowRun {o o' : Orchestrator} {trace : List Action} (below : Below o) (h : run o trace = some o') : Below o' := by
  induction trace generalizing o with
  | nil => cases h; exact below
  | cons a trace ih =>
    obtain ⟨mid,first,rest⟩ := Option.bind_eq_some.mp h
    exact ih (belowStep below first) rest

/-! ### Histories in which discovery drops no engine -/

def Orchestrator.known (o : Orchestrator) : List String := o.engines.map (·.1)

def Orchestrator.drops (o : Orchestrator) : Action → Bool
  | .onChange found => o.engines.any fun e => !found.any (·.id == e.1)
  | _ => false

def runKeeping (o : Orchestrator) : List Action → Option Orchestrator
  | [] => some o
  | a :: trace => if o.drops a then none else (step o a).bind fun o => runKeeping o trace

def Grown (o₀ : Orchestrator) (lb₀ : ConsistentHashLoadBalancer) (found : List EngineInfo) (o : Orchestrator) : Prop :=
  ∃ lb, o.loadBalancer = .consistentHash lb ∧ o.calls = o₀.calls ∧ (∀ k ∈ o₀.known, k ∈ o.known) ∧
    (∀ k ∈ o.known, k ∈ o₀.known ∨ k ∈ found.map (·.id)) ∧
    ∀ e ∈ lb.ring, lb.getActiveWorkflows e = lb₀.getActiveWorkflows e ∧ e ∈ lb₀.ring ∨
      lb.getActiveWorkflows e = 0 ∧ e ∉ o₀.known ∧ e ∈ o.known

theorem grownDiscover {o₀ o : Orchestrator} {lb₀ : ConsistentHashLoadBalancer} {found : List EngineInfo}
    {info : EngineInfo} (listed : info ∈ found) (h : Grown o₀ lb₀ found o) : Grown o₀ lb₀ found (o.discover info) := by
  obtain ⟨lb,balancer,calls,kept,origin,counts⟩ := h
  unfold Orchestrator.discover
  split
  · rename_i present
    have keys : (o.engines.map fun e => if e.1 = info.id then (e.1,info.capacity) else e).map (·.1) = o.known := by
      simp only [List.map_map,Orchestrator.known]; congr 1; funext e; simp only [Function.comp_apply]; split <;> rfl
    obtain ⟨ring,active⟩ := @updateEngineKeeps lb info.id info.capacity
    refine ⟨_,by rw [balancer]; rfl,calls,fun k old => ?_,fun k now => ?_,fun e member => ?_⟩
    · simpa only [Orchestrator.known,keys] using kept k old
    · exact origin k (by simpa only [Orchestrator.known,keys] using now)
    · rw [ring] at member
      simpa [ConsistentHashLoadBalancer.getActiveWorkflows,active,Orchestrator.known,keys] using counts e member
  · rename_i absent
    have fresh : info.id ∉ o.known := fun member => absent (by
      obtain ⟨e,inside,same⟩ := List.mem_map.mp member
      exact List.any_eq_true.mpr ⟨e,inside,by simp [same]⟩)
    refine ⟨_,by rw [balancer]; rfl,calls,fun k old => ?_,fun k now => ?_,fun e member => ?_⟩
    · simpa [Orchestrator.known] using Or.inl (kept k old)
    · simp only [Orchestrator.known,List.map_append,List.map_cons,List.map_nil,List.mem_append,
        List.mem_singleton] at now
      rcases now with old | rfl
      · exact origin k old
      · exact .inr (List.mem_map_of_mem _ listed)
    · rw [addEngineCount]
      split
      · rename_i same; subst same
        exact .inr ⟨rfl,fun old => fresh (kept _ old),by simp [Orchestrator.known]⟩
      · rename_i other
        rcases counts e ((addEngineRing.mp member).resolve_right other) with old | ⟨zero,new,now⟩
        · exact .inl old
        · exact .inr ⟨zero,new,by simpa [Orchestrator.known] using Or.inl now⟩

theorem onChangeKeeping {o : Orchestrator} {lb : ConsistentHashLoadBalancer} (balancer : o.loadBalancer = .consistentHash lb)
    {found : List EngineInfo} (keeps : o.drops (.onChange found) = false) : Grown o lb found (o.onChange found) := by
  have grown := foldlKeeps (P := Grown o lb found) found (fun o' info listed => grownDiscover listed) o
    ⟨lb,balancer,rfl,fun _ h => h,fun _ h => .inl h,fun e member => .inl ⟨rfl,member⟩⟩
  have listed : ∀ k ∈ o.known, k ∈ found.map (·.id) := by
    intro k member
    obtain ⟨e,inside,rfl⟩ := List.mem_map.mp member
    have hit : found.any (·.id == e.1) = true := by simpa using List.any_eq_false.mp keeps e inside
    obtain ⟨info,infoIn,same⟩ := List.any_eq_true.mp hit
    exact List.mem_map.mpr ⟨info,infoIn,by simpa using same⟩
  have ⟨_,_,_,_,origin,_⟩ := grown
  have noneDropped : ((found.foldl Orchestrator.discover o).engines.filter fun e => !found.any (·.id == e.1)) = [] := by
    refine List.filter_eq_nil_iff.mpr fun e inside => ?_
    obtain ⟨info,infoIn,same⟩ :=
      List.mem_map.mp ((origin e.1 (List.mem_map_of_mem _ inside)).elim (listed e.1) id)
    simpa using ⟨info,infoIn,same⟩
  simpa only [Orchestrator.onChange,noneDropped,List.map_nil,List.foldl_nil] using grown

def Exact (o : Orchestrator) : Prop :=
  ∃ lb, o.loadBalancer = .consistentHash lb ∧ (∀ e ∈ lb.ring, e ∈ o.known) ∧ (∀ e, o.routes e → e ∈ o.known) ∧
    ∀ e ∈ lb.ring, lb.getActiveWorkflows e = o.inFlight e

theorem inFlightZero {o : Orchestrator} {e : String} (unrouted : ¬o.routes e) : o.inFlight e = 0 :=
  List.count_eq_zero.mpr fun inside => unrouted (.inr inside)

theorem exactStep {o o' : Orchestrator} (exact : Exact o) {a : Action} (keeps : o.drops a = false)
    (h : step o a = some o') : Exact o' := by
  obtain ⟨lb,balancer,ringKnown,routesKnown,counts⟩ := exact
  cases a
  case onChange found =>
    simp only [step,Option.ite_none_left_eq_some,Option.some.injEq] at h
    obtain ⟨-,rfl⟩ := h
    obtain ⟨lb',balancer',calls,kept,-,grown⟩ := onChangeKeeping balancer keeps
    have routes : ∀ e, (o.onChange found).routes e ↔ o.routes e := by simp [Orchestrator.routes,calls]
    refine ⟨lb',balancer',fun e member => ?_,fun e routed => kept e (routesKnown e ((routes e).mp routed)),
      fun e member => ?_⟩
    · rcases grown e member with ⟨-,old⟩ | ⟨-,-,now⟩
      · exact kept e (ringKnown e old)
      · exact now
    · rcases grown e member with ⟨same,old⟩ | ⟨zero,new,-⟩
      · rw [same,counts e old]; simp [Orchestrator.inFlight,calls]
      · rw [zero,show (o.onChange found).inFlight e = o.inFlight e by simp [Orchestrator.inFlight,calls],
          inFlightZero fun routed => new (routesKnown e routed)]; rfl
  all_goals
    obtain ⟨lb',balancer',ring,engines,routed,moved⟩ := stepEffect balancer (fun _ => by simp) h
    have known : o'.known = o.known := by simp [Orchestrator.known,engines]
    refine ⟨lb',balancer',fun e member => known ▸ ringKnown e (ring ▸ member),fun e now => ?_,fun e member => ?_⟩
    · rcases routed e now with old | inRing
      · exact known ▸ routesKnown e old
      · exact known ▸ ringKnown e inRing
    · have := counts e (ring ▸ member)
      rcases (moved e).2 with same | ⟨nonpos,-,fewer⟩ <;> omega

theorem exactRunKeeping {o o' : Orchestrator} {trace : List Action} (exact : Exact o) (h : runKeeping o trace = some o') :
    Exact o' := by
  induction trace generalizing o with
  | nil => cases h; exact exact
  | cons a trace ih =>
    simp only [runKeeping] at h
    split at h
    · cases h
    · rename_i keeps
      obtain ⟨mid,first,rest⟩ := Option.bind_eq_some.mp h
      exact ih (exactStep exact (by simpa using keeps) first) rest

def hashOrchestrator : Orchestrator := newOrchestrator (.consistentHash newConsistentHashLoadBalancer)

theorem exactHash : Exact hashOrchestrator :=
  ⟨_,rfl,fun e member => (by cases member),fun e routed => (by rcases routed with member | member <;> cases member),
    fun e member => (by cases member)⟩

/-- With the consistent-hash balancer, over every interleaving of calls and discovery callbacks,
the count the balancer holds for an engine of its ring is at most the calls routed to it that
have incremented and not yet returned; over every history in which discovery drops no engine,
it is exactly that number. -/
theorem activeCountTracksCalls {trace : List Action} {o : Orchestrator} (h : run hashOrchestrator trace = some o) :
    (∃ lb, o.loadBalancer = .consistentHash lb ∧
      ∀ e ∈ lb.ring, 0 ≤ lb.getActiveWorkflows e ∧ lb.getActiveWorkflows e ≤ o.inFlight e) ∧
    (runKeeping hashOrchestrator trace = some o →
      ∃ lb, o.loadBalancer = .consistentHash lb ∧ ∀ e ∈ lb.ring, lb.getActiveWorkflows e = o.inFlight e) := by
  refine ⟨belowRun ⟨_,rfl,fun e member => by cases member⟩ h,fun keeping => ?_⟩
  obtain ⟨lb,balancer,-,-,counts⟩ := exactRunKeeping exactHash keeping
  exact ⟨lb,balancer,counts⟩

def rejoinTrace : List Action :=
  [.onChange [⟨"e",2⟩], .executeWorkflow "wf" "e", .increment 0, .onChange [], .onChange [⟨"e",2⟩]]

theorem activeCountOnRejoin : ∃ o, run hashOrchestrator rejoinTrace = some o ∧
    (∃ lb, o.loadBalancer = .consistentHash lb ∧
      ∀ e ∈ lb.ring, 0 ≤ lb.getActiveWorkflows e ∧ lb.getActiveWorkflows e ≤ o.inFlight e) ∧
    (runKeeping hashOrchestrator rejoinTrace = some o →
      ∃ lb, o.loadBalancer = .consistentHash lb ∧ ∀ e ∈ lb.ring, lb.getActiveWorkflows e = o.inFlight e) :=
  ⟨_,rfl,activeCountTracksCalls rfl⟩

theorem countLostOnRejoin : ∃ o lb, run hashOrchestrator rejoinTrace = some o ∧ o.loadBalancer = .consistentHash lb ∧
    "e" ∈ lb.ring ∧ lb.getActiveWorkflows "e" = 0 ∧ o.inFlight "e" = 1 :=
  ⟨_,_,rfl,rfl,by decide,rfl,rfl⟩

end Workflows.Dispatch
