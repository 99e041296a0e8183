import Mathlib.Data.List.Nodup
import Workflows.DispatchCounts
/-! The discovery callback keeps the orchestrator's engine map and the balancer in step. After
each `onChange`, the ids of `o.engines`, the ids `ListEngines` returns and the ids of the
snapshot are one set, and for each id the balancer's capacity is `o.engines[id].Capacity`,
the capacity of the snapshot's last entry with that id. The other steps of the orchestrator
touch neither engines nor capacities, so this holds over every history, for both balancers. -/
namespace Workflows.Dispatch
open Balancer

def newLoadBalancer (loadBalancerType : String) : Except String LoadBalancer :=
  if loadBalancerType = "consistent-hash" then .ok (.consistentHash newConsistentHashLoadBalancer)
  else if loadBalancerType = "round-robin" then .ok (.roundRobin newRoundRobinLoadBalancer)
  else .error ("unsupported load balancer type: " ++ loadBalancerType)

/-- `engineID` is among the ids `ListEngines` returns: the keys of `capacities` for consistent
hashing, the `engines` slice for round robin. Go returns them in no fixed order. -/
def LoadBalancer.listsEngine : LoadBalancer → String → Bool
  | .consistentHash lb, engineID => (lb.capacities engineID).isSome
  | .roundRobin lb, engineID => decide (engineID ∈ lb.listEngines)

def LoadBalancer.getEngineCapacity : LoadBalancer → String → Except String Int
  | .consistentHash lb, engineID => lb.getEngineCapacity engineID
  | .roundRobin lb, engineID => lb.getEngineCapacity engineID

def LoadBalancer.Distinct : LoadBalancer → Prop
  | .consistentHash _ => True
  | .roundRobin lb => lb.engines.Nodup

def lastCapacity (found : List EngineInfo) (engineID : String) : Option Int :=
  (found.reverse.find? (·.id == engineID)).map (·.capacity)

theorem lastCapacityCons (x : EngineInfo) (found : List EngineInfo) (e : String) :
    lastCapacity (x :: found) e = (lastCapacity found e).or (if x.id = e then some x.capacity else none) := by
  simp only [lastCapacity,List.reverse_cons,List.find?_append]
  cases found.reverse.find? (·.id == e) with
  | some y => rfl
  | none => by_cases h : x.id = e <;> simp [h]

theorem lastCapacityIsSome (found : List EngineInfo) (e : String) :
    (lastCapacity found e).isSome ↔ e ∈ found.map (·.id) := by
  simp [lastCapacity,List.find?_isSome]

/-! ### `o.engines` as a Go map -/

theorem knownIffLookup (o : Orchestrator) (e : String) : e ∈ o.known ↔ (o.engines.lookup e).isSome := by
  simp only [Orchestrator.known,List.mem_map,List.lookup_isSome_iff,beq_iff_eq]
  exact ⟨fun ⟨p,inside,same⟩ => ⟨p,inside,same.symm⟩,fun ⟨p,inside,same⟩ => ⟨p,inside,same.symm⟩⟩

theorem lookupCons (k e : String) (v : Int) (l : List (String × Int)) :
    ((k,v) :: l).lookup e = if e = k then some v else l.lookup e := by
  by_cases h : e = k
  · subst h; simp
  · simp [List.lookup_cons,beq_false_of_ne h,h]

theorem lookupSetCapacity (l : List (String × Int)) (id e : String) (capacity : Int) :
    (l.map fun p => if p.1 = id then (p.1,capacity) else p).lookup e =
      if e = id then (l.lookup e).map fun _ => capacity else l.lookup e := by
  induction l with
  | nil => split <;> rfl
  | cons p l ih =>
    obtain ⟨k,v⟩ := p
    by_cases he : e = id
    · subst he; by_cases hk : k = e <;> simp [lookupCons,hk,ih,Ne.symm]
    · by_cases hk : k = id <;> simp [lookupCons,hk,he,ih]

theorem lookupAppendFresh {l : List (String × Int)} {id : String} (fresh : l.lookup id = none) (capacity : Int)
    (e : String) : (l ++ [(id,capacity)]).lookup e = if e = id then some capacity else l.lookup e := by
  rw [List.lookup_append]
  by_cases he : e = id
  · subst he; simp [fresh]
  · cases l.lookup e <;> simp [lookupCons,he]

theorem lookupFilter (l : List (String × Int)) (id e : String) :
    (l.filter (·.1 != id)).lookup e = if e = id then none else l.lookup e := by
  induction l with
  | nil => split <;> rfl
  | cons p l ih =>
    obtain ⟨k,v⟩ := p
    by_cases he : e = id
    · subst he
      by_cases hk : k = e
      · simp [List.filter_cons,hk,ih]
      · simp [lookupCons,List.filter_cons,hk,Ne.symm hk,ih]
    · by_cases hk : k = id <;> simp [lookupCons,List.filter_cons,hk,he,ih]

/-! ### The balancer calls of `onChange` -/

section
variable {b : LoadBalancer} {id : String}

theorem addFresh (fresh : b.listsEngine id = false) (distinct : b.Distinct) (capacity : Int) :
    (b.addEngine id capacity).Distinct ∧ ∀ e,
      (b.addEngine id capacity).listsEngine e = (b.listsEngine e || decide (e = id)) ∧
      (b.addEngine id capacity).getEngineCapacity e = if e = id then .ok capacity else b.getEngineCapacity e := by
  cases b with
  | consistentHash lb =>
    refine ⟨trivial,fun e => ?_⟩
    by_cases he : e = id <;>
      simp [he,LoadBalancer.addEngine,LoadBalancer.listsEngine,LoadBalancer.getEngineCapacity,
        ConsistentHashLoadBalancer.addEngine,ConsistentHashLoadBalancer.getEngineCapacity]
  | roundRobin lb =>
    have absent : id ∉ lb.engines := by simpa [LoadBalancer.listsEngine,RoundRobinLoadBalancer.listEngines] using fresh
    simp only [LoadBalancer.addEngine,RoundRobinLoadBalancer.addEngine,absent,if_false,orKeep]
    have distinct : lb.engines.Nodup := distinct
    refine ⟨distinct.append (List.nodup_singleton _) (List.disjoint_singleton.mpr absent),fun e => ?_⟩
    by_cases he : e = id
    · subst he; simp [LoadBalancer.listsEngine,LoadBalancer.getEngineCapacity,RoundRobinLoadBalancer.listEngines,
        RoundRobinLoadBalancer.getEngineCapacity]
    · simp [he,LoadBalancer.listsEngine,LoadBalancer.getEngineCapacity,RoundRobinLoadBalancer.listEngines,
        RoundRobinLoadBalancer.getEngineCapacity]

theorem updateListed {old : Int} (listed : b.getEngineCapacity id = .ok old) (capacity : Int) :
    (b.Distinct → (b.updateEngineCapacity id capacity).Distinct) ∧ ∀ e,
      (b.updateEngineCapacity id capacity).listsEngine e = b.listsEngine e ∧
      (b.updateEngineCapacity id capacity).getEngineCapacity e = if e = id then .ok capacity else b.getEngineCapacity e := by
  cases b with
  | consistentHash lb =>
    have known : lb.capacities id = some old := by
      simp only [LoadBalancer.getEngineCapacity,ConsistentHashLoadBalancer.getEngineCapacity] at listed
      split at listed <;> simp_all
    simp only [LoadBalancer.updateEngineCapacity,ConsistentHashLoadBalancer.updateEngineCapacity,known,
      Option.isNone_some,Bool.false_eq_true,if_false,orKeep]
    refine ⟨fun d => d,fun e => ?_⟩
    by_cases he : e = id
    · subst he; simp [known,LoadBalancer.listsEngine,LoadBalancer.getEngineCapacity,
        ConsistentHashLoadBalancer.getEngineCapacity]
    · simp [he,LoadBalancer.listsEngine,LoadBalancer.getEngineCapacity,ConsistentHashLoadBalancer.getEngineCapacity]
  | roundRobin lb =>
    have known : lb.capacities id = some old := by
      simp only [LoadBalancer.getEngineCapacity,RoundRobinLoadBalancer.getEngineCapacity] at listed
      split at listed <;> simp_all
    simp only [LoadBalancer.updateEngineCapacity,RoundRobinLoadBalancer.updateEngineCapacity,known,
      Option.isNone_some,Bool.false_eq_true,if_false,orKeep]
    refine ⟨fun d => d,fun e => ?_⟩
    by_cases he : e = id
    · subst he; simp [LoadBalancer.listsEngine,LoadBalancer.getEngineCapacity,RoundRobinLoadBalancer.getEngineCapacity,
        RoundRobinLoadBalancer.listEngines]
    · simp [he,LoadBalancer.listsEngine,LoadBalancer.getEngineCapacity,RoundRobinLoadBalancer.getEngineCapacity,
        RoundRobinLoadBalancer.listEngines]

theorem removeAny (distinct : b.Distinct) :
    (b.removeEngine id).Distinct ∧ ∀ e,
      (b.removeEngine id).listsEngine e = (b.listsEngine e && decide (e ≠ id)) ∧
      (e ≠ id → (b.removeEngine id).getEngineCapacity e = b.getEngineCapacity e) := by
  cases b with
  | consistentHash lb =>
    refine ⟨trivial,fun e => ?_⟩
    by_cases he : e = id
    · subst he; simp [LoadBalancer.removeEngine,LoadBalancer.listsEngine,ConsistentHashLoadBalancer.removeEngine]
    · simp [he,LoadBalancer.removeEngine,LoadBalancer.listsEngine,LoadBalancer.getEngineCapacity,
        ConsistentHashLoadBalancer.removeEngine,ConsistentHashLoadBalancer.getEngineCapacity]
  | roundRobin lb =>
    by_cases member : id ∈ lb.engines
    · simp only [LoadBalancer.removeEngine,RoundRobinLoadBalancer.removeEngine,member,if_true,orKeep]
      refine ⟨List.Nodup.erase id distinct,fun e => ?_⟩
      by_cases he : e = id
      · subst he; simp [LoadBalancer.listsEngine,RoundRobinLoadBalancer.listEngines,List.Nodup.mem_erase_iff distinct]
      · simp [he,LoadBalancer.listsEngine,LoadBalancer.getEngineCapacity,RoundRobinLoadBalancer.listEngines,
          RoundRobinLoadBalancer.getEngineCapacity,List.Nodup.mem_erase_iff distinct]
    · simp only [LoadBalancer.removeEngine,RoundRobinLoadBalancer.removeEngine,member,if_false,orKeep]
      refine ⟨distinct,fun e => ⟨?_,fun _ => trivial⟩⟩
      by_cases he : e = id
      · subst he; simp [LoadBalancer.listsEngine,RoundRobinLoadBalancer.listEngines,member]
      · simp [he]

end

/-! ### Agreement -/

structure Agreed (o : Orchestrator) : Prop where
  lists : ∀ e, o.loadBalancer.listsEngine e = (o.engines.lookup e).isSome
  capacity : ∀ e c, o.engines.lookup e = some c → o.loadBalancer.getEngineCapacity e = .ok c
  distinct : o.loadBalancer.Distinct

theorem agreedNew {loadBalancerType : String} {lb : LoadBalancer} (built : newLoadBalancer loadBalancerType = .ok lb) :
    Agreed (newOrchestrator lb) := by
  unfold newLoadBalancer at built
  split_ifs at built <;> cases built
  · exact ⟨fun e => rfl,fun e c found => (by cases found),trivial⟩
  · exact ⟨fun e => rfl,fun e c found => (by cases found),List.nodup_nil⟩

theorem discoverAgreed {o : Orchestrator} (agreed : Agreed o) (info : EngineInfo) :
    Agreed (o.discover info) ∧
      ∀ e, (o.discover info).engines.lookup e = if e = info.id then some info.capacity else o.engines.lookup e := by
  unfold Orchestrator.discover
  split
  · rename_i present
    have listed : (o.engines.lookup info.id).isSome := by
      obtain ⟨p,inside,same⟩ := List.any_eq_true.mp present
      exact List.lookup_isSome_iff.mpr ⟨p,inside,beq_iff_eq.mpr (beq_iff_eq.mp same).symm⟩
    obtain ⟨old,found⟩ := Option.isSome_iff_exists.mp listed
    obtain ⟨distinct,kept⟩ := updateListed (agreed.capacity _ _ found) info.capacity
    have lookups : ∀ e, (o.engines.map fun p => if p.1 = info.id then (p.1,info.capacity) else p).lookup e =
        if e = info.id then some info.capacity else o.engines.lookup e := fun e => by
      rw [lookupSetCapacity]; split
      · subst_vars; rw [found]; rfl
      · rfl
    refine ⟨⟨fun e => ?_,fun e c now => ?_,distinct agreed.distinct⟩,lookups⟩
    · rw [(kept e).1,lookups,agreed.lists]; split
      · subst_vars; rw [found]; rfl
      · rfl
    · rw [(kept e).2]; rw [lookups] at now
      split at now
      · cases now; exact if_pos ‹_›
      · rw [if_neg ‹_›]; exact agreed.capacity e c now
  · rename_i absent
    have fresh : o.engines.lookup info.id = none := List.lookup_eq_none_iff.mpr fun p inside =>
      bne_iff_ne.mpr fun same => absent (List.any_eq_true.mpr ⟨p,inside,by simp [same]⟩)
    obtain ⟨distinct,added⟩ := addFresh (by rw [agreed.lists,fresh]; rfl) agreed.distinct info.capacity
    refine ⟨⟨fun e => ?_,fun e c now => ?_,distinct⟩,lookupAppendFresh fresh info.capacity⟩
    · rw [(added e).1,lookupAppendFresh fresh,agreed.lists]
      by_cases he : e = info.id
      · subst he; simp [fresh]
      · simp [he]
    · rw [(added e).2]; rw [lookupAppendFresh fresh] at now
      split at now
      · cases now; exact if_pos ‹_›
      · rw [if_neg ‹_›]; exact agreed.capacity e c now

theorem forgetAgreed {o : Orchestrator} (agreed : Agreed o) (engineID : String) :
    Agreed (o.forget engineID) ∧
      ∀ e, (o.forget engineID).engines.lookup e = if e = engineID then none else o.engines.lookup e := by
  obtain ⟨distinct,removed⟩ := @removeAny o.loadBalancer engineID agreed.distinct
  have lookups := lookupFilter o.engines engineID
  refine ⟨⟨fun e => ?_,fun e c now => ?_,distinct⟩,lookups⟩
  · simp only [Orchestrator.forget]
    rw [(removed e).1,lookups,agreed.lists]
    by_cases he : e = engineID <;> simp [he]
  · simp only [Orchestrator.forget] at now ⊢
    rw [lookups] at now
    split at now
    · cases now
    · rw [(removed e).2 ‹_›]; exact agreed.capacity e c now

theorem discoverAll {o : Orchestrator} (agreed : Agreed o) (found : List EngineInfo) :
    Agreed (found.foldl Orchestrator.discover o) ∧
      ∀ e, (found.foldl Orchestrator.discover o).engines.lookup e = (lastCapacity found e).or (o.engines.lookup e) := by
  induction found generalizing o with
  | nil => exact ⟨agreed,fun e => by simp [lastCapacity]⟩
  | cons x found ih =>
    obtain ⟨next,lookups⟩ := discoverAgreed agreed x
    obtain ⟨last,lookups'⟩ := ih next
    refine ⟨last,fun e => ?_⟩
    rw [List.foldl_cons,lookups',lookups,lastCapacityCons,Option.or_assoc]
    by_cases he : e = x.id
    · subst he; simp
    · simp [he,Ne.symm he]

theorem forgetAll {o : Orchestrator} (agreed : Agreed o) (ids : List String) :
    Agreed (ids.foldl Orchestrator.forget o) ∧
      ∀ e, (ids.foldl Orchestrator.forget o).engines.lookup e = if e ∈ ids then none else o.engines.lookup e := by
  induction ids generalizing o with
  | nil => exact ⟨agreed,fun e => by simp⟩
  | cons x ids ih =>
    obtain ⟨next,lookups⟩ := forgetAgreed agreed x
    obtain ⟨last,lookups'⟩ := ih next
    refine ⟨last,fun e => ?_⟩
    rw [List.foldl_cons,lookups',lookups]
    by_cases hx : e = x <;> by_cases hs : e ∈ ids <;> simp [hx,hs]

theorem onChangeAgreed {o : Orchestrator} (agreed : Agreed o) (found : List EngineInfo) :
    Agreed (o.onChange found) ∧ ∀ e, (o.onChange found).engines.lookup e = lastCapacity found e := by
  obtain ⟨discovered,lookups⟩ := discoverAll agreed found
  obtain ⟨forgotten,lookups'⟩ := forgetAll discovered
    (((found.foldl Orchestrator.discover o).engines.filter fun e => !found.any (·.id == e.1)).map (·.1))
  refine ⟨forgotten,fun e => ?_⟩
  simp only [Orchestrator.onChange]
  rw [lookups',lookups]
  cases last : lastCapacity found e with
  | some c =>
    have listed : e ∈ found.map (·.id) := (lastCapacityIsSome found e).mp (by rw [last]; rfl)
    rw [if_neg fun dropped => ?_]; rfl
    obtain ⟨p,inside,rfl⟩ := List.mem_map.mp dropped
    simp only [List.mem_filter,Bool.not_eq_true',List.any_eq_false,beq_iff_eq] at inside
    obtain ⟨info,infoIn,same⟩ := List.mem_map.mp listed
    exact inside.2 info infoIn same
  | none =>
    have unlisted : e ∉ found.map (·.id) := fun listed =>
      by simpa [last] using (lastCapacityIsSome found e).mpr listed
    cases old : o.engines.lookup e with
    | none => split <;> rfl
    | some c =>
      rw [if_pos]
      refine List.mem_map.mpr ⟨(e,c),List.mem_filter.mpr ⟨?_,?_⟩,rfl⟩
      · have := lookups e
        rw [last,old] at this
        obtain ⟨l₁,l₂,shape,-⟩ := List.lookup_eq_some_iff.mp this
        rw [shape]; simp
      · simpa using fun info infoIn same => unlisted (List.mem_map.mpr ⟨info,infoIn,same⟩)

/-! ### Every history -/

def LoadBalancer.SameEngines (b b' : LoadBalancer) : Prop :=
  b'.listsEngine = b.listsEngine ∧ b'.getEngineCapacity = b.getEngineCapacity ∧ (b.Distinct → b'.Distinct)

theorem sameEnginesRefl (b : LoadBalancer) : b.SameEngines b := ⟨rfl,rfl,fun d => d⟩

theorem selectEngineKeeps {lb lb' : RoundRobinLoadBalancer} {key : String} {r : Except String String}
    (h : lb.selectEngine key = some (r,lb')) : (LoadBalancer.roundRobin lb).SameEngines (.roundRobin lb') := by
  simp only [RoundRobinLoadBalancer.selectEngine] at h
  split at h
  · cases h; exact sameEnginesRefl _
  · obtain ⟨_,-,same⟩ := Option.map_eq_some'.mp h
    cases same; exact sameEnginesRefl _

theorem decrementKeeps (lb : ConsistentHashLoadBalancer) (engineID : String) :
    (LoadBalancer.consistentHash lb).SameEngines (.consistentHash (lb.decrementActiveWorkflows engineID)) := by
  unfold ConsistentHashLoadBalancer.decrementActiveWorkflows; dsimp only; split
  · exact sameEnginesRefl _
  · exact sameEnginesRefl _

theorem stepKeepsEngines {o o' : Orchestrator} {a : Action} (notChange : ∀ found, a ≠ .onChange found)
    (h : step o a = some o') : o'.engines = o.engines ∧ o.loadBalancer.SameEngines o'.loadBalancer := by
  cases a <;> simp only [step,Option.ite_none_left_eq_some] at h <;> obtain ⟨-,h⟩ := h
  case executeWorkflow key engineID =>
    split at h
    · split_ifs at h <;> cases h <;> exact ⟨rfl,sameEnginesRefl _⟩
    · rename_i lb balancer
      split at h
      · cases h; exact ⟨rfl,sameEnginesRefl _⟩
      · cases h; exact ⟨rfl,sameEnginesRefl _⟩
      · rename_i selected; cases h; exact ⟨rfl,balancer ▸ selectEngineKeeps selected⟩
  case abandon call => split at h <;> cases h; exact ⟨rfl,sameEnginesRefl _⟩
  case increment call =>
    split at h
    · split at h
      · rename_i balancer; cases h; exact ⟨rfl,balancer ▸ sameEnginesRefl _⟩
      · cases h; exact ⟨rfl,sameEnginesRefl _⟩
    · cases h
  case finish call =>
    split at h
    · rename_i balancer; cases h; exact ⟨rfl,balancer ▸ decrementKeeps _ _⟩
    · cases h
  case onChange found => exact absurd rfl (notChange found)

theorem stepAgreed {o o' : Orchestrator} (agreed : Agreed o) {a : Action} (h : step o a = some o') : Agreed o' := by
  cases a
  case onChange found =>
    simp only [step,Option.ite_none_left_eq_some,Option.some.injEq] at h
    obtain ⟨-,rfl⟩ := h
    exact (onChangeAgreed agreed found).1
  all_goals
    obtain ⟨engines,lists,capacities,distinct⟩ := stepKeepsEngines (fun _ => by simp) h
    exact ⟨fun e => by rw [lists,engines,agreed.lists],fun e c now => by rw [capacities]; exact agreed.capacity e c (engines ▸ now),
      distinct agreed.distinct⟩

theorem agreedRun {o o' : Orchestrator} {trace : List Action} (agreed : Agreed o) (h : run o trace = some o') : Agreed o' := by
  induction trace generalizing o with
  | nil => cases h; exact agreed
  | cons a trace ih =>
    obtain ⟨mid,first,rest⟩ := Option.bind_eq_some.mp h
    exact ih (stepAgreed agreed first) rest

/-- With either balancer `NewOrchestratorV2` accepts, after any history and then one discovery
callback with the snapshot `found`, the ids of `o.engines`, the ids the balancer lists and the
ids of `found` are the same set, and each id has in `o.engines` and in the balancer the
capacity of the last entry of `found` with that id. -/
theorem onChangeReconciles {loadBalancerType : String} {lb : LoadBalancer} (built : newLoadBalancer loadBalancerType = .ok lb)
    {trace : List Action} {o : Orchestrator} (h : run (newOrchestrator lb) trace = some o) (found : List EngineInfo) :
    (∀ e, e ∈ (o.onChange found).known ↔ e ∈ found.map (·.id)) ∧
    (∀ e, (o.onChange found).loadBalancer.listsEngine e = true ↔ e ∈ found.map (·.id)) ∧
    ∀ e, (o.onChange found).engines.lookup e = lastCapacity found e ∧
      ∀ c, lastCapacity found e = some c → (o.onChange found).loadBalancer.getEngineCapacity e = .ok c := by
  obtain ⟨agreed,lookups⟩ := onChangeAgreed (agreedRun (agreedNew built) h) found
  have ids : ∀ e, e ∈ (o.onChange found).known ↔ e ∈ found.map (·.id) := fun e => by
    rw [knownIffLookup,lookups,lastCapacityIsSome]
  refine ⟨ids,fun e => by rw [agreed.lists,← knownIffLookup,ids],fun e => ⟨lookups e,fun c last => ?_⟩⟩
  exact agreed.capacity e c (by rw [lookups,last])

def twoSnapshots : List Action := [.onChange [⟨"e1",2⟩,⟨"e2",3⟩], .onChange [⟨"e2",4⟩]]

def duplicateSnapshot : List EngineInfo := [⟨"e1",1⟩,⟨"e1",5⟩]

theorem onChangeReconcilesRoundRobin :
    ∃ o, run (newOrchestrator (.roundRobin newRoundRobinLoadBalancer)) twoSnapshots = some o ∧
    (∀ e, e ∈ (o.onChange duplicateSnapshot).known ↔ e ∈ duplicateSnapshot.map (·.id)) ∧
    (∀ e, (o.onChange duplicateSnapshot).loadBalancer.listsEngine e = true ↔ e ∈ duplicateSnapshot.map (·.id)) ∧
    ∀ e, (o.onChange duplicateSnapshot).engines.lookup e = lastCapacity duplicateSnapshot e ∧
      ∀ c, lastCapacity duplicateSnapshot e = some c →
        (o.onChange duplicateSnapshot).loadBalancer.getEngineCapacity e = .ok c :=
  ⟨_,rfl,@onChangeReconciles "round-robin" _ rfl twoSnapshots _ rfl duplicateSnapshot⟩

end Workflows.Dispatch
