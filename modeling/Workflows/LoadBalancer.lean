import Mathlib.Data.List.Rotate
/-! The two `LoadBalancer` implementations. Every method runs under `lb.mu`, so a history of
a balancer is a sequence of calls. A Go map with its zero value for a missing key becomes a
function to `Option`. `SelectEngine` of the round-robin balancer indexes `lb.engines` with a
cursor that `RemoveEngine` does not move: its result is `none` where Go panics.
A call that returns an error leaves the balancer as it was. -/
namespace Workflows.Balancer

structure RoundRobinLoadBalancer where
  engines : List String
  current : Nat
  capacities : String → Option Int
  activeWorkflows : String → Option Int

def newRoundRobinLoadBalancer : RoundRobinLoadBalancer := ⟨[],0,fun _ => none,fun _ => none⟩

def RoundRobinLoadBalancer.addEngine (lb : RoundRobinLoadBalancer) (engineID : String) (capacity : Int) :
    Except String RoundRobinLoadBalancer :=
  if engineID ∈ lb.engines then .error ("engine " ++ engineID ++ " already exists")
  else .ok { lb with
    engines := lb.engines ++ [engineID]
    capacities := Function.update lb.capacities engineID (some capacity)
    activeWorkflows := Function.update lb.activeWorkflows engineID (some 0) }

def RoundRobinLoadBalancer.removeEngine (lb : RoundRobinLoadBalancer) (engineID : String) :
    Except String RoundRobinLoadBalancer :=
  if engineID ∈ lb.engines then .ok { lb with
    engines := lb.engines.erase engineID
    capacities := Function.update lb.capacities engineID none
    activeWorkflows := Function.update lb.activeWorkflows engineID none }
  else .error ("engine " ++ engineID ++ " not found")

/-- The loop of `SelectEngine` from the cursor `current`, with `fuel` iterations left: the engine
chosen and the cursor left behind. `none` where `lb.engines[lb.current]` is out of range. -/
def RoundRobinLoadBalancer.selectLoop (lb : RoundRobinLoadBalancer) (start : Nat) : Nat → Nat → Option (String × Nat)
  | 0, current => lb.engines.head?.map fun engineID => (engineID,current)
  | fuel + 1, current =>
    match lb.engines[current]? with
    | none => none
    | some engineID =>
      let next := (current + 1) % lb.engines.length
      if (lb.activeWorkflows engineID).getD 0 < (lb.capacities engineID).getD 0 then some (engineID,next)
      else if next = start then some (engineID,next)
      else lb.selectLoop start fuel next

def RoundRobinLoadBalancer.selectEngine (lb : RoundRobinLoadBalancer) (_key : String) :
    Option (Except String String × RoundRobinLoadBalancer) :=
  if lb.engines.length = 0 then some (.error "no engines available",lb)
  else (lb.selectLoop lb.current lb.engines.length lb.current).map fun r => (.ok r.1,{ lb with current := r.2 })

def RoundRobinLoadBalancer.selectEngines (lb : RoundRobinLoadBalancer) :
    List String → Option (List (Except String String) × RoundRobinLoadBalancer)
  | [] => some ([],lb)
  | key :: keys => (lb.selectEngine key).bind fun r => (r.2.selectEngines keys).map fun rest => (r.1 :: rest.1,rest.2)

def RoundRobinLoadBalancer.getEngineCapacity (lb : RoundRobinLoadBalancer) (engineID : String) : Except String Int :=
  match lb.capacities engineID with
  | some capacity => .ok capacity
  | none => .error ("engine " ++ engineID ++ " not found")

def RoundRobinLoadBalancer.updateEngineCapacity (lb : RoundRobinLoadBalancer) (engineID : String) (capacity : Int) :
    Except String RoundRobinLoadBalancer :=
  if (lb.capacities engineID).isNone then .error ("engine " ++ engineID ++ " not found")
  else .ok { lb with capacities := Function.update lb.capacities engineID (some capacity) }

def RoundRobinLoadBalancer.listEngines (lb : RoundRobinLoadBalancer) : List String := lb.engines

inductive Call where
  | addEngine (engineID : String) (capacity : Int)
  | removeEngine (engineID : String)
  | updateEngineCapacity (engineID : String) (capacity : Int)
  | selectEngine (key : String)

def RoundRobinLoadBalancer.call (lb : RoundRobinLoadBalancer) : Call → Option RoundRobinLoadBalancer
  | .addEngine engineID capacity => some (match lb.addEngine engineID capacity with | .ok lb' => lb' | .error _ => lb)
  | .removeEngine engineID => some (match lb.removeEngine engineID with | .ok lb' => lb' | .error _ => lb)
  | .updateEngineCapacity engineID capacity =>
    some (match lb.updateEngineCapacity engineID capacity with | .ok lb' => lb' | .error _ => lb)
  | .selectEngine key => (lb.selectEngine key).map (·.2)

def RoundRobinLoadBalancer.calls (lb : RoundRobinLoadBalancer) : List Call → Option RoundRobinLoadBalancer
  | [] => some lb
  | c :: rest => (lb.call c).bind fun lb => lb.calls rest

/-! ### Consistent hashing -/

/-- `ring` holds the hosts of `hashRing`; which host its hash gives a key is not modelled. -/
structure ConsistentHashLoadBalancer where
  ring : List String
  capacities : String → Option Int
  activeWorkflows : String → Option Int

def newConsistentHashLoadBalancer : ConsistentHashLoadBalancer := ⟨[],fun _ => none,fun _ => none⟩

def ConsistentHashLoadBalancer.addEngine (lb : ConsistentHashLoadBalancer) (engineID : String) (capacity : Int) :
    ConsistentHashLoadBalancer :=
  { ring := if engineID ∈ lb.ring then lb.ring else lb.ring ++ [engineID]
    capacities := Function.update lb.capacities engineID (some capacity)
    activeWorkflows := Function.update lb.activeWorkflows engineID (some 0) }

def ConsistentHashLoadBalancer.removeEngine (lb : ConsistentHashLoadBalancer) (engineID : String) :
    ConsistentHashLoadBalancer :=
  { ring := lb.ring.erase engineID
    capacities := Function.update lb.capacities engineID none
    activeWorkflows := Function.update lb.activeWorkflows engineID none }

def ConsistentHashLoadBalancer.updateEngineCapacity (lb : ConsistentHashLoadBalancer) (engineID : String)
    (capacity : Int) : Except String ConsistentHashLoadBalancer :=
  if (lb.capacities engineID).isNone then .error ("engine " ++ engineID ++ " not found")
  else .ok { lb with capacities := Function.update lb.capacities engineID (some capacity) }

def ConsistentHashLoadBalancer.incrementActiveWorkflows (lb : ConsistentHashLoadBalancer) (engineID : String) :
    ConsistentHashLoadBalancer :=
  { lb with activeWorkflows :=
      Function.update lb.activeWorkflows engineID (some ((lb.activeWorkflows engineID).getD 0 + 1)) }

def ConsistentHashLoadBalancer.decrementActiveWorkflows (lb : ConsistentHashLoadBalancer) (engineID : String) :
    ConsistentHashLoadBalancer :=
  let count := (lb.activeWorkflows engineID).getD 0
  if count > 0 then { lb with activeWorkflows := Function.update lb.activeWorkflows engineID (some (count - 1)) }
  else lb

def ConsistentHashLoadBalancer.getActiveWorkflows (lb : ConsistentHashLoadBalancer) (engineID : String) : Int :=
  (lb.activeWorkflows engineID).getD 0

def ConsistentHashLoadBalancer.getEngineCapacity (lb : ConsistentHashLoadBalancer) (engineID : String) :
    Except String Int :=
  match lb.capacities engineID with
  | some capacity => .ok capacity
  | none => .error ("engine " ++ engineID ++ " not found")

/-! ### The round-robin cursor -/

section
variable {lb : RoundRobinLoadBalancer}

theorem selectLoopInRange (start : Nat) :
    ∀ fuel current, current < lb.engines.length → ∃ r, lb.selectLoop start fuel current = some r ∧ r.2 < lb.engines.length
  | 0, current, inRange => by
    obtain ⟨e,rest,shape⟩ := List.exists_cons_of_length_pos (Nat.lt_of_le_of_lt (Nat.zero_le _) inRange)
    exact ⟨(e,current),by simp [RoundRobinLoadBalancer.selectLoop,shape],inRange⟩
  | fuel + 1, current, inRange => by
    have next : (current + 1) % lb.engines.length < lb.engines.length := Nat.mod_lt _ (by omega)
    simp only [RoundRobinLoadBalancer.selectLoop,List.getElem?_eq_getElem inRange]
    split
    · exact ⟨_,rfl,next⟩
    · split
      · exact ⟨_,rfl,next⟩
      · exact selectLoopInRange start fuel _ next

def RoundRobinLoadBalancer.CursorOk (lb : RoundRobinLoadBalancer) : Prop :=
  lb.engines = [] ∧ lb.current = 0 ∨ lb.current < lb.engines.length

theorem callKeepsCursor (ok : lb.CursorOk) {c : Call} (keep : ∀ engineID, c ≠ .removeEngine engineID) :
    ∃ lb', lb.call c = some lb' ∧ lb'.CursorOk := by
  cases c with
  | addEngine engineID capacity =>
    refine ⟨_,rfl,?_⟩
    by_cases member : engineID ∈ lb.engines
    · simpa [RoundRobinLoadBalancer.addEngine,member] using ok
    · right
      simp only [RoundRobinLoadBalancer.addEngine,member,if_false,List.length_append,List.length_singleton]
      rcases ok with ⟨-,zero⟩ | inRange <;> omega
  | removeEngine engineID => exact absurd rfl (keep engineID)
  | updateEngineCapacity engineID capacity =>
    refine ⟨_,rfl,?_⟩
    by_cases known : (lb.capacities engineID).isNone <;>
      simpa [RoundRobinLoadBalancer.updateEngineCapacity,known] using ok
  | selectEngine key =>
    by_cases empty : lb.engines = []
    · exact ⟨lb,by simp [RoundRobinLoadBalancer.call,RoundRobinLoadBalancer.selectEngine,empty],ok⟩
    · have inRange : lb.current < lb.engines.length := by
        rcases ok with ⟨none_,-⟩ | inRange
        · exact absurd none_ empty
        · exact inRange
      obtain ⟨r,found,next⟩ := selectLoopInRange lb.current lb.engines.length lb.current inRange
      refine ⟨{ lb with current := r.2 },?_,.inr next⟩
      simp [RoundRobinLoadBalancer.call,RoundRobinLoadBalancer.selectEngine,found,List.length_pos.mpr empty,
        Nat.pos_iff_ne_zero.mp (List.length_pos.mpr empty)]

theorem cursorInRangeWithoutRemove (ok : lb.CursorOk) (history : List Call)
    (keep : ∀ c ∈ history, ∀ engineID, c ≠ .removeEngine engineID) :
    ∃ lb', lb.calls history = some lb' ∧ lb'.CursorOk := by
  induction history generalizing lb with
  | nil => exact ⟨lb,rfl,ok⟩
  | cons c rest ih =>
    obtain ⟨mid,first,midOk⟩ := callKeepsCursor ok (keep c (List.mem_cons_self c rest))
    simp only [RoundRobinLoadBalancer.calls,first,Option.bind_some]
    exact ih midOk fun c' member => keep c' (List.mem_cons_of_mem c member)

end

def keepingHistory : List Call :=
  [.addEngine "a" 1, .addEngine "b" 1, .selectEngine "w", .selectEngine "w", .updateEngineCapacity "a" 2, .selectEngine "w"]

theorem keepingHistoryInRange : newRoundRobinLoadBalancer.CursorOk ∧
    (∀ c ∈ keepingHistory, ∀ engineID, c ≠ .removeEngine engineID) ∧
    ∃ lb', newRoundRobinLoadBalancer.calls keepingHistory = some lb' ∧ lb'.CursorOk :=
  have ok : newRoundRobinLoadBalancer.CursorOk := .inl ⟨rfl,rfl⟩
  have keep : ∀ c ∈ keepingHistory, ∀ engineID, c ≠ .removeEngine engineID := by simp [keepingHistory]
  ⟨ok,keep,cursorInRangeWithoutRemove ok keepingHistory keep⟩

/-! ### Which engine `SelectEngine` returns -/

def RoundRobinLoadBalancer.Below (lb : RoundRobinLoadBalancer) (engineID : String) : Prop :=
  (lb.activeWorkflows engineID).getD 0 < (lb.capacities engineID).getD 0

instance (lb : RoundRobinLoadBalancer) (engineID : String) : Decidable (lb.Below engineID) :=
  inferInstanceAs (Decidable (_ < _))

theorem cyclicStep (n c i : Nat) : ((c + 1) % n + i) % n = (c + (i + 1)) % n := by
  rw [Nat.mod_add_mod,Nat.add_assoc,Nat.add_comm 1 i]

theorem cyclicAway {n c k : Nat} (inRange : c < n) (pos : 0 < k) (small : k < n) : (c + k) % n ≠ c := by
  rcases Nat.lt_or_ge (c + k) n with lt | ge
  · rw [Nat.mod_eq_of_lt lt]; omega
  · rw [Nat.mod_eq_sub_mod ge,Nat.mod_eq_of_lt (by omega)]; omega

section
variable {lb : RoundRobinLoadBalancer}

theorem selectLoopFirstBelow {start : Nat} : ∀ (j fuel current : Nat) {engineID : String},
    current < lb.engines.length → j < fuel →
    lb.engines[(current + j) % lb.engines.length]? = some engineID → lb.Below engineID →
    (∀ i < j, ∀ e, lb.engines[(current + i) % lb.engines.length]? = some e → ¬lb.Below e) →
    (∀ i < j, (current + (i + 1)) % lb.engines.length ≠ start) →
    lb.selectLoop start fuel current = some (engineID,(current + j + 1) % lb.engines.length)
  | 0, fuel + 1, current, engineID, inRange, _, found, below, _, _ => by
    rw [Nat.add_zero,Nat.mod_eq_of_lt inRange] at found
    simp only [RoundRobinLoadBalancer.selectLoop,found,if_pos (show (_ : Int) < _ from below)]
  | j + 1, fuel + 1, current, engineID, inRange, more, found, below, before, away => by
    obtain ⟨first,atCursor⟩ : ∃ e, lb.engines[current]? = some e := ⟨_,List.getElem?_eq_getElem inRange⟩
    have full := before 0 (by omega) first (by rw [Nat.add_zero,Nat.mod_eq_of_lt inRange]; exact atCursor)
    simp only [RoundRobinLoadBalancer.selectLoop,atCursor,if_neg (show ¬((_ : Int) < _) from full),
      if_neg (away 0 (by omega))]
    rw [Nat.add_assoc current,← cyclicStep lb.engines.length current (j + 1),← Nat.add_assoc]
    refine selectLoopFirstBelow j fuel _ (Nat.mod_lt _ (by omega)) (by omega) (by rw [cyclicStep]; exact found) below
      (fun i small e found' => before (i + 1) (by omega) e (by rw [← cyclicStep]; exact found'))
      (fun i small => by rw [cyclicStep,← Nat.add_assoc]; exact away (i + 1) (by omega))

theorem selectEngineFirstBelow (inRange : lb.current < lb.engines.length) (key : String) {j : Nat} {engineID : String}
    (found : lb.engines[(lb.current + j) % lb.engines.length]? = some engineID) (below : lb.Below engineID)
    (before : ∀ i < j, ∀ e, lb.engines[(lb.current + i) % lb.engines.length]? = some e → ¬lb.Below e) :
    lb.selectEngine key = some (.ok engineID,{ lb with current := (lb.current + j + 1) % lb.engines.length }) := by
  have first : j < lb.engines.length := by
    by_contra late
    refine before (j - lb.engines.length) (by omega) engineID ?_ below
    rw [← found,← Nat.add_mod_right,Nat.add_assoc,Nat.sub_add_cancel (by omega)]
  have loop := @selectLoopFirstBelow lb lb.current j lb.engines.length lb.current engineID inRange first found below before
    fun i small => cyclicAway inRange (by omega) (by omega)
  simp only [RoundRobinLoadBalancer.selectEngine,Nat.pos_iff_ne_zero.mp (by omega : 0 < lb.engines.length),if_false,
    loop,Option.map_some']

theorem selectEnginesFrom (free : ∀ e ∈ lb.engines, lb.Below e) : ∀ (keys : List String) (current : Nat),
    current < lb.engines.length → ∃ rs, { lb with current := current }.selectEngines keys =
      some (rs,{ lb with current := (current + keys.length) % lb.engines.length }) ∧ rs.length = keys.length ∧
      ∀ i < keys.length, rs[i]? = (lb.engines[(current + i) % lb.engines.length]?).map .ok
  | [], current, inRange => ⟨[],by simp [RoundRobinLoadBalancer.selectEngines,Nat.mod_eq_of_lt inRange],rfl,nofun⟩
  | key :: keys, current, inRange => by
    obtain ⟨first,atCursor⟩ : ∃ e, lb.engines[current]? = some e := ⟨_,List.getElem?_eq_getElem inRange⟩
    have selected := @selectEngineFirstBelow { lb with current := current } inRange key 0 first
      (by rw [Nat.add_zero,Nat.mod_eq_of_lt inRange]; exact atCursor) (free first (List.getElem?_mem atCursor)) nofun
    obtain ⟨rs,rest,length,entries⟩ := selectEnginesFrom free keys ((current + 1) % lb.engines.length) (Nat.mod_lt _ (by omega))
    refine ⟨.ok first :: rs,?_,by simp [length],fun i small => ?_⟩
    · simp only [RoundRobinLoadBalancer.selectEngines,selected,Option.some_bind]
      rw [Nat.add_zero] at rest
      rw [rest,cyclicStep]; rfl
    · cases i with
      | zero => simp [Nat.mod_eq_of_lt inRange,atCursor]
      | succ i => rw [List.getElem?_cons_succ,entries i (by simpa using small),cyclicStep]

end

theorem selectEngineRoundRobin {lb : RoundRobinLoadBalancer} (inRange : lb.current < lb.engines.length) :
    (∀ (key : String) (j : Nat) (engineID : String), lb.engines[(lb.current + j) % lb.engines.length]? = some engineID →
      lb.Below engineID → (∀ i < j, ∀ e, lb.engines[(lb.current + i) % lb.engines.length]? = some e → ¬lb.Below e) →
      lb.selectEngine key = some (.ok engineID,{ lb with current := (lb.current + j + 1) % lb.engines.length })) ∧
    ((∀ e ∈ lb.engines, lb.Below e) → ∀ keys : List String, keys.length = lb.engines.length →
      lb.selectEngines keys = some ((lb.engines.rotate lb.current).map .ok,lb) ∧
        (lb.engines.rotate lb.current).Perm lb.engines) := by
  refine ⟨fun key j engineID found below before => selectEngineFirstBelow inRange key found below before,
    fun free keys count => ⟨?_,List.rotate_perm _ _⟩⟩
  obtain ⟨rs,selected,length,entries⟩ := selectEnginesFrom free keys lb.current inRange
  have same : rs = (lb.engines.rotate lb.current).map .ok := by
    refine List.ext_getElem? fun i => ?_
    by_cases small : i < keys.length
    · rw [entries i small,List.getElem?_map,List.getElem?_rotate (by omega),Nat.add_comm]
    · rw [List.getElem?_eq_none (by omega),List.getElem?_eq_none (by simp; omega)]
  rw [count,Nat.add_mod_right,Nat.mod_eq_of_lt inRange,same] at selected
  exact selected

def threeEngines (active : String → Option Int) : RoundRobinLoadBalancer :=
  ⟨["a","b","c"],1,fun _ => some 1,active⟩

theorem selectEngineRoundRobinOnThree :
    (threeEngines fun e => if e = "b" then some 1 else some 0).selectEngine "k" =
      some (.ok "c",{ threeEngines (fun e => if e = "b" then some 1 else some 0) with current := 0 }) ∧
    (threeEngines fun _ => some 0).selectEngines ["k","k","k"] = some ([.ok "b",.ok "c",.ok "a"],threeEngines fun _ => some 0) :=
  ⟨(selectEngineRoundRobin (by decide)).1 "k" 1 "c" rfl (by decide) fun i small e found => by
      obtain rfl : i = 0 := by omega
      cases found; decide,
    ((selectEngineRoundRobin (by decide)).2 (by decide) ["k","k","k"] rfl).1⟩

theorem cursorPastEnd :
    ∃ lb, newRoundRobinLoadBalancer.calls [.addEngine "a" 1, .addEngine "b" 1, .selectEngine "w", .removeEngine "b"] =
      some lb ∧ lb.engines = ["a"] ∧ lb.current = 1 ∧ lb.selectEngine "w" = none :=
  ⟨_,rfl,rfl,rfl,rfl⟩

end Workflows.Balancer
