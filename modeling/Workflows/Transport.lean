import Workflows.EngineRuns
import Workflows.ExecutionIds
/-! The `GRPCTransport` of the orchestrator under the calls `OrchestratorV2.ExecuteWorkflow` makes
on it, in any interleaving: `Connect` for the engine the call selected, and the deferred
`conn.Close()` when the call returns; and `Close`, from `OrchestratorV2.Stop`. `Connect` dials an
engine once and from then on returns the `grpcConnection` kept under the engine's id, whatever
address the engine has now; only `Close` removes it. The first call on a connection to return
closes it, so every later call to that engine is handed a closed connection, and `Close` stops
with an error when it comes to it.
`ClientConn.Close` fails on a connection that is already closed. -/
namespace Workflows.Transport
open Engine (setKey deleteKey)
open Dispatch (formatDecimal)

def errClientConnClosing : String := "rpc error: code = Canceled desc = grpc: the client connection is closing"

structure ClientConn where
  target : String
  closed : Bool
  deriving DecidableEq, Repr

structure GRPCTransport where
  connections : List (String × Nat)
  conns : List ClientConn
  deriving DecidableEq, Repr

def newGRPCTransport : GRPCTransport := ⟨[],[]⟩

/-- `Connect`; `dialed` is what `grpc.DialContext` returns, which does not wait for the server. -/
def GRPCTransport.connect (t : GRPCTransport) (engineID address : String) (port : Int) (dialed : Except String Unit) :
    GRPCTransport × Except String Nat :=
  match t.connections.lookup engineID with
  | some conn => (t,.ok conn)
  | none =>
    match dialed with
    | .error err => (t,.error ("failed to dial engine " ++ engineID ++ ": " ++ err))
    | .ok () => (⟨setKey t.connections engineID t.conns.length,t.conns ++ [⟨address ++ ":" ++ formatDecimal port,false⟩]⟩,
        .ok t.conns.length)

def GRPCTransport.closeConn (t : GRPCTransport) (conn : Nat) : GRPCTransport × Option String :=
  match t.conns[conn]? with
  | some c =>
    if c.closed then (t,some errClientConnClosing)
    else ({ t with conns := t.conns.set conn { c with closed := true } },none)
  | none => (t,none)

/-- `Close`, over the engine ids in the order in which its `range` visits them; it deletes each
entry it closes and stops at the first connection that fails to close. -/
def GRPCTransport.close (t : GRPCTransport) : List String → GRPCTransport × Option String
  | [] => (t,none)
  | engineID :: rest =>
    match t.connections.lookup engineID with
    | none => t.close rest
    | some conn =>
      match t.closeConn conn with
      | (t',some err) => (t',some ("failed to close connection to " ++ engineID ++ ": " ++ err))
      | (t',none) => GRPCTransport.close { t' with connections := deleteKey t'.connections engineID } rest

structure Call where
  conn : Nat
  returned : Bool
  deriving DecidableEq, Repr

structure System where
  transport : GRPCTransport
  calls : List Call
  deriving DecidableEq, Repr

def newSystem : System := ⟨newGRPCTransport,[]⟩

inductive Action where
  | connect (engineID address : String) (port : Int) (dialed : Except String Unit)
  | finish (k : Nat)
  | close (order : List String)

def step (s : System) : Action → Option System
  | .connect engineID address port dialed =>
    match s.transport.connect engineID address port dialed with
    | (t,.ok conn) => some ⟨t,s.calls ++ [⟨conn,false⟩]⟩
    | (t,.error _) => some ⟨t,s.calls⟩
  | .finish k =>
    match s.calls[k]? with
    | some ⟨conn,false⟩ => some ⟨(s.transport.closeConn conn).1,s.calls.set k ⟨conn,true⟩⟩
    | _ => none
  | .close order =>
    if order.Perm (s.transport.connections.map (·.1)) then some { s with transport := (s.transport.close order).1 }
    else none

def run (s : System) : List Action → Option System
  | [] => some s
  | a :: rest => (step s a).bind fun s' => run s' rest

/-! ### The invariant -/

structure GRPCTransport.Cached (t : GRPCTransport) : Prop where
  injective : ∀ e e' i, t.connections.lookup e = some i → t.connections.lookup e' = some i → e = e'
  bounded : ∀ e i, t.connections.lookup e = some i → i < t.conns.length

structure Tracked (s : System) : Prop where
  cached : s.transport.Cached
  held : ∀ (j : Nat) (c : Call), s.calls[j]? = some c → c.conn < s.transport.conns.length
  closedIff : ∀ e i, s.transport.connections.lookup e = some i →
    ((s.transport.conns[i]?.map (·.closed)) = some true ↔ ∃ j : Nat, s.calls[j]? = some ⟨i,true⟩)

theorem closeConnFails {t : GRPCTransport} {conn : Nat} {err : String} (failed : (t.closeConn conn).2 = some err) :
    (t.closeConn conn).1 = t ∧ err = errClientConnClosing ∧ (t.conns[conn]?.map (·.closed)) = some true := by
  unfold GRPCTransport.closeConn at failed ⊢
  cases found : t.conns[conn]? with
  | none => simp [found] at failed
  | some c =>
    simp only [found] at failed ⊢
    split_ifs at failed ⊢ with closed
    exact ⟨rfl,(Option.some.inj failed).symm,by simp [closed]⟩

theorem closeConnClosed {t : GRPCTransport} {conn : Nat} (closed : (t.conns[conn]?.map (·.closed)) = some true) :
    (t.closeConn conn).2 = some errClientConnClosing := by
  obtain ⟨c,found,shut⟩ := Option.map_eq_some'.mp closed
  simp [GRPCTransport.closeConn,found,shut]

theorem closeConnSpec (t : GRPCTransport) (conn : Nat) :
    (t.closeConn conn).1.connections = t.connections ∧ (t.closeConn conn).1.conns.length = t.conns.length ∧
      (conn < t.conns.length → ((t.closeConn conn).1.conns[conn]?.map (·.closed)) = some true) ∧
      ∀ i ≠ conn, (t.closeConn conn).1.conns[i]? = t.conns[i]? := by
  unfold GRPCTransport.closeConn
  split
  · rename_i c found
    split_ifs with closed
    · exact ⟨rfl,rfl,fun _ => by simp [found,closed],fun _ _ => rfl⟩
    · refine ⟨rfl,List.length_set _ _ _,fun inside => by simp [List.getElem?_set,inside],fun i other => ?_⟩
      simp only [List.getElem?_set,if_neg (Ne.symm other)]
  · exact ⟨rfl,rfl,fun inside => by rename_i missing; simp [List.getElem?_eq_getElem inside] at missing,
      fun _ _ => rfl⟩

theorem cachedDelete {t t' : GRPCTransport} (cached : t.Cached) (same : t'.connections = t.connections)
    (length : t'.conns.length = t.conns.length) (e : String) :
    ({ t' with connections := deleteKey t'.connections e } : GRPCTransport).Cached := by
  refine ⟨fun a b k ha hb => ?_,fun a k ha => ?_⟩
  · simp only [Engine.lookupDeleteKey,same] at ha hb
    split_ifs at ha hb
    exact cached.injective a b k ha hb
  · simp only [Engine.lookupDeleteKey,same] at ha
    split_ifs at ha
    exact length ▸ cached.bounded a k ha

theorem closeKeeps {t : GRPCTransport} (cached : t.Cached) (order : List String) :
    (t.close order).1.Cached ∧ (t.close order).1.conns.length = t.conns.length ∧
      ∀ e i, (t.close order).1.connections.lookup e = some i →
        t.connections.lookup e = some i ∧ (t.close order).1.conns[i]? = t.conns[i]? := by
  induction order generalizing t with
  | nil => exact ⟨cached,rfl,fun e i found => ⟨found,rfl⟩⟩
  | cons e rest ih =>
    unfold GRPCTransport.close
    split
    · exact ih cached
    · rename_i i found
      split
      · rename_i t' err closed
        obtain rfl : t' = t := by simpa [closed] using (closeConnFails (congrArg Prod.snd closed)).1
        exact ⟨cached,rfl,fun a k found' => ⟨found',rfl⟩⟩
      · rename_i t' closed
        obtain ⟨same,length,-,others⟩ := closeConnSpec t i
        simp only [closed] at same length others
        obtain ⟨cachedAfter,lengthAfter,keptAfter⟩ := ih (cachedDelete cached same length e)
        refine ⟨cachedAfter,lengthAfter.trans length,fun a k ha => ?_⟩
        obtain ⟨before,conn⟩ := keptAfter a k ha
        simp only [Engine.lookupDeleteKey,same] at before
        split_ifs at before with named
        have other : k ≠ i := fun same' => named (cached.injective a e k before (same' ▸ found))
        exact ⟨before,conn.trans (others k other)⟩

theorem getElemAppendSingleton {l : List Call} {x c : Call} {j : Nat} (at_ : (l ++ [x])[j]? = some c) :
    l[j]? = some c ∨ c = x := by
  obtain ⟨lt,eq⟩ := List.getElem?_eq_some_iff.mp at_
  rw [List.getElem_append] at eq
  split_ifs at eq with inside
  · exact Or.inl (List.getElem?_eq_some_iff.mpr ⟨inside,eq⟩)
  · exact Or.inr (by rw [← eq,List.getElem_singleton])

theorem returnedAppend {l : List Call} {n k : Nat} :
    (∃ j : Nat, (l ++ [⟨n,false⟩])[j]? = some ⟨k,true⟩) ↔ ∃ j : Nat, l[j]? = some ⟨k,true⟩ := by
  refine ⟨fun ⟨j,at_⟩ => ?_,fun ⟨j,at_⟩ => ⟨j,?_⟩⟩
  · rcases getElemAppendSingleton at_ with old | new
    · exact ⟨j,old⟩
    · cases new
  · rw [List.getElem?_append_left (List.getElem?_eq_some_iff.mp at_).1]; exact at_

theorem trackedConnect {s : System} (tracked : Tracked s) (engineID address : String) (port : Int) :
    Tracked ⟨⟨setKey s.transport.connections engineID s.transport.conns.length,
      s.transport.conns ++ [⟨address ++ ":" ++ formatDecimal port,false⟩]⟩,s.calls ++ [⟨s.transport.conns.length,false⟩]⟩ := by
  have bounded := tracked.cached.bounded
  refine ⟨⟨fun a b k ha hb => ?_,fun a k ha => ?_⟩,fun j c at_ => ?_,fun a k ha => ?_⟩
  · simp only [Engine.lookupSetKey] at ha hb
    split_ifs at ha hb with named named' named'
    · exact named.trans named'.symm
    · cases ha; exact absurd (bounded b _ hb) (Nat.lt_irrefl _)
    · cases hb; exact absurd (bounded a _ ha) (Nat.lt_irrefl _)
    · exact tracked.cached.injective a b k ha hb
  · simp only [Engine.lookupSetKey] at ha
    rw [List.length_append,List.length_singleton]
    split_ifs at ha
    · cases ha; exact Nat.lt_succ_self _
    · exact Nat.lt_succ_of_lt (bounded a k ha)
  · rw [List.length_append,List.length_singleton]
    rcases getElemAppendSingleton at_ with old | rfl
    · exact Nat.lt_succ_of_lt (tracked.held j c old)
    · exact Nat.lt_succ_self _
  · simp only [Engine.lookupSetKey] at ha
    rw [returnedAppend]
    split_ifs at ha with named
    · cases ha
      simp only [List.getElem?_append_right (Nat.le_refl _),Nat.sub_self,List.getElem?_cons_zero,Option.map_some',
        Option.some.injEq,Bool.false_eq_true,false_iff,not_exists]
      exact fun j at_ => Nat.lt_irrefl _ (tracked.held j ⟨_,true⟩ at_)
    · rw [List.getElem?_append_left (bounded a k ha)]
      exact tracked.closedIff a k ha

theorem trackedFinish {s : System} (tracked : Tracked s) {k i : Nat} (holding : s.calls[k]? = some ⟨i,false⟩) :
    Tracked ⟨(s.transport.closeConn i).1,s.calls.set k ⟨i,true⟩⟩ := by
  obtain ⟨same,length,closed,others⟩ := closeConnSpec s.transport i
  have inside := tracked.held k _ holding
  refine ⟨⟨fun a b m ha hb => ?_,fun a m ha => ?_⟩,fun j c at_ => ?_,fun a m ha => ?_⟩
  · rw [same] at ha hb; exact tracked.cached.injective a b m ha hb
  · rw [same] at ha; exact length ▸ tracked.cached.bounded a m ha
  · rw [length]
    rw [List.getElem?_set] at at_
    split_ifs at at_ with here
    · cases at_; exact inside
    · exact tracked.held j c at_
  · rw [same] at ha
    by_cases mine : m = i
    · subst mine
      exact ⟨fun _ => ⟨k,by simp [List.getElem?_set,(List.getElem?_eq_some_iff.mp holding).1]⟩,fun _ => closed inside⟩
    · rw [others m mine,tracked.closedIff a m ha]
      refine exists_congr fun j => ?_
      by_cases here : j = k
      · subst here
        rw [List.getElem?_set_self (List.getElem?_eq_some_iff.mp holding).1,holding]
        simp [Ne.symm mine]
      · rw [List.getElem?_set_ne (Ne.symm here)]

theorem trackedStep {s s' : System} {a : Action} (tracked : Tracked s) (stepped : step s a = some s') : Tracked s' := by
  cases a with
  | connect engineID address port dialed =>
    simp only [step,GRPCTransport.connect] at stepped
    cases found : s.transport.connections.lookup engineID with
    | some i =>
      simp only [found] at stepped
      cases stepped
      refine ⟨tracked.cached,fun j c at_ => ?_,fun e k cached => ?_⟩
      · rcases getElemAppendSingleton at_ with old | rfl
        · exact tracked.held j c old
        · exact tracked.cached.bounded engineID i found
      · rw [tracked.closedIff e k cached,returnedAppend]
    | none =>
      simp only [found] at stepped
      cases dialed with
      | error err => cases stepped; exact tracked
      | ok u => cases stepped; exact trackedConnect tracked engineID address port
  | finish k =>
    simp only [step] at stepped
    split at stepped
    · rename_i i holding
      cases stepped
      exact trackedFinish tracked holding
    · cases stepped
  | close order =>
    simp only [step] at stepped
    split_ifs at stepped
    cases stepped
    obtain ⟨cached,length,kept⟩ := closeKeeps tracked.cached order
    refine ⟨cached,fun j c at_ => length ▸ tracked.held j c at_,fun e i found => ?_⟩
    obtain ⟨before,conn⟩ := kept e i found
    rw [conn]
    exact tracked.closedIff e i before

theorem trackedRun {s s' : System} {acts : List Action} (tracked : Tracked s) (ran : run s acts = some s') : Tracked s' := by
  induction acts generalizing s with
  | nil => cases ran; exact tracked
  | cons a rest ih =>
    simp only [run,Option.bind_eq_some] at ran
    obtain ⟨mid,stepped,ran⟩ := ran
    exact ih (trackedStep tracked stepped) ran

theorem trackedNew : Tracked newSystem :=
  ⟨⟨fun _ _ _ => nofun,fun _ _ => nofun⟩,fun _ _ => nofun,fun _ _ => nofun⟩

theorem closeReachesClosed {engineID : String} {conn : Nat} :
    ∀ {order : List String} {t : GRPCTransport}, engineID ∈ order → t.connections.lookup engineID = some conn →
      (t.conns[conn]?.map (·.closed)) = some true →
      ∃ e, (t.close order).2 = some ("failed to close connection to " ++ e ++ ": " ++ errClientConnClosing)
  | [], _, visited, _, _ => absurd visited (List.not_mem_nil _)
  | e :: rest, t, visited, cached, closed => by
    unfold GRPCTransport.close
    split
    · rename_i absent
      have other : engineID ≠ e := fun same => by rw [same,absent] at cached; cases cached
      exact @closeReachesClosed engineID conn rest t ((List.mem_cons.mp visited).resolve_left other) cached closed
    · rename_i i found
      split
      · rename_i t' err failed
        exact ⟨e,by rw [(closeConnFails (congrArg Prod.snd failed)).2.1]⟩
      · rename_i t' succeeded
        have distinct : conn ≠ i := fun same => by
          have := closeConnClosed (same ▸ closed)
          rw [succeeded] at this; cases this
        have other : engineID ≠ e := fun same => distinct (by rw [same,found] at cached; exact (Option.some.inj cached).symm)
        obtain ⟨same,-,-,others⟩ := closeConnSpec t i
        simp only [succeeded] at same others
        refine @closeReachesClosed engineID conn rest _ ((List.mem_cons.mp visited).resolve_left other) ?_ ?_
        · simp only [Engine.lookupDeleteKey,if_neg other,same,cached]
        · rw [others conn distinct]; exact closed

theorem closeFailsOnClosed {t : GRPCTransport} (cached : t.Cached) {order : List String} {err : String}
    (failed : (t.close order).2 = some err) :
    ∃ e conn, t.connections.lookup e = some conn ∧ (t.conns[conn]?.map (·.closed)) = some true ∧
      err = "failed to close connection to " ++ e ++ ": " ++ errClientConnClosing := by
  induction order generalizing t with
  | nil => cases failed
  | cons e rest ih =>
    unfold GRPCTransport.close at failed
    split at failed
    · exact ih cached failed
    · rename_i i found
      split at failed
      · rename_i t' err' refused
        obtain ⟨-,rfl,closed⟩ := closeConnFails (congrArg Prod.snd refused)
        exact ⟨e,i,found,closed,(Option.some.inj failed).symm⟩
      · rename_i t' succeeded
        obtain ⟨same,length,-,others⟩ := closeConnSpec t i
        simp only [succeeded] at same length others
        obtain ⟨e',conn,found',closed,rfl⟩ := ih (cachedDelete cached same length e) failed
        simp only [Engine.lookupDeleteKey,same] at found'
        split_ifs at found' with named
        have other : conn ≠ i := fun same' => named (cached.injective e' e conn found' (same' ▸ found))
        exact ⟨e',conn,found',by rwa [← others conn other],rfl⟩

theorem connectHandsClosed {acts : List Action} {s : System} (ran : run newSystem acts = some s) {engineID : String}
    {conn : Nat} (cached : s.transport.connections.lookup engineID = some conn) (address : String) (port : Int)
    (dialed : Except String Unit) :
    s.transport.connect engineID address port dialed = (s.transport,.ok conn) ∧
      ((s.transport.conns[conn]?.map (·.closed)) = some true ↔ ∃ j : Nat, s.calls[j]? = some ⟨conn,true⟩) :=
  ⟨by simp [GRPCTransport.connect,cached],(trackedRun trackedNew ran).closedIff _ _ cached⟩

def oneReturnedCall : List Action := [.connect "e1" "10.0.0.1" 50051 (.ok ()),.finish 0]

theorem oneReturnedCallCloses : ∃ s, run newSystem oneReturnedCall = some s ∧ s.transport.connections.lookup "e1" = some 0 ∧
    s.transport.connect "e1" "10.0.0.2" 50051 (.ok ()) = (s.transport,.ok 0) ∧
    ((s.transport.conns[0]?.map (·.closed)) = some true ↔ ∃ j : Nat, s.calls[j]? = some ⟨0,true⟩) :=
  ⟨_,rfl,rfl,@connectHandsClosed oneReturnedCall _ rfl "e1" 0 rfl "10.0.0.2" 50051 (.ok ())⟩

theorem closeFailsIffReturned {acts : List Action} {s : System} (ran : run newSystem acts = some s)
    {order : List String} (visits : order.Perm (s.transport.connections.map (·.1))) :
    (∀ err, (s.transport.close order).2 = some err →
      ∃ (engineID : String) (conn j : Nat), s.transport.connections.lookup engineID = some conn ∧ s.calls[j]? = some ⟨conn,true⟩ ∧
        err = "failed to close connection to " ++ engineID ++ ": " ++ errClientConnClosing) ∧
    ((∃ (engineID : String) (conn j : Nat), s.transport.connections.lookup engineID = some conn ∧ s.calls[j]? = some ⟨conn,true⟩) →
      ∃ e, (s.transport.close order).2 = some ("failed to close connection to " ++ e ++ ": " ++ errClientConnClosing)) := by
  have tracked := trackedRun trackedNew ran
  refine ⟨fun err failed => ?_,fun ⟨engineID,conn,j,cached,returned⟩ => ?_⟩
  · obtain ⟨e,conn,cached,closed,rfl⟩ := closeFailsOnClosed tracked.cached failed
    obtain ⟨j,returned⟩ := (tracked.closedIff e conn cached).mp closed
    exact ⟨e,conn,j,cached,returned,rfl⟩
  · have closed := (tracked.closedIff _ _ cached).mpr ⟨j,returned⟩
    exact closeReachesClosed (visits.mem_iff.mpr (List.mem_map.mpr ⟨_,Engine.memOfLookup cached,rfl⟩)) cached closed

theorem oneReturnedCallCloseFails : ∃ s, run newSystem oneReturnedCall = some s ∧
    ["e1"].Perm (s.transport.connections.map (·.1)) ∧
    (s.transport.close ["e1"]).2 = some ("failed to close connection to e1: " ++ errClientConnClosing) ∧
    ((∀ err, (s.transport.close ["e1"]).2 = some err →
      ∃ (engineID : String) (conn j : Nat), s.transport.connections.lookup engineID = some conn ∧ s.calls[j]? = some ⟨conn,true⟩ ∧
        err = "failed to close connection to " ++ engineID ++ ": " ++ errClientConnClosing) ∧
    ((∃ (engineID : String) (conn j : Nat), s.transport.connections.lookup engineID = some conn ∧ s.calls[j]? = some ⟨conn,true⟩) →
      ∃ e, (s.transport.close ["e1"]).2 = some ("failed to close connection to " ++ e ++ ": " ++ errClientConnClosing))) :=
  ⟨_,rfl,by decide,rfl,@closeFailsIffReturned oneReturnedCall _ rfl ["e1"] (by decide)⟩

end Workflows.Transport
