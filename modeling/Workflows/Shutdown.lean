import Workflows.Monitor
import Workflows.EngineWrapper
/-! Shutting the monitor and the engine wrappers down. `Monitor.Stop` closes `m.events` right
after cancelling the context and before `m.wg.Wait()`, and `EngineWrapper.Stop` closes `Inbound`
and `Outbound` after waiting for `processMessages` only: the goroutines of workflow requests are
not counted by `ew.wg`. A producer that is past its last check when the channel is closed still
sends on it. The consumer side is safe: `processEvents` offers only to subscribed channels, and
`Stop` empties the subscribers in the critical section in which it closes their channels. -/
namespace Workflows.Shutdown

def streamThenStop : List Fanout.Action :=
  [.start, .attachToEngineGRPC "e1" [⟨"workflow_completed","x1","w","COMPLETED"⟩], .streamReceive 0, .stop, .stopClose 0]

def workflowThenStop : List Local.Action :=
  [.registerEngine "e1", .sendMessage 0 ⟨.workflowRequest,"r1","w",false⟩, .handle 0 .workflowRequest,
    .startRun 0, .runReturns 0 true, .cancelContext, .loopCancelled 0, .stopWrapper 0, .stopSend 0, .stopClose 0,
    .respondCancelled 0]

/-- The stream goroutine records its event into the closed `m.events`, and the workflow goroutine
sends its status update into the closed `Outbound`: both are sends on a closed channel. -/
theorem sendAfterClose :
    (∃ m₁ m₂, Fanout.run Fanout.newMonitor streamThenStop = some m₁ ∧ m₁.eventsClosed = true ∧
      m₁.panicked = false ∧ Fanout.run m₁ [.streamRecord 0] = some m₂ ∧ m₂.panicked = true) ∧
    ∃ o₁ o₂, Local.run Local.newOrchestrator workflowThenStop = some o₁ ∧
      o₁.wrappers.map (·.outboundClosed) = [true] ∧ o₁.panicked = false ∧
      Local.run o₁ [.reportStatus 0] = some o₂ ∧ o₂.panicked = true :=
  ⟨⟨_,_,rfl,rfl,rfl,rfl,rfl⟩,_,_,rfl,rfl,rfl,rfl,rfl⟩

/-! ### The subscriber channels

`Stop` closes the channels of `m.subscribers` and sets the slice to nil in one critical section
under the write lock, which the offer round of `processEvents` holds for reading: the loop only
ever offers to channels that are still open. -/

section
open Fanout

/-- Every closed channel was made, and none of them is still subscribed. -/
structure SubscribersOpen (m : Monitor) : Prop where
  closedMade : ∀ i ∈ m.closedChannels, i < m.channels.length
  unclosed : ∀ i ∈ m.subscribers, i ∉ m.closedChannels

theorem SubscribersOpen.congr {m m' : Monitor} (opened : SubscribersOpen m) (closed : m'.closedChannels = m.closedChannels)
    (subscribers : m'.subscribers = m.subscribers) (made : m'.channels.length = m.channels.length) :
    SubscribersOpen m' :=
  ⟨fun i member => made ▸ opened.closedMade i (closed ▸ member),
    fun i member => closed ▸ opened.unclosed i (subscribers ▸ member)⟩

theorem recordEventChannels (m : Monitor) (source : Option Nat) (event : MonitorEvent) :
    (m.recordEvent source event).closedChannels = m.closedChannels ∧
      (m.recordEvent source event).subscribers = m.subscribers ∧ (m.recordEvent source event).channels = m.channels := by
  obtain ⟨fresh,-,spec⟩ := recordEventSpec (m := m) source event
  rw [spec]; exact ⟨rfl,rfl,rfl⟩

theorem SubscribersOpen.subscribe {m : Monitor} (opened : SubscribersOpen m) :
    SubscribersOpen { m with subscribers := m.subscribers ++ [m.channels.length], channels := m.channels ++ [⟨[],[]⟩] } := by
  refine ⟨fun i member => ?_,fun i member closed => ?_⟩
  · have := opened.closedMade i member; simp; omega
  · rcases List.mem_append.mp member with was | new
    · exact opened.unclosed i was closed
    · have := opened.closedMade i closed; rw [List.mem_singleton.mp new] at this; omega

theorem SubscribersOpen.closeSubscribers {m : Monitor} (inv : Inv m) (opened : SubscribersOpen m) (t : Nat) :
    SubscribersOpen { m with closedChannels := m.closedChannels ++ m.subscribers, subscribers := [], stops := m.stops.set t .done } := by
  refine ⟨fun i member => ?_,nofun⟩
  rcases List.mem_append.mp member with closed | subscribed
  · exact opened.closedMade i closed
  · exact inv.subscribed i subscribed

theorem stepSubscribersOpen {m m' : Monitor} (inv : Inv m) (opened : SubscribersOpen m) {a : Action}
    (h : step m a = some m') : SubscribersOpen m' := by
  cases a with
  | recordEvent event =>
    cases h; obtain ⟨closed,subscribers,channels⟩ := recordEventChannels m none event
    exact opened.congr closed subscribers (congrArg List.length channels)
  | streamRecord k =>
    simp only [step] at h; split at h <;> cases h
    obtain ⟨closed,subscribers,channels⟩ := recordEventChannels m (some _) (WorkflowEvent.toMonitorEvent _ _)
    exact opened.congr closed subscribers (congrArg List.length channels)
  | subscribe => simp only [step] at h; split at h <;> cases h; exact opened.subscribe
  | offer =>
    simp only [step] at h; split at h <;> (try split at h) <;> cases h
    exacts [opened.congr rfl rfl (List.length_modify _ _ _),opened.congr rfl rfl rfl]
  | receive i => simp only [step] at h; split at h <;> cases h; exact opened.congr rfl rfl (List.length_set _ _ _)
  | stopCloseSubscribers t => simp only [step] at h; split at h <;> cases h; exact opened.closeSubscribers inv t
  | start | attachToEngineGRPC _ _ | streamReceive _ | streamExit _ | takeEvent | processorExit | stopClose _ | stopWait _ =>
    simp only [step] at h; split at h <;> (try split at h) <;> cases h <;> exact opened.congr rfl rfl rfl
  | parentCancelled | stop => cases h; exact opened.congr rfl rfl rfl

theorem runSubscribersOpen {m m' : Monitor} (inv : Inv m) (opened : SubscribersOpen m) {trace : List Action}
    (h : run m trace = some m') : SubscribersOpen m' := by
  induction trace generalizing m with
  | nil => cases h; exact opened
  | cons a trace ih =>
    obtain ⟨m₁,stepped,rest⟩ := Option.bind_eq_some.mp h
    exact ih (stepInv inv stepped) (stepSubscribersOpen inv opened stepped) rest

theorem offerNeverPanics {trace : List Action} {m m' : Monitor} (h : run newMonitor trace = some m)
    (offered : step m .offer = some m') : m'.panicked = m.panicked := by
  have opened := runSubscribersOpen newMonitorInv ⟨nofun,nofun⟩ h
  simp only [step] at offered
  split at offered <;> (try split at offered) <;> cases offered
  · rename_i i target
    simp [opened.unclosed i (List.getElem?_mem target)]
  · rfl

def oneEventTaken : List Action := [.start, .subscribe, .recordEvent ⟨"engine_status","e1","","",.info⟩, .takeEvent]

theorem oneEventOffered : ∃ m m', run newMonitor oneEventTaken = some m ∧ step m .offer = some m' ∧
    m'.channels.map (·.delivered.length) = [1] ∧ m'.panicked = m.panicked := by
  refine ⟨_,_,rfl,rfl,rfl,?_⟩
  apply @offerNeverPanics oneEventTaken <;> rfl

end

end Workflows.Shutdown
