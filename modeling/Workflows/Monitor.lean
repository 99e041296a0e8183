import Mathlib.Data.List.Nodup
/-! `Monitor`. `RecordEvent` callers, among them the goroutines `AttachToEngineGRPC` starts, send
into `m.events` (capacity 1000) without blocking and drop the event when the channel is full. The
one `processEvents` loop takes the events in channel order and, holding `subscribersMu` for
reading, offers each to the subscribers one after another, dropping it for a subscriber whose
channel (capacity 100) is full; `Subscribe` needs the write lock, so it never lands in the middle
of an offer round. Each accepted event is tagged with its place in the acceptance order, and each
subscriber channel records what was sent into it: that record is a sublist of the acceptance
order, and, stream by stream, of what the stream produced. `Stop` cancels the context, closes
`m.events`, drops the stream map, waits for the goroutines and closes the subscriber channels; a
send on a closed channel and a write to the nil stream map are recorded as a panic. The model has
one `processEvents` loop: `Start` is called once. -/
namespace Workflows.Fanout

inductive EventSeverity where
  | info
  | warning
  | error
  | critical
  deriving DecidableEq, Repr

structure MonitorEvent where
  eventType : String
  engineID : String
  workflowID : String
  executionID : String
  severity : EventSeverity
  deriving DecidableEq, Repr

structure WorkflowEvent where
  eventType : String
  executionID : String
  workflowID : String
  status : String
  deriving DecidableEq, Repr

def WorkflowEvent.toMonitorEvent (event : WorkflowEvent) (engineID : String) : MonitorEvent :=
  ⟨event.eventType,engineID,event.workflowID,event.executionID,
    if event.status = "FAILED" ∨ event.status = "ERROR" then .error else .info⟩

structure Entry where
  seq : Nat
  source : Option Nat
  event : MonitorEvent
  deriving DecidableEq, Repr

structure SubscriberChannel where
  buffer : List Entry
  delivered : List Entry
  deriving DecidableEq, Repr

inductive Processor where
  | notStarted
  | waiting
  | distributing (entry : Entry) (next : Nat)
  | exited
  deriving DecidableEq, Repr

structure Stream where
  engineID : String
  pending : List WorkflowEvent
  read : List WorkflowEvent
  holding : Option WorkflowEvent
  exited : Bool
  deriving DecidableEq, Repr

inductive StopPhase where
  | cancelled
  | closed
  | waited
  | done
  deriving DecidableEq, Repr

/-- `channels` keeps every subscriber channel ever made and `subscribers` holds positions in it;
`accepted` and `taken` are what `m.events` accepted and what `processEvents` took out of it. -/
structure Monitor where
  events : List Entry
  eventsClosed : Bool
  ctxDone : Bool
  subscribers : List Nat
  channels : List SubscriberChannel
  closedChannels : List Nat
  grpcStreamsNil : Bool
  processor : Processor
  streams : List Stream
  stops : List StopPhase
  accepted : List Entry
  taken : List Entry
  panicked : Bool
  deriving DecidableEq, Repr

def newMonitor : Monitor := ⟨[],false,false,[],[],[],false,.notStarted,[],[],[],[],false⟩

def Monitor.recordEvent (m : Monitor) (source : Option Nat) (event : MonitorEvent) : Monitor :=
  if m.eventsClosed then { m with panicked := true }
  else if m.events.length < 1000 then
    { m with events := m.events ++ [⟨m.accepted.length,source,event⟩], accepted := m.accepted ++ [⟨m.accepted.length,source,event⟩] }
  else m

def SubscriberChannel.trySend (c : SubscriberChannel) (entry : Entry) : SubscriberChannel :=
  if c.buffer.length < 100 then ⟨c.buffer ++ [entry],c.delivered ++ [entry]⟩ else c

def Processor.holdsReadLock : Processor → Bool
  | .distributing _ _ => true
  | _ => false

def Processor.running : Processor → Bool
  | .waiting | .distributing _ _ => true
  | _ => false

inductive Action where
  | start
  | recordEvent (event : MonitorEvent)
  | subscribe
  | attachToEngineGRPC (engineID : String) (eventStream : List WorkflowEvent)
  | streamReceive (k : Nat)
  | streamRecord (k : Nat)
  | streamExit (k : Nat)
  | takeEvent
  | offer
  | processorExit
  | receive (i : Nat)
  | parentCancelled
  | stop
  | stopClose (t : Nat)
  | stopWait (t : Nat)
  | stopCloseSubscribers (t : Nat)
  deriving DecidableEq, Repr

def step (m : Monitor) : Action → Option Monitor
  | .start => if m.processor = .notStarted then some { m with processor := .waiting } else none
  | .recordEvent event => some (m.recordEvent none event)
  | .subscribe =>
    if m.processor.holdsReadLock then none
    else some { m with subscribers := m.subscribers ++ [m.channels.length], channels := m.channels ++ [⟨[],[]⟩] }
  | .attachToEngineGRPC engineID eventStream =>
    if m.grpcStreamsNil then some { m with panicked := true }
    else some { m with streams := m.streams ++ [⟨engineID,eventStream,[],none,false⟩] }
  | .streamReceive k =>
    match m.streams[k]? with
    | some ⟨engineID,event :: pending,read,none,false⟩ =>
      some { m with streams := m.streams.set k ⟨engineID,pending,read ++ [event],some event,false⟩ }
    | _ => none
  | .streamRecord k =>
    match m.streams[k]? with
    | some ⟨engineID,pending,read,some event,false⟩ =>
      some { m.recordEvent (some k) (event.toMonitorEvent engineID) with
        streams := m.streams.set k ⟨engineID,pending,read,none,false⟩ }
    | _ => none
  | .streamExit k =>
    match m.streams[k]? with
    | some ⟨engineID,pending,read,none,false⟩ =>
      if m.ctxDone ∨ pending = [] then some { m with streams := m.streams.set k ⟨engineID,pending,read,none,true⟩ } else none
    | _ => none
  | .takeEvent =>
    match m.processor, m.events with
    | .waiting, entry :: events => some { m with processor := .distributing entry 0, events := events, taken := m.taken ++ [entry] }
    | _, _ => none
  | .offer =>
    match m.processor with
    | .distributing entry next =>
      match m.subscribers[next]? with
      | some i =>
        some { m with
          channels := m.channels.modify (·.trySend entry) i
          processor := .distributing entry (next + 1)
          panicked := m.panicked || decide (i ∈ m.closedChannels) }
      | none => some { m with processor := .waiting }
    | _ => none
  | .processorExit =>
    if m.processor = .waiting ∧ (m.ctxDone ∨ m.eventsClosed ∧ m.events = []) then some { m with processor := .exited } else none
  | .receive i =>
    match m.channels[i]? with
    | some ⟨_ :: buffer,delivered⟩ => some { m with channels := m.channels.set i ⟨buffer,delivered⟩ }
    | _ => none
  | .parentCancelled => some { m with ctxDone := true }
  | .stop => some { m with ctxDone := true, stops := m.stops ++ [.cancelled] }
  | .stopClose t =>
    if m.stops[t]? = some .cancelled then
      some { m with
        eventsClosed := true, grpcStreamsNil := true, stops := m.stops.set t .closed
        panicked := m.panicked || m.eventsClosed }
    else none
  | .stopWait t =>
    if m.stops[t]? = some .closed ∧ m.processor.running = false ∧ m.streams.all (·.exited) then
      some { m with stops := m.stops.set t .waited }
    else none
  | .stopCloseSubscribers t =>
    if m.stops[t]? = some .waited ∧ m.processor.holdsReadLock = false then
      some { m with closedChannels := m.closedChannels ++ m.subscribers, subscribers := [], stops := m.stops.set t .done }
    else none

def run (m : Monitor) : List Action → Option Monitor
  | [] => some m
  | a :: trace => (step m a).bind fun m => run m trace

/-! ### What every run keeps -/

def Monitor.fromStream (m : Monitor) (k : Nat) : List MonitorEvent := (m.accepted.filter (·.source == some k)).map (·.event)

def Stream.Accounts (st : Stream) (accepted : List MonitorEvent) : Prop :=
  ∃ before, st.read = before ++ st.holding.toList ∧ accepted.Sublist (before.map (·.toMonitorEvent st.engineID))

/-- `delivered` says what each subscriber channel was sent; `offering` that the entry being offered
is the last one taken and has not yet reached the subscribers still to be offered it. -/
structure Inv (m : Monitor) : Prop where
  inbound : m.taken ++ m.events = m.accepted
  numbered : m.accepted.map (·.seq) = List.range m.accepted.length
  sources : ∀ e ∈ m.accepted, ∀ k, e.source = some k → k < m.streams.length
  subscribed : ∀ i ∈ m.subscribers, i < m.channels.length
  distinct : m.subscribers.Nodup
  buffered : ∀ (i : Nat) c, m.channels[i]? = some c → c.buffer.IsSuffix c.delivered
  delivered : ∀ (i : Nat) c, m.channels[i]? = some c → c.delivered.Sublist m.taken
  offering : ∀ entry next, m.processor = .distributing entry next → m.taken.getLast? = some entry ∧
    ∀ i ∈ m.subscribers.drop next, ∀ c, m.channels[i]? = some c → c.delivered.Sublist m.taken.dropLast
  produced : ∀ (k : Nat) st, m.streams[k]? = some st → st.Accounts (m.fromStream k)

theorem newMonitorInv : Inv newMonitor where
  inbound := rfl
  numbered := rfl
  sources _ member := nomatch member
  subscribed _ member := nomatch member
  distinct := .nil
  buffered _ _ found := nomatch found
  delivered _ _ found := nomatch found
  offering _ _ distributing := nomatch distributing
  produced _ _ found := nomatch found

theorem getElemSetSome {α : Type} {l : List α} {i j : Nat} {a c : α} (found : (l.set i a)[j]? = some c) :
    i = j ∧ c = a ∨ i ≠ j ∧ l[j]? = some c := by
  rw [List.getElem?_set] at found
  split at found
  · split at found
    · exact .inl ⟨‹_›,(Option.some.inj found).symm⟩
    · cases found
  · exact .inr ⟨‹_›,found⟩

theorem getElemModifySome {α : Type} {l : List α} {f : α → α} {i j : Nat} {c : α} (found : (l.modify f i)[j]? = some c) :
    (i = j ∧ ∃ old, l[j]? = some old ∧ c = f old) ∨ i ≠ j ∧ l[j]? = some c := by
  rw [List.getElem?_modify] at found
  obtain ⟨old,was,rfl⟩ := Option.map_eq_some'.mp found
  split
  · exact .inl ⟨‹_›,old,was,rfl⟩
  · exact .inr ⟨‹_›,was⟩

theorem getElemPushSome {α : Type} {l : List α} {a c : α} {i : Nat} (found : (l ++ [a])[i]? = some c) :
    l[i]? = some c ∨ i = l.length ∧ c = a := by
  rw [List.getElem?_append] at found
  split at found
  · exact .inl found
  · rw [List.getElem?_cons] at found
    split at found
    · exact .inr ⟨by omega,(Option.some.inj found).symm⟩
    · simp at found

section
variable {m : Monitor}

theorem recordEventSpec (source : Option Nat) (event : MonitorEvent) : ∃ fresh : List Entry,
    (fresh = [] ∨ fresh = [⟨m.accepted.length,source,event⟩]) ∧
    m.recordEvent source event = { m with
      events := m.events ++ fresh, accepted := m.accepted ++ fresh, panicked := m.panicked || m.eventsClosed } := by
  unfold Monitor.recordEvent
  split
  · exact ⟨[],.inl rfl,by simp [*]⟩
  · split
    · exact ⟨_,.inr rfl,by simp [*]⟩
    · exact ⟨[],.inl rfl,by cases m; simp_all⟩

theorem trySendBuffered {c : SubscriberChannel} (h : c.buffer.IsSuffix c.delivered) (entry : Entry) :
    (c.trySend entry).buffer.IsSuffix (c.trySend entry).delivered := by
  unfold SubscriberChannel.trySend
  split
  · obtain ⟨t,h⟩ := h; exact ⟨t,by simp [← h]⟩
  · exact h

theorem trySendDelivered {c : SubscriberChannel} {taken : List Entry} (h : c.delivered.Sublist taken) (entry : Entry) :
    (c.trySend entry).delivered.Sublist (taken ++ [entry]) := by
  unfold SubscriberChannel.trySend
  split
  · exact h.append (List.Sublist.refl _)
  · exact h.trans (List.sublist_append_left _ _)

theorem Inv.acceptedNodup (inv : Inv m) : m.accepted.Nodup :=
  List.Nodup.of_map (·.seq) (inv.numbered ▸ List.nodup_range _)

theorem Inv.congr (inv : Inv m) {m' : Monitor} (events : m'.events = m.events) (subscribers : m'.subscribers = m.subscribers)
    (channels : m'.channels = m.channels) (processor : m'.processor = m.processor) (streams : m'.streams = m.streams)
    (accepted : m'.accepted = m.accepted) (taken : m'.taken = m.taken) : Inv m' := by
  obtain ⟨_,_,_,_,_,_,_,_,_,_,_,_,_⟩ := m'
  simp only at events subscribers channels processor streams accepted taken
  subst events subscribers channels processor streams accepted taken
  exact ⟨inv.inbound,inv.numbered,inv.sources,inv.subscribed,inv.distinct,inv.buffered,inv.delivered,inv.offering,
    inv.produced⟩

theorem Inv.idle (inv : Inv m) {p : Processor} (free : p.holdsReadLock = false) : Inv { m with processor := p } :=
  ⟨inv.inbound,inv.numbered,inv.sources,inv.subscribed,inv.distinct,inv.buffered,inv.delivered,
    fun _ _ distributing => (by dsimp only at distributing; subst distributing; cases free),inv.produced⟩

theorem acceptKeeps (inv : Inv m) {fresh : List Entry}
    (next : fresh = [] ∨ ∃ source event, fresh = [⟨m.accepted.length,source,event⟩]) :
    m.taken ++ (m.events ++ fresh) = m.accepted ++ fresh ∧
      (m.accepted ++ fresh).map (·.seq) = List.range (m.accepted ++ fresh).length := by
  refine ⟨by rw [← List.append_assoc,inv.inbound],?_⟩
  rcases next with rfl | ⟨_,_,rfl⟩
  · simpa using inv.numbered
  · simp [inv.numbered,List.range_succ]

theorem fromStreamAppend (fresh : List Entry) (k : Nat) (p : Bool) (streams : List Stream) :
    { m with events := m.events ++ fresh, accepted := m.accepted ++ fresh, streams := streams, panicked := p }.fromStream k =
      m.fromStream k ++ (fresh.filter (·.source == some k)).map (·.event) := by
  simp [Monitor.fromStream]

theorem Inv.recordEvent (inv : Inv m) (event : MonitorEvent) : Inv (m.recordEvent none event) := by
  obtain ⟨fresh,next,spec⟩ := recordEventSpec (m := m) none event
  rw [spec]
  obtain ⟨inbound,numbered⟩ := acceptKeeps inv (next.imp id fun same => ⟨_,_,same⟩)
  refine ⟨inbound,numbered,?_,inv.subscribed,inv.distinct,inv.buffered,inv.delivered,inv.offering,fun k st found => ?_⟩
  · intro e member k source
    rcases List.mem_append.mp member with old | new
    · exact inv.sources e old k source
    · rcases next with rfl | rfl
      · cases new
      · rw [List.mem_singleton.mp new] at source; cases source
  · have := fromStreamAppend (m := m) fresh k (m.panicked || m.eventsClosed) m.streams
    simp only [Monitor.fromStream] at this ⊢
    rw [this]
    rcases next with rfl | rfl <;> simpa using inv.produced k st found

theorem Inv.streamStep (inv : Inv m) {k : Nat} {st st' : Stream} (found : m.streams[k]? = some st) {fresh : List Entry}
    (next : fresh = [] ∨ ∃ event, fresh = [⟨m.accepted.length,some k,event⟩])
    (keeps : st.Accounts (m.fromStream k) → st'.Accounts (m.fromStream k ++ fresh.map (·.event))) (p : Bool) :
    Inv { m with events := m.events ++ fresh, accepted := m.accepted ++ fresh, streams := m.streams.set k st', panicked := p } := by
  have inside : k < m.streams.length := (List.getElem?_eq_some_iff.mp found).1
  obtain ⟨inbound,numbered⟩ := acceptKeeps inv (next.imp id fun ⟨_,same⟩ => ⟨_,_,same⟩)
  refine ⟨inbound,numbered,?_,inv.subscribed,inv.distinct,inv.buffered,inv.delivered,inv.offering,?_⟩
  · intro e member k' source
    rw [List.length_set]
    rcases List.mem_append.mp member with old | new
    · exact inv.sources e old k' source
    · rcases next with rfl | ⟨event,rfl⟩
      · cases new
      · rw [List.mem_singleton.mp new] at source; cases source; exact inside
  · intro k' st'' found'
    rw [fromStreamAppend]
    rcases getElemSetSome found' with ⟨rfl,rfl⟩ | ⟨other,old⟩
    · have := keeps (inv.produced k st found)
      rcases next with rfl | ⟨event,rfl⟩ <;> simpa using this
    · have own : (fresh.filter (·.source == some k')).map (·.event) = [] := by
        rcases next with rfl | ⟨event,rfl⟩
        · rfl
        · simp [other]
      rw [own,List.append_nil]
      exact inv.produced k' st'' old

theorem Inv.subscribe (inv : Inv m) (free : m.processor.holdsReadLock = false) :
    Inv { m with subscribers := m.subscribers ++ [m.channels.length], channels := m.channels ++ [⟨[],[]⟩] } := by
  have fresh : m.channels.length ∉ m.subscribers := fun member => by
    have := inv.subscribed _ member; omega
  refine ⟨inv.inbound,inv.numbered,inv.sources,?_,?_,?_,?_,?_,inv.produced⟩
  · intro i member
    rcases List.mem_append.mp member with was | new
    · have := inv.subscribed i was; simp; omega
    · rw [List.mem_singleton.mp new]; simp
  · exact List.nodup_append.mpr ⟨inv.distinct,List.nodup_singleton _,fun a was new => fresh (List.mem_singleton.mp new ▸ was)⟩
  · intro i c found
    rcases getElemPushSome found with found | ⟨-,rfl⟩
    · exact inv.buffered i c found
    · exact List.suffix_refl _
  · intro i c found
    rcases getElemPushSome found with found | ⟨-,rfl⟩
    · exact inv.delivered i c found
    · exact List.nil_sublist _
  · intro entry next distributing
    dsimp only at distributing; rw [distributing] at free; cases free

theorem Inv.attach (inv : Inv m) (engineID : String) (eventStream : List WorkflowEvent) :
    Inv { m with streams := m.streams ++ [⟨engineID,eventStream,[],none,false⟩] } := by
  refine ⟨inv.inbound,inv.numbered,fun e member k source => ?_,inv.subscribed,inv.distinct,inv.buffered,
    inv.delivered,inv.offering,fun k st found => ?_⟩
  · have := inv.sources e member k source; simp; omega
  · rcases getElemPushSome found with found | ⟨rfl,rfl⟩
    · exact inv.produced k st found
    · refine ⟨[],rfl,?_⟩
      have none : m.accepted.filter (·.source == some m.streams.length) = [] :=
        List.filter_eq_nil_iff.mpr fun e member same => by
          have := inv.sources e member _ (by simpa using same); omega
      simp only [Monitor.fromStream,none]; exact List.Sublist.slnil

theorem Inv.takeEvent (inv : Inv m) {entry : Entry} {events : List Entry} (waiting : m.events = entry :: events) :
    Inv { m with processor := .distributing entry 0, events := events, taken := m.taken ++ [entry] } := by
  refine ⟨by simp [← inv.inbound,waiting],inv.numbered,inv.sources,inv.subscribed,inv.distinct,inv.buffered,
    fun i c found => (inv.delivered i c found).trans (List.sublist_append_left _ _),fun entry' next distributing => ?_,inv.produced⟩
  cases distributing
  exact ⟨List.getLast?_concat _,fun i _ c found => by simpa using inv.delivered i c found⟩

theorem Inv.offer (inv : Inv m) {entry : Entry} {next i : Nat} (distributing : m.processor = .distributing entry next)
    (found : m.subscribers[next]? = some i) (p : Bool) :
    Inv { m with channels := m.channels.modify (·.trySend entry) i, processor := .distributing entry (next + 1), panicked := p } := by
  obtain ⟨last,waiting⟩ := inv.offering entry next distributing
  have inside : next < m.subscribers.length := (List.getElem?_eq_some_iff.mp found).1
  have rest : m.subscribers.drop next = i :: m.subscribers.drop (next + 1) := by
    rw [List.drop_eq_getElem_cons inside,(List.getElem?_eq_some_iff.mp found).2]
  have later : i ∉ m.subscribers.drop (next + 1) :=
    (List.nodup_cons.mp (rest ▸ inv.distinct.sublist (List.drop_sublist next _))).1
  refine ⟨inv.inbound,inv.numbered,inv.sources,fun j member => ?_,inv.distinct,fun j c found' => ?_,fun j c found' => ?_,
    fun entry' next' distributing' => ?_,inv.produced⟩
  · simpa using inv.subscribed j member
  · rcases getElemModifySome found' with ⟨rfl,old,was,rfl⟩ | ⟨-,was⟩
    · exact trySendBuffered (inv.buffered i old was) entry
    · exact inv.buffered j c was
  · rcases getElemModifySome found' with ⟨rfl,old,was,rfl⟩ | ⟨-,was⟩
    · have := trySendDelivered (waiting i (rest ▸ List.mem_cons_self _ _) old was) entry
      rwa [List.dropLast_append_getLast? entry last] at this
    · exact inv.delivered j c was
  · cases distributing'
    refine ⟨last,fun j member c found' => ?_⟩
    rcases getElemModifySome found' with ⟨rfl,-⟩ | ⟨-,was⟩
    · exact absurd member later
    · exact waiting j (rest ▸ List.mem_cons_of_mem _ member) c was

theorem Inv.receive (inv : Inv m) {i : Nat} {entry : Entry} {buffer delivered : List Entry}
    (found : m.channels[i]? = some ⟨entry :: buffer,delivered⟩) : Inv { m with channels := m.channels.set i ⟨buffer,delivered⟩ } := by
  refine ⟨inv.inbound,inv.numbered,inv.sources,fun j member => ?_,inv.distinct,fun j c found' => ?_,fun j c found' => ?_,
    fun entry' next distributing => ?_,inv.produced⟩
  · simpa using inv.subscribed j member
  · rcases getElemSetSome found' with ⟨rfl,rfl⟩ | ⟨-,was⟩
    · exact (List.suffix_cons entry buffer).trans (inv.buffered i _ found)
    · exact inv.buffered j c was
  · rcases getElemSetSome found' with ⟨rfl,rfl⟩ | ⟨-,was⟩
    · exact inv.delivered i ⟨entry :: buffer,delivered⟩ found
    · exact inv.delivered j c was
  · obtain ⟨last,waiting⟩ := inv.offering entry' next distributing
    refine ⟨last,fun j member c found' => ?_⟩
    rcases getElemSetSome found' with ⟨rfl,rfl⟩ | ⟨-,was⟩
    · exact waiting i member ⟨entry :: buffer,delivered⟩ found
    · exact waiting j member c was

theorem Inv.streamReceive (inv : Inv m) {k : Nat} {engineID : String} {event : WorkflowEvent} {pending read : List WorkflowEvent}
    (found : m.streams[k]? = some ⟨engineID,event :: pending,read,none,false⟩) :
    Inv { m with streams := m.streams.set k ⟨engineID,pending,read ++ [event],some event,false⟩ } :=
  (inv.streamStep found (.inl rfl) (fun ⟨before,same,sub⟩ => ⟨before,by simp_all,by simpa using sub⟩) m.panicked).congr
    (by simp) rfl rfl rfl rfl (by simp) rfl

theorem Inv.streamRecord (inv : Inv m) {k : Nat} {engineID : String} {event : WorkflowEvent} {pending read : List WorkflowEvent}
    (found : m.streams[k]? = some ⟨engineID,pending,read,some event,false⟩) :
    Inv { m.recordEvent (some k) (event.toMonitorEvent engineID) with streams := m.streams.set k ⟨engineID,pending,read,none,false⟩ } := by
  obtain ⟨fresh,next,spec⟩ := recordEventSpec (m := m) (some k) (event.toMonitorEvent engineID)
  rw [spec]
  refine inv.streamStep found (next.imp id fun same => ⟨_,same⟩)
    (fun ⟨before,same,sub⟩ => ⟨before ++ [event],by simpa using same,?_⟩) _
  rw [List.map_append]
  rcases next with rfl | rfl
  · exact (List.append_nil _).symm ▸ sub.trans (List.sublist_append_left _ _)
  · exact sub.append (List.Sublist.refl _)

theorem Inv.streamExit (inv : Inv m) {k : Nat} {engineID : String} {pending read : List WorkflowEvent}
    (found : m.streams[k]? = some ⟨engineID,pending,read,none,false⟩) :
    Inv { m with streams := m.streams.set k ⟨engineID,pending,read,none,true⟩ } :=
  (inv.streamStep found (.inl rfl) (by simpa using id) m.panicked).congr (by simp) rfl rfl rfl rfl (by simp) rfl

theorem Inv.closeSubscribers (inv : Inv m) (t : Nat) :
    Inv { m with closedChannels := m.closedChannels ++ m.subscribers, subscribers := [], stops := m.stops.set t .done } :=
  ⟨inv.inbound,inv.numbered,inv.sources,nofun,.nil,inv.buffered,inv.delivered,
    fun entry next distributing => ⟨(inv.offering entry next distributing).1,by simp⟩,inv.produced⟩

end

theorem stepInv {m m' : Monitor} (inv : Inv m) {a : Action} (h : step m a = some m') : Inv m' := by
  cases a with
  | start => simp only [step] at h; split at h <;> cases h; exact inv.idle rfl
  | recordEvent event => cases h; exact inv.recordEvent event
  | subscribe => simp only [step] at h; split at h <;> cases h; exact inv.subscribe (Bool.eq_false_iff.mpr ‹_›)
  | attachToEngineGRPC engineID eventStream =>
    simp only [step] at h; split at h <;> cases h
    exacts [inv.congr rfl rfl rfl rfl rfl rfl rfl,inv.attach engineID eventStream]
  | streamReceive k => simp only [step] at h; split at h <;> cases h; exact inv.streamReceive ‹_›
  | streamRecord k => simp only [step] at h; split at h <;> cases h; exact inv.streamRecord ‹_›
  | streamExit k => simp only [step] at h; split at h <;> (try split at h) <;> cases h; exact inv.streamExit ‹_›
  | takeEvent => simp only [step] at h; split at h <;> cases h; exact inv.takeEvent ‹_›
  | offer =>
    simp only [step] at h; split at h <;> (try split at h) <;> cases h
    exacts [inv.offer ‹_› ‹_› _,inv.idle rfl]
  | processorExit => simp only [step] at h; split at h <;> cases h; exact inv.idle rfl
  | receive i => simp only [step] at h; split at h <;> cases h; exact inv.receive ‹_›
  | parentCancelled | stop => cases h; exact inv.congr rfl rfl rfl rfl rfl rfl rfl
  | stopClose t | stopWait t => simp only [step] at h; split at h <;> cases h; exact inv.congr rfl rfl rfl rfl rfl rfl rfl
  | stopCloseSubscribers t => simp only [step] at h; split at h <;> cases h; exact inv.closeSubscribers t

theorem runInv {m m' : Monitor} (inv : Inv m) {trace : List Action} (h : run m trace = some m') : Inv m' := by
  induction trace generalizing m with
  | nil => cases h; exact inv
  | cons a trace ih =>
    obtain ⟨m₁,stepped,rest⟩ := Option.bind_eq_some.mp h
    exact ih (stepInv inv stepped) rest

theorem deliveredInAcceptanceOrder {trace : List Action} {m : Monitor} (h : run newMonitor trace = some m)
    {i : Nat} {c : SubscriberChannel} (found : m.channels[i]? = some c) :
    c.delivered.Sublist m.accepted ∧ c.delivered.Nodup ∧ c.buffer.IsSuffix c.delivered ∧
      ∀ (k : Nat) st, m.streams[k]? = some st →
        ((c.delivered.filter (·.source == some k)).map (·.event)).Sublist (st.read.map (·.toMonitorEvent st.engineID)) := by
  have inv := runInv newMonitorInv h
  have accepted : c.delivered.Sublist m.accepted :=
    (inv.delivered i c found).trans (inv.inbound ▸ List.sublist_append_left _ _)
  refine ⟨accepted,accepted.nodup inv.acceptedNodup,inv.buffered i c found,fun k st stream => ?_⟩
  obtain ⟨before,read,sub⟩ := inv.produced k st stream
  have recorded : (before.map (·.toMonitorEvent st.engineID)).Sublist (st.read.map (·.toMonitorEvent st.engineID)) := by
    rw [read,List.map_append]; exact List.sublist_append_left _ _
  exact (((accepted.filter _).map _).trans sub).trans recorded

def fanOutTrace : List Action :=
  [.start, .subscribe, .subscribe,
    .attachToEngineGRPC "e1" [⟨"node_completed","x1","w","COMPLETED"⟩,⟨"workflow_failed","x1","w","FAILED"⟩],
    .streamReceive 0, .streamRecord 0, .recordEvent ⟨"engine_status","e2","","",.info⟩, .streamReceive 0, .streamRecord 0,
    .takeEvent, .offer, .offer, .offer, .receive 0, .takeEvent, .offer, .offer, .offer, .takeEvent, .offer, .offer, .offer]

theorem deliveredInAcceptanceOrderOnFanOut : ∃ m c, run newMonitor fanOutTrace = some m ∧ m.channels[0]? = some c ∧
    c.delivered.length = 3 ∧ c.buffer.length = 2 ∧
    (c.delivered.Sublist m.accepted ∧ c.delivered.Nodup ∧ c.buffer.IsSuffix c.delivered ∧
      ∀ (k : Nat) st, m.streams[k]? = some st →
        ((c.delivered.filter (·.source == some k)).map (·.event)).Sublist (st.read.map (·.toMonitorEvent st.engineID))) :=
  ⟨_,_,rfl,rfl,rfl,rfl,@deliveredInAcceptanceOrder fanOutTrace _ rfl 0 _ rfl⟩

end Workflows.Fanout
