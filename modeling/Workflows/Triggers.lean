import Mathlib.Data.List.Basic
/-! The two triggers of the orchestrator over their whole lives: any sequence of `Start`, of
`Stop`, called directly or by the goroutine that waits for the context, and of the failure of
the HTTP server. `Stop` only clears `active`: what `Start` registered stays. The `ServeMux` of an
HTTP trigger keeps the handler of its path, so `Start` returns `nil` once in the life of a
trigger, and every `Start` after a `Stop` panics. The `cron.Cron` of a cron trigger keeps its
entries, so each `Start` adds one more, and each tick of the schedule runs the workflow once for
every `Start` that succeeded before it. -/
namespace Workflows.Triggers

inductive StartResult where
  | ok
  | error (msg : String)
  | panic
  deriving DecidableEq, Repr

/-! ### `HTTPTrigger` -/

structure HTTPTrigger where
  id : String
  path : String
  active : Bool
  patterns : List String
  serving : Bool
  panicked : Bool
  deriving DecidableEq, Repr

def newHTTPTrigger (id path : String) : HTTPTrigger := ⟨id,path,false,[],false,false⟩

inductive HTTPAction where
  | start
  | stop
  | serveFails

section
variable (validPattern : String → Bool)

/-- `Start`; `HandleFunc` panics on a pattern that does not parse or that the mux already holds. -/
def HTTPTrigger.start (t : HTTPTrigger) : HTTPTrigger × StartResult :=
  if t.active then (t,.error ("HTTP trigger " ++ t.id ++ " is already active"))
  else if !validPattern t.path || t.patterns.contains t.path then ({ t with panicked := true },.panic)
  else ({ t with patterns := t.patterns ++ [t.path], active := true, serving := true },.ok)

def HTTPTrigger.stop (t : HTTPTrigger) : HTTPTrigger :=
  if t.active then { t with active := false, serving := false } else t

def HTTPTrigger.step (t : HTTPTrigger) (a : HTTPAction) : Option (HTTPTrigger × Option StartResult) :=
  if t.panicked then none
  else match a with
    | .start => some ((t.start validPattern).1,some (t.start validPattern).2)
    | .stop => some (t.stop,none)
    | .serveFails => if t.serving then some ({ t with active := false, serving := false },none) else none

def HTTPTrigger.run (t : HTTPTrigger) : List HTTPAction → Option (HTTPTrigger × List StartResult)
  | [] => some (t,[])
  | a :: rest => (t.step validPattern a).bind fun (t',r) => (t'.run rest).map fun (t'',rs) => (t'',r.toList ++ rs)

theorem HTTPTrigger.stepPatterns {t t' : HTTPTrigger} {a : HTTPAction} {r : Option StartResult} {k : Nat}
    (held : t.patterns = List.replicate k t.path) (once : k ≤ 1) (stepped : t.step validPattern a = some (t',r)) :
    t'.path = t.path ∧ t'.patterns = List.replicate (k + r.toList.count .ok) t.path ∧ k + r.toList.count .ok ≤ 1 := by
  unfold HTTPTrigger.step at stepped
  by_cases panicked : t.panicked
  · simp [panicked] at stepped
  rw [if_neg panicked] at stepped
  cases a with
  | start =>
    cases stepped
    unfold HTTPTrigger.start
    split_ifs with active refused
    · simpa using ⟨held,once⟩
    · simpa using ⟨held,once⟩
    · have fresh : k = 0 := by
        by_contra taken
        obtain rfl : k = 1 := by omega
        simp [held] at refused
      subst fresh
      simp [held]
  | stop =>
    cases stepped
    unfold HTTPTrigger.stop
    split_ifs <;> simpa using ⟨held,once⟩
  | serveFails =>
    simp only at stepped
    split_ifs at stepped
    cases stepped
    simpa using ⟨held,once⟩

theorem HTTPTrigger.runPatterns {t t' : HTTPTrigger} {acts : List HTTPAction} {rs : List StartResult} {k : Nat}
    (held : t.patterns = List.replicate k t.path) (once : k ≤ 1) (ran : t.run validPattern acts = some (t',rs)) :
    t'.path = t.path ∧ t'.patterns = List.replicate (k + rs.count .ok) t.path ∧ k + rs.count .ok ≤ 1 := by
  induction acts generalizing t k rs with
  | nil => cases ran; simpa using ⟨held,once⟩
  | cons a rest ih =>
    simp only [HTTPTrigger.run,Option.bind_eq_some,Option.map_eq_some'] at ran
    obtain ⟨⟨mid,r⟩,stepped,⟨last,rs'⟩,ran,same⟩ := ran
    cases same
    obtain ⟨path,held',once'⟩ := stepPatterns validPattern held once stepped
    obtain ⟨path',held'',once''⟩ := ih (path ▸ held') once' ran
    refine ⟨path'.trans path,?_,?_⟩ <;> rw [List.count_append,← Nat.add_assoc]
    · rw [held'',path]
    · exact once''

theorem startReturnsOnce {validPattern : String → Bool} {id path : String} {acts : List HTTPAction} {t : HTTPTrigger}
    {rs : List StartResult} (ran : (newHTTPTrigger id path).run validPattern acts = some (t,rs)) :
    rs.count .ok ≤ 1 ∧ (rs.count .ok = 1 → t.active = false → (t.start validPattern).2 = .panic) := by
  obtain ⟨path,held,once⟩ := HTTPTrigger.runPatterns validPattern (k := 0) rfl (by decide) ran
  refine ⟨by simpa using once,fun started inactive => ?_⟩
  rw [Nat.zero_add,started,← path] at held
  simp [HTTPTrigger.start,inactive,held]

end

theorem restartPanics : ∃ t rs, (newHTTPTrigger "http-trigger-1" "/trigger/workflow").run (fun _ => true) [.start,.stop] =
      some (t,rs) ∧ rs = [.ok] ∧ t.active = false ∧
    (rs.count .ok ≤ 1 ∧ (rs.count .ok = 1 → t.active = false → (t.start fun _ => true).2 = .panic)) :=
  ⟨_,_,rfl,rfl,rfl,@startReturnsOnce (fun _ => true) "http-trigger-1" "/trigger/workflow" [.start,.stop] _ _ rfl⟩

/-! ### `CronTrigger` -/

structure CronTrigger where
  id : String
  schedule : String
  active : Bool
  entries : List String
  running : Bool
  deriving DecidableEq, Repr

inductive CronAction where
  | start
  | stop
  | tick

inductive CronEvent where
  | started (result : StartResult)
  | stopped
  | fired (executions : Nat)
  deriving DecidableEq, Repr

section
variable (parse : String → Except String Unit)

def newCronTrigger (id schedule : String) : Except String CronTrigger :=
  match parse schedule with
  | .error err => .error ("invalid cron schedule: " ++ err)
  | .ok () => .ok ⟨id,schedule,false,[],false⟩

def CronTrigger.start (t : CronTrigger) : CronTrigger × StartResult :=
  if t.active then (t,.error ("cron trigger " ++ t.id ++ " is already active"))
  else match parse t.schedule with
    | .error err => (t,.error ("failed to add cron job: " ++ err))
    | .ok () => ({ t with entries := t.entries ++ [t.schedule], running := true, active := true },.ok)

def CronTrigger.stop (t : CronTrigger) : CronTrigger :=
  if t.active then { t with running := false, active := false } else t

/-- A step; a tick of a stopped cron runs nothing, and every entry of a running one runs the job. -/
def CronTrigger.step (t : CronTrigger) : CronAction → Option (CronTrigger × CronEvent)
  | .start => some ((t.start parse).1,.started (t.start parse).2)
  | .stop => some (t.stop,.stopped)
  | .tick => if t.running then some (t,.fired t.entries.length) else none

def CronTrigger.run (t : CronTrigger) : List CronAction → Option (CronTrigger × List CronEvent)
  | [] => some (t,[])
  | a :: rest => (t.step parse a).bind fun (t',e) => (t'.run rest).map fun (t'',es) => (t'',e :: es)

structure CronTrigger.Inv (k : Nat) (t : CronTrigger) : Prop where
  parsed : parse t.schedule = .ok ()
  entries : t.entries = List.replicate k t.schedule
  running : t.running = t.active

theorem alreadyActiveNotAddFailed (id msg : String) :
    "cron trigger " ++ id ++ " is already active" ≠ "failed to add cron job: " ++ msg := fun same => by
  have heads := congrArg (fun s : String => s.data.head?) same
  simp only [String.data_append,List.append_assoc,List.cons_append,List.head?_cons,Option.some.injEq] at heads
  exact absurd heads (by decide)

theorem CronTrigger.stepInv {k : Nat} {t t' : CronTrigger} {a : CronAction} {e : CronEvent} (inv : t.Inv parse k)
    (stepped : t.step parse a = some (t',e)) :
    t'.Inv parse (k + [e].count (.started .ok)) ∧ (∀ n, e = .fired n → n = k) ∧
      ∀ msg, e ≠ .started (.error ("failed to add cron job: " ++ msg)) := by
  cases a with
  | start =>
    cases stepped
    unfold CronTrigger.start
    split_ifs with active
    · refine ⟨by simpa using inv,nofun,fun msg same => ?_⟩
      simp only [CronEvent.started.injEq,StartResult.error.injEq] at same
      exact alreadyActiveNotAddFailed t.id msg same
    · simp only [inv.parsed]
      have one : [CronEvent.started .ok].count (.started .ok) = 1 := by decide
      rw [one]
      exact ⟨⟨inv.parsed,by simp [inv.entries,List.replicate_succ'],rfl⟩,nofun,nofun⟩
  | stop =>
    cases stepped
    have zero : [CronEvent.stopped].count (.started .ok) = 0 := by decide
    rw [zero,Nat.add_zero]
    refine ⟨?_,nofun,nofun⟩
    unfold CronTrigger.stop
    split_ifs with active
    · exact ⟨inv.parsed,inv.entries,rfl⟩
    · exact inv
  | tick =>
    simp only [CronTrigger.step] at stepped
    split_ifs at stepped
    cases stepped
    simpa [inv.entries] using inv

theorem CronTrigger.runInv {k : Nat} {t t' : CronTrigger} {acts : List CronAction} {evs : List CronEvent}
    (inv : t.Inv parse k) (ran : t.run parse acts = some (t',evs)) :
    (∀ pre n post, evs = pre ++ .fired n :: post → n = k + pre.count (.started .ok)) ∧
      ∀ msg, .started (.error ("failed to add cron job: " ++ msg)) ∉ evs := by
  induction acts generalizing t k evs with
  | nil => cases ran; exact ⟨fun pre _ _ split => absurd split.symm (by simp),fun _ => List.not_mem_nil _⟩
  | cons a rest ih =>
    simp only [CronTrigger.run,Option.bind_eq_some,Option.map_eq_some'] at ran
    obtain ⟨⟨mid,e⟩,stepped,⟨last,evs'⟩,ran,same⟩ := ran
    simp only [Prod.mk.injEq] at same
    obtain ⟨rfl,rfl⟩ := same
    obtain ⟨inv',fired,added⟩ := stepInv parse inv stepped
    obtain ⟨counted,never⟩ := ih inv' ran
    refine ⟨fun pre n post split => ?_,fun msg member => ?_⟩
    · cases pre with
      | nil =>
        obtain ⟨rfl,-⟩ := List.cons.inj split
        simpa using fired n rfl
      | cons e' pre =>
        obtain ⟨rfl,rest⟩ := List.cons.inj split
        rw [counted pre n post rest,Nat.add_assoc,← List.count_append]
        rfl
    · rcases List.mem_cons.mp member with here | later
      · exact added msg here.symm
      · exact never msg later

theorem tickRunsPerStart {parse : String → Except String Unit} {id schedule : String} {t₀ t : CronTrigger}
    (made : newCronTrigger parse id schedule = .ok t₀) {acts : List CronAction} {evs : List CronEvent}
    (ran : t₀.run parse acts = some (t,evs)) :
    (∀ pre n post, evs = pre ++ .fired n :: post → n = pre.count (.started .ok)) ∧
      ∀ msg, .started (.error ("failed to add cron job: " ++ msg)) ∉ evs := by
  unfold newCronTrigger at made
  split at made
  · cases made
  · rename_i parsed
    cases made
    simpa using CronTrigger.runInv parse (k := 0) ⟨parsed,rfl,rfl⟩ ran

end

theorem restartRunsTwice : ∃ t₀ t evs, newCronTrigger (fun _ => .ok ()) "cron-trigger-1" "*/30 * * * * *" = .ok t₀ ∧
    t₀.run (fun _ => .ok ()) [.start,.tick,.stop,.start,.tick] = some (t,evs) ∧
    evs = [.started .ok,.fired 1,.stopped,.started .ok,.fired 2] ∧
    (∀ pre n post, evs = pre ++ .fired n :: post → n = pre.count (.started .ok)) ∧
      ∀ msg, .started (.error ("failed to add cron job: " ++ msg)) ∉ evs :=
  ⟨_,_,_,rfl,rfl,rfl,@tickRunsPerStart (fun _ => .ok ()) "cron-trigger-1" "*/30 * * * * *" _ _ rfl
    [.start,.tick,.stop,.start,.tick] _ rfl⟩

end Workflows.Triggers
