import Workflows.EngineService
/-! `SecretsManager` of the orchestrator, with `GetSecret` run by any number of goroutines at
once and `ClearCache` and the clock in between. A call of `GetSecret` is three critical
sections: the check of the cache under the read lock, the request to Kubernetes, and the write
of the answer under the write lock; anything may run between two of them. Kubernetes is a
function of the time, the namespace and the name. Entries are keyed by `namespace/name`, and no
object name of Kubernetes has a `/`, so a key determines its pair: a call only ever returns
what Kubernetes gave for its own namespace and name, and a hit only an entry written less than
`ttl` before. -/
namespace Workflows.Secrets
open Engine (setKey)

structure Secret where
  data : List (String × String)
  deriving DecidableEq, Repr

structure SecretCacheEntry where
  secret : Secret
  expires : Nat
  deriving DecidableEq, Repr

/-- `defaultNamespace` is the field `namespace`; the client is the function `k8s` of the steps. -/
structure SecretsManager where
  defaultNamespace : String
  cache : List (String × SecretCacheEntry)
  ttl : Nat
  deriving DecidableEq, Repr

def newSecretsManager (ns : String) : SecretsManager := ⟨ns,[],5 * 60 * 1000000000⟩

def cacheKey (ns name : String) : String := ns ++ "/" ++ name

def SecretsManager.cached (sm : SecretsManager) (now : Nat) (key : String) : Option Secret :=
  match sm.cache.lookup key with
  | some entry => if now < entry.expires then some entry.secret else none
  | none => none

def SecretsManager.store (sm : SecretsManager) (now : Nat) (key : String) (secret : Secret) : SecretsManager :=
  { sm with cache := setKey sm.cache key ⟨secret,now + sm.ttl⟩ }

def SecretsManager.clearCache (sm : SecretsManager) : SecretsManager := { sm with cache := [] }

inductive Stage where
  | fetching
  | writing (secret : Secret)
  | returned (result : Except String Secret)

structure Call where
  name : String
  ns : String
  stage : Stage

structure System where
  sm : SecretsManager
  now : Nat
  calls : List Call

def initial (ns : String) (now : Nat) : System := ⟨newSecretsManager ns,now,[]⟩

inductive Action where
  | getSecret (name ns : String)
  | fetch (i : Nat)
  | write (i : Nat)
  | clearCache
  | tick (d : Nat)

def SecretsManager.check (sm : SecretsManager) (now : Nat) (name ns : String) : Call :=
  match sm.cached now (cacheKey ns name) with
  | some secret => ⟨name,ns,.returned (.ok secret)⟩
  | none => ⟨name,ns,.fetching⟩

def SecretsManager.begin (sm : SecretsManager) (now : Nat) (name ns : String) : Call :=
  sm.check now name (if ns = "" then sm.defaultNamespace else ns)

section
variable (k8s : Nat → String → String → Except String Secret)

def Call.answer (now : Nat) (c : Call) : Call :=
  match k8s now c.ns c.name with
  | .ok secret => { c with stage := .writing secret }
  | .error err => { c with stage := .returned (.error ("failed to get secret " ++ c.ns ++ "/" ++ c.name ++ ": " ++ err)) }

def step (s : System) : Action → Option System
  | .getSecret name ns => some { s with calls := s.calls ++ [s.sm.begin s.now name ns] }
  | .fetch i =>
    match s.calls[i]? with
    | some c@⟨_,_,.fetching⟩ => some { s with calls := s.calls.set i (c.answer k8s s.now) }
    | _ => none
  | .write i =>
    match s.calls[i]? with
    | some ⟨name,ns,.writing secret⟩ =>
      some ⟨s.sm.store s.now (cacheKey ns name) secret,s.now,s.calls.set i ⟨name,ns,.returned (.ok secret)⟩⟩
    | _ => none
  | .clearCache => some { s with sm := s.sm.clearCache }
  | .tick d => some { s with now := s.now + d }

def run (s : System) : List Action → Option System
  | [] => some s
  | a :: rest => (step k8s s a).bind fun s' => run s' rest

/-! ### The invariant -/

/-- The entry of `key` holds what Kubernetes gave at `fetched` for the pair of the key, and was
written at `written`, after the fetch. -/
def Cached (now ttl : Nat) (key : String) (entry : SecretCacheEntry) : Prop :=
  ∃ ns name fetched written, key = cacheKey ns name ∧ k8s fetched ns name = .ok entry.secret ∧ fetched ≤ written ∧
    written ≤ now ∧ entry.expires = written + ttl

structure Call.Sound (now : Nat) (c : Call) : Prop where
  writing : ∀ secret, c.stage = .writing secret → ∃ fetched ≤ now, k8s fetched c.ns c.name = .ok secret
  returned : ∀ secret, c.stage = .returned (.ok secret) →
    ∃ ns name fetched, cacheKey ns name = cacheKey c.ns c.name ∧ fetched ≤ now ∧ k8s fetched ns name = .ok secret

structure Sound (s : System) : Prop where
  entries : ∀ key entry, s.sm.cache.lookup key = some entry → Cached k8s s.now s.sm.ttl key entry
  calls : ∀ c ∈ s.calls, c.Sound k8s s.now

variable {k8s}

theorem Cached.mono {now now' ttl : Nat} {key : String} {entry : SecretCacheEntry} (later : now ≤ now')
    (cached : Cached k8s now ttl key entry) : Cached k8s now' ttl key entry :=
  let ⟨ns,name,fetched,written,named,got,before,past,expires⟩ := cached
  ⟨ns,name,fetched,written,named,got,before,Nat.le_trans past later,expires⟩

theorem Call.Sound.mono {now now' : Nat} {c : Call} (later : now ≤ now') (sound : c.Sound k8s now) : c.Sound k8s now' :=
  ⟨fun secret holding => let ⟨fetched,past,got⟩ := sound.writing secret holding; ⟨fetched,Nat.le_trans past later,got⟩,
    fun secret done => let ⟨ns,name,fetched,named,past,got⟩ := sound.returned secret done
      ⟨ns,name,fetched,named,Nat.le_trans past later,got⟩⟩

theorem cachedEntry {sm : SecretsManager} {now : Nat} {key : String} {secret : Secret}
    (hit : sm.cached now key = some secret) : ∃ entry, sm.cache.lookup key = some entry ∧ now < entry.expires ∧
      entry.secret = secret := by
  unfold SecretsManager.cached at hit
  split at hit
  · rename_i entry found
    split_ifs at hit with live
    exact ⟨entry,found,live,Option.some.inj hit⟩
  · cases hit

theorem Sound.cachedFresh {s : System} (sound : Sound k8s s) {key : String} {secret : Secret}
    (hit : s.sm.cached s.now key = some secret) : ∃ ns name fetched written, key = cacheKey ns name ∧
      k8s fetched ns name = .ok secret ∧ fetched ≤ written ∧ written ≤ s.now ∧ s.now < written + s.sm.ttl := by
  obtain ⟨entry,found,live,rfl⟩ := cachedEntry hit
  obtain ⟨ns,name,fetched,written,named,got,before,past,expires⟩ := sound.entries key entry found
  exact ⟨ns,name,fetched,written,named,got,before,past,expires ▸ live⟩

theorem checkSound {s : System} (sound : Sound k8s s) (name ns : String) : (s.sm.check s.now name ns).Sound k8s s.now := by
  unfold SecretsManager.check
  split
  · rename_i secret hit
    refine ⟨fun _ => nofun,fun secret' done => ?_⟩
    cases done
    obtain ⟨ns',name',fetched,written,named,got,before,past,-⟩ := sound.cachedFresh hit
    exact ⟨ns',name',fetched,named.symm,Nat.le_trans before past,got⟩
  · exact ⟨fun _ => nofun,fun _ => nofun⟩

theorem answerSound (now : Nat) (c : Call) : (c.answer k8s now).Sound k8s now := by
  unfold Call.answer
  split
  · rename_i secret got
    exact ⟨fun secret' holding => ⟨now,Nat.le_refl now,by cases holding; exact got⟩,fun _ => nofun⟩
  · exact ⟨fun _ => nofun,fun _ => nofun⟩

theorem forallMemSet {l : List Call} {P : Call → Prop} (all : ∀ c ∈ l, P c) (i : Nat) {c' : Call} (new : P c') :
    ∀ c ∈ l.set i c', P c := fun c mem =>
  (List.mem_or_eq_of_mem_set mem).elim (all c) fun same => same ▸ new

/-! ### Every interleaving keeps it -/

theorem soundStep {s s' : System} {a : Action} (sound : Sound k8s s) (stepped : step k8s s a = some s') :
    Sound k8s s' := by
  cases a with
  | getSecret name ns =>
    cases stepped
    refine ⟨sound.entries,fun c mem => ?_⟩
    rcases List.mem_append.mp mem with old | new
    · exact sound.calls c old
    · rw [List.mem_singleton.mp new]; exact checkSound sound name _
  | fetch i =>
    simp only [step] at stepped
    split at stepped
    · cases stepped
      exact ⟨sound.entries,forallMemSet sound.calls i (answerSound _ _)⟩
    · cases stepped
  | write i =>
    simp only [step] at stepped
    split at stepped
    · rename_i name ns secret found
      cases stepped
      obtain ⟨fetched,past,got⟩ := (sound.calls _ (List.mem_iff_getElem?.mpr ⟨i,found⟩)).writing secret rfl
      refine ⟨fun key entry stored => ?_,forallMemSet sound.calls i ⟨fun _ => nofun,fun _ done => ?_⟩⟩
      · simp only [SecretsManager.store,Engine.lookupSetKey] at stored
        split_ifs at stored with same
        · cases stored
          exact ⟨ns,name,fetched,s.now,same,got,past,Nat.le_refl _,rfl⟩
        · exact sound.entries key entry stored
      · cases done
        exact ⟨ns,name,fetched,rfl,past,got⟩
    · cases stepped
  | clearCache =>
    cases stepped
    exact ⟨fun _ _ => nofun,sound.calls⟩
  | tick d =>
    cases stepped
    have later : s.now ≤ s.now + d := Nat.le_add_right _ _
    exact ⟨fun key entry stored => (sound.entries key entry stored).mono later,
      fun c mem => (sound.calls c mem).mono later⟩

theorem soundRun {s s' : System} {acts : List Action} (sound : Sound k8s s) (ran : run k8s s acts = some s') :
    Sound k8s s' := by
  induction acts generalizing s with
  | nil => cases ran; exact sound
  | cons a rest ih =>
    simp only [run,Option.bind_eq_some] at ran
    obtain ⟨mid,stepped,ran⟩ := ran
    exact ih (soundStep sound stepped) ran

theorem soundInitial (ns : String) (now : Nat) : Sound k8s (initial ns now) :=
  ⟨fun _ _ => nofun,nofun⟩

end

/-! ### The keys -/

theorem slashSplit : ∀ {a b c d : List Char}, '/' ∉ a → '/' ∉ b → a ++ '/' :: b = c ++ '/' :: d → a = c ∧ b = d
  | [], b, [], d, _, _, same => ⟨rfl,(List.cons.inj same).2⟩
  | [], b, x :: c, d, _, slashFree, same => by
    obtain ⟨rfl,rest⟩ := List.cons.inj same
    exact absurd (rest ▸ List.mem_append_right c (List.mem_cons_self '/' d)) slashFree
  | y :: a, b, [], d, slashFree, _, same => absurd ((List.cons.inj same).1 ▸ List.mem_cons_self y a) slashFree
  | y :: a, b, x :: c, d, slashFreeA, slashFreeB, same => by
    obtain ⟨rfl,rest⟩ := List.cons.inj same
    obtain ⟨rfl,rfl⟩ := slashSplit (fun mem => slashFreeA (List.mem_cons_of_mem y mem)) slashFreeB rest
    exact ⟨rfl,rfl⟩

theorem cacheKeyInj {ns name ns' name' : String} (nsFree : '/' ∉ ns.data) (nameFree : '/' ∉ name.data)
    (same : cacheKey ns name = cacheKey ns' name') : ns = ns' ∧ name = name' := by
  have split := slashSplit nsFree nameFree (by simpa [cacheKey] using congrArg String.data same)
  exact ⟨String.ext split.1,String.ext split.2⟩

def ObjectNames (k8s : Nat → String → String → Except String Secret) : Prop :=
  ∀ t ns name secret, k8s t ns name = .ok secret → '/' ∉ ns.data ∧ '/' ∉ name.data

def dbSecret : Secret := ⟨[("password","hunter2")]⟩

def dbCluster (_ : Nat) (ns name : String) : Except String Secret :=
  if ns = "default" ∧ name = "db" then .ok dbSecret else .error "not found"

theorem dbClusterNames : ObjectNames dbCluster := by
  intro t ns name secret got
  unfold dbCluster at got
  split_ifs at got with pair
  obtain ⟨rfl,rfl⟩ := pair
  decide

def twoCalls : List Action := [.getSecret "db" "",.fetch 0,.write 0,.tick 1,.getSecret "db" ""]

theorem getSecretFromKubernetes {k8s : Nat → String → String → Except String Secret} (names : ObjectNames k8s)
    {ns : String} {now : Nat} {acts : List Action} {s : System} (ran : run k8s (initial ns now) acts = some s)
    {c : Call} (mem : c ∈ s.calls) {secret : Secret} (done : c.stage = .returned (.ok secret)) :
    ∃ fetched ≤ s.now, k8s fetched c.ns c.name = .ok secret := by
  obtain ⟨ns',name',fetched,named,past,got⟩ := ((soundRun (soundInitial ns now) ran).calls c mem).returned secret done
  obtain ⟨nsFree,nameFree⟩ := names _ _ _ _ got
  obtain ⟨rfl,rfl⟩ := cacheKeyInj nsFree nameFree named
  exact ⟨fetched,past,got⟩

theorem twoCallsFromKubernetes : ∃ s, run dbCluster (initial "default" 0) twoCalls = some s ∧
    ∃ c ∈ s.calls, c.stage = .returned (.ok dbSecret) ∧ ∃ fetched ≤ s.now, dbCluster fetched c.ns c.name = .ok dbSecret :=
  ⟨_,rfl,_,List.mem_cons_self _ _,rfl,@getSecretFromKubernetes dbCluster dbClusterNames "default" 0 twoCalls _ rfl _ (List.mem_cons_self _ _) _ rfl⟩

theorem cacheHitFresh {k8s : Nat → String → String → Except String Secret} {ns : String} {now : Nat}
    {acts : List Action} {s : System} (ran : run k8s (initial ns now) acts = some s) {key : String} {secret : Secret}
    (hit : s.sm.cached s.now key = some secret) : ∃ ns' name fetched written, key = cacheKey ns' name ∧
      k8s fetched ns' name = .ok secret ∧ fetched ≤ written ∧ written ≤ s.now ∧ s.now < written + s.sm.ttl :=
  (soundRun (soundInitial ns now) ran).cachedFresh hit

theorem twoCallsHitFresh : ∃ s, run dbCluster (initial "default" 0) twoCalls = some s ∧
    s.sm.cached s.now (cacheKey "default" "db") = some dbSecret ∧
    ∃ ns' name fetched written, cacheKey "default" "db" = cacheKey ns' name ∧ dbCluster fetched ns' name = .ok dbSecret ∧
      fetched ≤ written ∧ written ≤ s.now ∧ s.now < written + s.sm.ttl :=
  ⟨_,rfl,rfl,@cacheHitFresh dbCluster "default" 0 twoCalls _ rfl _ _ rfl⟩

end Workflows.Secrets
