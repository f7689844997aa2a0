import SetProtocol.Registry.Controller

/-!
# The caching valuer

Valuations are kept with the time at which they were made and served again until they are
stale.  A valuation that is replaced is announced by an event, so that the events tell what
the cache should hold.  The sum that decides about staleness is not checked.
-/

namespace SetProtocol.CachedSetValuer

open Transaction

structure CachedValuation where
  value : ℕ
  timestamp : ℕ
  deriving DecidableEq

structure ValuationInfo where
  cachedValue : ℕ
  currentValue : ℕ
  lastUpdateTimestamp : ℕ
  isStale : Bool
  deriving DecidableEq

/-- The event that `_updateCache` emits. -/
structure CacheUpdated where
  setToken : Address
  quoteAsset : Address
  valuation : ℕ
  timestamp : ℕ
  deriving DecidableEq

/-- The valuers and rebasing modules, over what else is on the chain. -/
structure Contracts (E : Type) where
  /-- `ISetValuer`, a view: valuer, SetToken, quote asset. -/
  calculateSetTokenValuation : Address → Address → Address → E → Outcome ℕ
  /-- `IRebasingComponentModule`: module, SetToken. -/
  sync : Address → Address → E → Outcome E

structure World (E : Type) where
  controller : Controller
  owner : Address
  setValuer : Address
  rebasingModule : Address
  maxStaleness : ℕ
  /-- SetToken, then quote asset. -/
  cachedValuations : Address → Address → CachedValuation
  /-- Of the block. -/
  timestamp : ℕ
  environment : E
  /-- Newest first. -/
  events : List CacheUpdated

variable {E : Type}

/-- The constructor. -/
def deploy (controller : Controller) (owner setValuer rebasingModule : Address)
    (maxStaleness timestamp : ℕ) (environment : E) : Outcome (World E) := do
  require (controller.isResource setValuer = true) "SetValuer must be enabled on Controller"
  require (rebasingModule = zeroAddress ∨ controller.isModule rebasingModule = true)
    "RebasingModule must be enabled on Controller"
  pure {
    controller := controller
    owner := owner
    setValuer := setValuer
    rebasingModule := rebasingModule
    maxStaleness := maxStaleness
    cachedValuations := fun _ _ => ⟨0, 0⟩
    timestamp := timestamp
    environment := environment
    events := [] }

/-- The sum wraps around. -/
def isCacheValid (world : World E) (timestamp : ℕ) : Bool :=
  decide (timestamp ≠ 0 ∧ world.timestamp ≤ (timestamp + world.maxStaleness) % 2 ^ 256)

/-- `_updateCache` -/
def storeValuation (world : World E) (setToken quoteAsset : Address) (newValuation : ℕ) :
    World E :=
  { world with
    cachedValuations := Function.update world.cachedValuations setToken
      (Function.update (world.cachedValuations setToken) quoteAsset
        ⟨newValuation, world.timestamp⟩)
    events := ⟨setToken, quoteAsset, newValuation, world.timestamp⟩ :: world.events }

/-- Sync if there is a rebasing module. -/
def syncComponents (contracts : Contracts E) (world : World E) (setToken : Address) :
    Outcome (World E) :=
  if world.rebasingModule ≠ zeroAddress then do
    let environment ← contracts.sync world.rebasingModule setToken world.environment
    pure { world with environment := environment }
  else pure world

def calculateSetTokenValuation (contracts : Contracts E) (world : World E)
    (setToken quoteAsset : Address) : Outcome (World E × ℕ) := do
  require (world.controller.isResource world.setValuer = true)
    "SetValuer must be enabled on Controller"
  let cachedValuation := world.cachedValuations setToken quoteAsset
  if isCacheValid world cachedValuation.timestamp = true then
    pure (world, cachedValuation.value)
  else do
    let synced ← syncComponents contracts world setToken
    let newValuation ← contracts.calculateSetTokenValuation synced.setValuer setToken
      quoteAsset synced.environment
    pure (storeValuation synced setToken quoteAsset newValuation, newValuation)

def updateCache (contracts : Contracts E) (world : World E)
    (setToken quoteAsset : Address) : Outcome (World E) := do
  let synced ← syncComponents contracts world setToken
  let newValuation ← contracts.calculateSetTokenValuation synced.setValuer setToken
    quoteAsset synced.environment
  pure (storeValuation synced setToken quoteAsset newValuation)

def previewValuation (contracts : Contracts E) (world : World E)
    (setToken quoteAsset : Address) : Outcome ValuationInfo := do
  let cachedValuation := world.cachedValuations setToken quoteAsset
  let currentValue ← contracts.calculateSetTokenValuation world.setValuer setToken
    quoteAsset world.environment
  pure {
    cachedValue := cachedValuation.value
    currentValue := currentValue
    lastUpdateTimestamp := cachedValuation.timestamp
    isStale := !isCacheValid world cachedValuation.timestamp }

/-! ## Calls of the owner -/

def onlyOwner (world : World E) (sender : Address) : Outcome Unit :=
  require (sender = world.owner) "Ownable: caller is not the owner"

def setMaxStaleness (world : World E) (sender : Address) (maxStaleness : ℕ) :
    Outcome (World E) := do
  onlyOwner world sender
  pure { world with maxStaleness := maxStaleness }

def setSetValuer (world : World E) (sender setValuer : Address) : Outcome (World E) := do
  onlyOwner world sender
  require (world.controller.isResource setValuer = true)
    "SetValuer must be enabled on Controller"
  pure { world with setValuer := setValuer }

def setRebasingModule (world : World E) (sender rebasingModule : Address) :
    Outcome (World E) := do
  onlyOwner world sender
  require (world.controller.isModule rebasingModule = true)
    "RebasingModule must be enabled on Controller"
  pure { world with rebasingModule := rebasingModule }

/-! ## Runs -/

/-- The calls of the contract, and what happens outside of it until a later block. -/
inductive Call (E : Type)
  | calculateSetTokenValuation (setToken quoteAsset : Address)
  | updateCache (setToken quoteAsset : Address)
  | setMaxStaleness (sender : Address) (maxStaleness : ℕ)
  | setSetValuer (sender setValuer : Address)
  | setRebasingModule (sender rebasingModule : Address)
  | outside (controller : Controller) (environment : E) (timestamp : ℕ)

def perform (contracts : Contracts E) (call : Call E) (world : World E) :
    Outcome (World E) :=
  match call with
  | .calculateSetTokenValuation setToken quoteAsset => do
      let (next, _) ← calculateSetTokenValuation contracts world setToken quoteAsset
      pure next
  | .updateCache setToken quoteAsset => updateCache contracts world setToken quoteAsset
  | .setMaxStaleness sender maxStaleness => setMaxStaleness world sender maxStaleness
  | .setSetValuer sender setValuer => setSetValuer world sender setValuer
  | .setRebasingModule sender rebasingModule =>
      setRebasingModule world sender rebasingModule
  | .outside controller environment timestamp => do
      require (world.timestamp ≤ timestamp) "time does not go back"
      pure { world with
        controller := controller, environment := environment, timestamp := timestamp }

/-- The newest valuation of a pair. -/
def lastUpdate (world : World E) (setToken quoteAsset : Address) : Option CacheUpdated :=
  world.events.find? fun event =>
    event.setToken == setToken && event.quoteAsset == quoteAsset

/-- The last valuation is not older than allowed. -/
def Fresh (world : World E) (setToken quoteAsset : Address) : Prop :=
  ∃ last, lastUpdate world setToken quoteAsset = some last ∧
    world.timestamp - last.timestamp ≤ world.maxStaleness

/-- The sum of the last time and the period does not wrap. -/
def NoWrap (world : World E) (setToken quoteAsset : Address) : Prop :=
  ∀ last, lastUpdate world setToken quoteAsset = some last →
    last.timestamp + world.maxStaleness ≤ maxUint256

/-- After syncing, the valuer that is configured answers what the event says. -/
def Computes (contracts : Contracts E) (world : World E) (event : CacheUpdated) : Prop :=
  event.timestamp = world.timestamp ∧
    ∃ synced, syncComponents contracts world event.setToken = .ok synced ∧
      contracts.calculateSetTokenValuation world.setValuer event.setToken event.quoteAsset
        synced.environment = .ok event.valuation

/-! ## What one call does -/

variable {contracts : Contracts E} {world next : World E} {setToken quoteAsset : Address}

theorem syncComponents_eq_ok {synced : World E}
    (hcall : syncComponents contracts world setToken = .ok synced) :
    ∃ environment, synced = { world with environment := environment } := by
  rw [syncComponents] at hcall
  split at hcall
  · simp only [bind_eq_ok, pure_eq_ok] at hcall
    obtain ⟨environment, -, rfl⟩ := hcall
    exact ⟨environment, rfl⟩
  · rw [pure_eq_ok] at hcall
    exact ⟨world.environment, hcall.symm⟩

/-- What a call leaves behind that announces a valuation. -/
structure Stores (contracts : Contracts E) (world next : World E) (event : CacheUpdated) :
    Prop where
  computes : Computes contracts world event
  cached : next.cachedValuations =
    Function.update world.cachedValuations event.setToken
      (Function.update (world.cachedValuations event.setToken) event.quoteAsset
        ⟨event.valuation, event.timestamp⟩)
  events : next.events = event :: world.events
  timestamp : next.timestamp = world.timestamp

theorem updateCache_eq_ok
    (hcall : updateCache contracts world setToken quoteAsset = .ok next) :
    ∃ value, Stores contracts world next ⟨setToken, quoteAsset, value, world.timestamp⟩ := by
  simp only [updateCache, bind_eq_ok, pure_eq_ok] at hcall
  obtain ⟨synced, hsynced, value, hvalue, rfl⟩ := hcall
  obtain ⟨environment, rfl⟩ := syncComponents_eq_ok hsynced
  exact ⟨value, ⟨rfl, _, hsynced, hvalue⟩, rfl, rfl, rfl⟩

/-- A valuation is served from the cache, or made and stored. -/
theorem calculateSetTokenValuation_eq_ok {value : ℕ}
    (hcall : calculateSetTokenValuation contracts world setToken quoteAsset =
      .ok (next, value)) :
    isCacheValid world (world.cachedValuations setToken quoteAsset).timestamp = true ∧
        next = world ∧ value = (world.cachedValuations setToken quoteAsset).value ∨
      isCacheValid world (world.cachedValuations setToken quoteAsset).timestamp = false ∧
        Stores contracts world next ⟨setToken, quoteAsset, value, world.timestamp⟩ := by
  simp only [calculateSetTokenValuation, bind_eq_ok] at hcall
  obtain ⟨_, -, hcall⟩ := hcall
  split at hcall
  · rename_i hvalid
    rw [pure_eq_ok, Prod.mk.injEq] at hcall
    obtain ⟨rfl, rfl⟩ := hcall
    exact Or.inl ⟨hvalid, rfl, rfl⟩
  · rename_i hstale
    simp only [bind_eq_ok, pure_eq_ok, Prod.mk.injEq] at hcall
    obtain ⟨synced, hsynced, _, hvalue, rfl, rfl⟩ := hcall
    obtain ⟨environment, rfl⟩ := syncComponents_eq_ok hsynced
    exact Or.inr ⟨Bool.eq_false_iff.mpr hstale, ⟨rfl, _, hsynced, hvalue⟩, rfl, rfl, rfl⟩

/-- A call either stores a valuation or leaves the cache alone. -/
theorem perform_eq_ok {call : Call E} (hcall : perform contracts call world = .ok next) :
    (∃ event, Stores contracts world next event) ∨
      next.cachedValuations = world.cachedValuations ∧ next.events = world.events ∧
        world.timestamp ≤ next.timestamp := by
  cases call with
  | calculateSetTokenValuation setToken quoteAsset =>
      simp only [perform, bind_eq_ok, pure_eq_ok] at hcall
      obtain ⟨⟨stored, value⟩, hcalculated, rfl⟩ := hcall
      rcases calculateSetTokenValuation_eq_ok hcalculated with ⟨-, rfl, -⟩ | ⟨-, hstores⟩
      · exact Or.inr ⟨rfl, rfl, le_refl _⟩
      · exact Or.inl ⟨_, hstores⟩
  | updateCache setToken quoteAsset =>
      obtain ⟨value, hstores⟩ := updateCache_eq_ok hcall
      exact Or.inl ⟨_, hstores⟩
  | setMaxStaleness sender maxStaleness =>
      simp only [perform, setMaxStaleness, bind_eq_ok, pure_eq_ok] at hcall
      obtain ⟨_, -, rfl⟩ := hcall
      exact Or.inr ⟨rfl, rfl, le_refl _⟩
  | setSetValuer sender setValuer =>
      simp only [perform, setSetValuer, bind_eq_ok, pure_eq_ok] at hcall
      obtain ⟨_, -, _, -, rfl⟩ := hcall
      exact Or.inr ⟨rfl, rfl, le_refl _⟩
  | setRebasingModule sender rebasingModule =>
      simp only [perform, setRebasingModule, bind_eq_ok, pure_eq_ok] at hcall
      obtain ⟨_, -, _, -, rfl⟩ := hcall
      exact Or.inr ⟨rfl, rfl, le_refl _⟩
  | outside controller environment timestamp =>
      simp only [perform, bind_eq_ok, require_eq_ok, pure_eq_ok] at hcall
      obtain ⟨_, hlater, rfl⟩ := hcall
      exact Or.inr ⟨rfl, rfl, hlater⟩

/-! ## The cache and the events -/

/-- The cache holds for each pair what the newest event says. -/
structure Recorded (world : World E) : Prop where
  cached : ∀ setToken quoteAsset, world.cachedValuations setToken quoteAsset =
    (lastUpdate world setToken quoteAsset).elim ⟨0, 0⟩
      fun last => ⟨last.valuation, last.timestamp⟩
  past : ∀ event ∈ world.events, 0 < event.timestamp ∧ event.timestamp ≤ world.timestamp
  positive : 0 < world.timestamp

theorem lastUpdate_cons {event : CacheUpdated} (hevents : next.events = event :: world.events) :
    lastUpdate next setToken quoteAsset =
      if event.setToken = setToken ∧ event.quoteAsset = quoteAsset then some event
      else lastUpdate world setToken quoteAsset := by
  rw [lastUpdate, hevents, List.find?_cons]
  by_cases hpair : event.setToken = setToken ∧ event.quoteAsset = quoteAsset
  · simp [hpair]
  · rw [if_neg hpair]
    have hother : (event.setToken == setToken && event.quoteAsset == quoteAsset) = false := by
      simpa [Bool.and_eq_true] using hpair
    rw [hother]
    rfl

theorem Recorded.stores {event : CacheUpdated} (hrecorded : Recorded world)
    (hstores : Stores contracts world next event) : Recorded next := by
  have htime : event.timestamp = world.timestamp := hstores.computes.1
  refine ⟨fun setToken quoteAsset => ?_, fun other hother => ?_, ?_⟩
  · rw [lastUpdate_cons hstores.events, hstores.cached]
    by_cases hset : setToken = event.setToken
    · subst hset
      rw [Function.update_self]
      by_cases hquote : quoteAsset = event.quoteAsset
      · subst hquote
        rw [Function.update_self, if_pos ⟨rfl, rfl⟩, Option.elim_some]
      · rw [Function.update_of_ne hquote, if_neg fun hpair => hquote hpair.2.symm]
        exact hrecorded.cached _ _
    · rw [Function.update_of_ne hset, if_neg fun hpair => hset hpair.1.symm]
      exact hrecorded.cached _ _
  · rw [hstores.events] at hother
    rw [hstores.timestamp]
    rcases List.mem_cons.mp hother with rfl | hmem
    · rw [htime]
      exact ⟨hrecorded.positive, le_refl _⟩
    · exact hrecorded.past other hmem
  · rw [hstores.timestamp]
    exact hrecorded.positive

theorem perform_recorded {call : Call E} (hrecorded : Recorded world)
    (hcall : perform contracts call world = .ok next) : Recorded next := by
  rcases perform_eq_ok hcall with ⟨event, hstores⟩ | ⟨hcached, hevents, hlater⟩
  · exact hrecorded.stores hstores
  · refine ⟨fun setToken quoteAsset => ?_, fun event hevent => ?_, ?_⟩
    · rw [hcached, lastUpdate, hevents]
      exact hrecorded.cached setToken quoteAsset
    · obtain ⟨hpositive, hpast⟩ := hrecorded.past event (hevents ▸ hevent)
      exact ⟨hpositive, hpast.trans hlater⟩
    · exact hrecorded.positive.trans_le hlater

theorem run_recorded {start : World E} (hrecorded : Recorded start) (calls : List (Call E)) :
    Recorded (run (perform contracts) calls start) :=
  run_preserves Recorded (fun _ _ _ _ hstate hcall => perform_recorded hstate hcall) hrecorded

/-- Whatever the events say was computed in an earlier state of the run. -/
theorem computed_of_mem_events {start : World E} (hstart : start.events = [])
    {calls : List (Call E)} {event : CacheUpdated}
    (hevent : event ∈ (run (perform contracts) calls start).events) :
    ∃ earlier call, earlier ++ [call] <+: calls ∧
      Computes contracts (run (perform contracts) earlier start) event := by
  induction calls using List.reverseRecOn with
  | nil =>
      rw [run_nil, hstart] at hevent
      exact absurd hevent List.not_mem_nil
  | append_singleton before call ih =>
      have hearlier : event ∈ (run (perform contracts) before start).events →
          ∃ earlier other, earlier ++ [other] <+: before ++ [call] ∧
            Computes contracts (run (perform contracts) earlier start) event := by
        intro hmem
        obtain ⟨earlier, other, hother, hcomputes⟩ := ih hmem
        exact ⟨earlier, other, hother.trans (List.prefix_append before [call]), hcomputes⟩
      rw [run_append, run_cons, run_nil] at hevent
      cases hcall : perform contracts call (run (perform contracts) before start) with
      | error reason =>
          rw [settle_of_error hcall] at hevent
          exact hearlier hevent
      | ok next =>
          rw [settle_of_ok hcall] at hevent
          rcases perform_eq_ok hcall with ⟨stored, hstores⟩ | ⟨-, hevents, -⟩
          · rw [hstores.events] at hevent
            rcases List.mem_cons.mp hevent with rfl | hmem
            · exact ⟨before, call, List.prefix_refl _, hstores.computes⟩
            · exact hearlier hmem
          · exact hearlier (hevents ▸ hevent)

/-! ## Freshness -/

/-- The cache is valid while it is fresh, as long as the sum does not wrap. -/
theorem isCacheValid_iff_fresh (hrecorded : Recorded world)
    (hwrap : NoWrap world setToken quoteAsset) :
    isCacheValid world (world.cachedValuations setToken quoteAsset).timestamp = true ↔
      Fresh world setToken quoteAsset := by
  rw [isCacheValid, decide_eq_true_eq, hrecorded.cached, Fresh]
  cases hlast : lastUpdate world setToken quoteAsset with
  | none => simp
  | some last =>
      have hmem : last ∈ world.events := List.mem_of_find?_eq_some hlast
      obtain ⟨hpositive, hpast⟩ := hrecorded.past last hmem
      have hsum := hwrap last hlast
      rw [maxUint256] at hsum
      simp only [Option.elim_some, Option.some.injEq, exists_eq_left']
      rw [Nat.mod_eq_of_lt (by omega)]
      omega

theorem Stores.ne {event : CacheUpdated} (hstores : Stores contracts world next event) :
    next ≠ world := by
  rintro rfl
  have hlength := congrArg List.length hstores.events
  simp at hlength

/-- Valuer 11 answers 100, any other 200. -/
def twoValuers : Contracts Unit where
  calculateSetTokenValuation valuer _ _ _ := .ok (if valuer = 11 then 100 else 200)
  sync _ _ environment := .ok environment

def twoValuersController : Controller :=
  { Controller.deploy 1 2 with isResource := fun resource => resource = 11 ∨ resource = 12 }

/-- Owned by account 7, with valuer 11 and a period of 60 seconds, at time 1000. -/
def freshlyDeployed : World Unit where
  controller := twoValuersController
  owner := 7
  setValuer := 11
  rebasingModule := zeroAddress
  maxStaleness := 60
  cachedValuations := fun _ _ => ⟨0, 0⟩
  timestamp := 1000
  environment := ()
  events := []

/-- A valuation is made and the time goes on. -/
def valuedOnce : List (Call Unit) :=
  [.calculateSetTokenValuation 21 22, .outside twoValuersController () 1050]

theorem freshlyDeployed_eq :
    deploy twoValuersController 7 11 zeroAddress 60 1000 () = .ok freshlyDeployed := rfl

end SetProtocol.CachedSetValuer
