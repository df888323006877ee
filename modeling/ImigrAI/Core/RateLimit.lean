import ImigrAI.Foundations.Answers
import Mathlib.Data.List.Induction
import Mathlib.Logic.Function.Basic
import Mathlib.Data.Nat.Basic
import Mathlib.Order.Lattice

/-!
# The rate limiter

`_allow_request` over the Redis in memory, and `_allow_fallback`. The first deletes an expired
counter, counts, and gives a new counter its expiry by a call of its own; the second resets the
counter in place. They decide alike, and both allow the first calls of every window only. The
clock is read once for each call.
-/

namespace ImigrAI.Core

open Answers Function

variable {Key Time : Type} [DecidableEq Key] [LinearOrder Time] [Add Time]

structure RequestCall (Key Time : Type) where
  redisKey : Key
  limit : ℕ
  windowSeconds : Time
  now : Time

/-- `_store`, a counter with the time of its expiry for each key. -/
abbrev InMemoryRedis (Key Time : Type) := Key → Option (ℕ × Option Time)

namespace InMemoryRedis

omit [Add Time] in
def deleteIfExpired (store : InMemoryRedis Key Time) (key : Key) (now : Time) :
    InMemoryRedis Key Time :=
  match store key with
  | some (_, some expiresAt) => if expiresAt ≤ now then update store key none else store
  | _ => store

omit [Add Time] in
def incr (store : InMemoryRedis Key Time) (key : Key) (now : Time) :
    ℕ × InMemoryRedis Key Time :=
  let store := store.deleteIfExpired key now
  let item := (store key).getD (0, none)
  (item.1 + 1, update store key (some (item.1 + 1, item.2)))

def expire (store : InMemoryRedis Key Time) (key : Key) (seconds now : Time) :
    Bool × InMemoryRedis Key Time :=
  let store := store.deleteIfExpired key now
  match store key with
  | none => (false, store)
  | some (value, _) => (true, update store key (some (value, some (now + seconds))))

end InMemoryRedis

/-- `_allow_request`. -/
def allowRequest (store : InMemoryRedis Key Time) (call : RequestCall Key Time) :
    Bool × InMemoryRedis Key Time :=
  let counted := store.incr call.redisKey call.now
  let store :=
    if counted.1 = 1 then (counted.2.expire call.redisKey call.windowSeconds call.now).2
    else counted.2
  (counted.1 ≤ call.limit, store)

/-- `_fallback_store`. -/
abbrev FallbackStore (Key Time : Type) := Key → Option (ℕ × Time)

/-- `_allow_fallback`. -/
def allowFallback (store : FallbackStore Key Time) (call : RequestCall Key Time) :
    Bool × FallbackStore Key Time :=
  let stored := (store call.redisKey).getD (0, call.now + call.windowSeconds)
  let current := if stored.2 ≤ call.now then (0, call.now + call.windowSeconds) else stored
  (current.1 + 1 ≤ call.limit, update store call.redisKey (some (current.1 + 1, current.2)))

def redisDecisions (calls : List (RequestCall Key Time)) : List Bool :=
  answers allowRequest (fun _ => none) calls

def fallbackDecisions (calls : List (RequestCall Key Time)) : List Bool :=
  answers allowFallback (fun _ => none) calls

/-- When the window in force was opened: a call that finds none, or comes at or after the expiry
of the last one, opens a window. -/
def windowStart (windowSeconds : Time) : List Time → Option Time :=
  List.foldl (fun start now => if start.any (now < · + windowSeconds) then start else some now) none

/-- The times of the calls with a key. -/
def timesOf (key : Key) (calls : List (RequestCall Key Time)) : List Time :=
  (calls.filter fun call => call.redisKey = key).map (·.now)

/-- How many calls with a key are allowed. -/
def allowedCount (key : Key) (calls : List (RequestCall Key Time)) (decisions : List Bool) : ℕ :=
  (calls.zip decisions).countP fun decided => decided.1.redisKey = key ∧ decided.2

/-- A call that opens a window is allowed if any call is, and no more calls than the limit are
allowed from it up to the expiry of the window. -/
def KeepsLimit (key : Key) (limit : ℕ) (windowSeconds : Time) (calls : List (RequestCall Key Time))
    (decisions : List Bool) : Prop :=
  ∀ before first inside rest, calls = before ++ first :: inside ++ rest → first.redisKey = key →
    ¬ (windowStart windowSeconds (timesOf key before)).any (first.now < · + windowSeconds) →
    (1 ≤ limit → decisions[before.length]? = some true) ∧
      ((∀ call ∈ inside, call.redisKey = key → call.now < first.now + windowSeconds) →
        allowedCount key (first :: inside) (decisions.drop before.length) ≤ limit)

/-- The counter after a call, with its expiry. -/
def nextEntry (entry : Option (ℕ × Time)) (windowSeconds now : Time) : ℕ × Time :=
  match entry with
  | none => (1, now + windowSeconds)
  | some (count, expiresAt) =>
      if expiresAt ≤ now then (1, now + windowSeconds) else (count + 1, expiresAt)

theorem allowFallback_eq (store : FallbackStore Key Time) (call : RequestCall Key Time) :
    allowFallback store call =
      (decide ((nextEntry (store call.redisKey) call.windowSeconds call.now).1 ≤ call.limit),
        update store call.redisKey
          (some (nextEntry (store call.redisKey) call.windowSeconds call.now))) := by
  rw [allowFallback]
  cases store call.redisKey with
  | none =>
      simp only [nextEntry, Option.getD_none, ite_self, Nat.zero_add]
      rfl
  | some entry =>
      rcases entry with ⟨count, expiresAt⟩
      by_cases expired : expiresAt ≤ call.now
      · simp [nextEntry, expired]
      · simp [nextEntry, expired]

/-- The counters with their expiries are those of the fallback, and a counter that is stored has
counted a call. -/
structure SameCounters (redis : InMemoryRedis Key Time) (fallback : FallbackStore Key Time) :
    Prop where
  same : ∀ key, redis key = (fallback key).map fun entry => (entry.1, some entry.2)
  counted : ∀ key, ∀ entry ∈ fallback key, 1 ≤ entry.1

omit [DecidableEq Key] [LinearOrder Time] [Add Time] in
theorem sameCounters_empty :
    SameCounters (fun _ : Key => none) (fun _ => (none : Option (ℕ × Time))) where
  same _ := rfl
  counted key entry isStored := by cases isStored

theorem allowRequest_eq {redis : InMemoryRedis Key Time} {fallback : FallbackStore Key Time}
    (counters : SameCounters redis fallback) (call : RequestCall Key Time) :
    allowRequest redis call =
      (decide ((nextEntry (fallback call.redisKey) call.windowSeconds call.now).1 ≤ call.limit),
        update redis call.redisKey (some
          ((nextEntry (fallback call.redisKey) call.windowSeconds call.now).1,
            some (nextEntry (fallback call.redisKey) call.windowSeconds call.now).2))) := by
  have stored := counters.same call.redisKey
  have counted := counters.counted call.redisKey
  rw [allowRequest, InMemoryRedis.incr, InMemoryRedis.deleteIfExpired]
  cases entry : fallback call.redisKey with
  | none =>
      rw [entry, Option.map_none] at stored
      simp only [stored, nextEntry, InMemoryRedis.expire, InMemoryRedis.deleteIfExpired,
        Option.getD_none, Nat.zero_add, if_true, update_self, update_idem]
      rfl
  | some current =>
      rcases current with ⟨count, expiresAt⟩
      rw [entry] at stored counted
      have positive : 1 ≤ count := counted _ rfl
      by_cases expired : expiresAt ≤ call.now
      · simp [stored, nextEntry, expired, InMemoryRedis.expire, InMemoryRedis.deleteIfExpired]
      · have notFirst : count ≠ 0 := by omega
        simp [stored, nextEntry, expired, notFirst]

theorem one_le_nextEntry (entry : Option (ℕ × Time)) (windowSeconds now : Time) :
    1 ≤ (nextEntry entry windowSeconds now).1 := by
  unfold nextEntry
  split
  · simp
  · split_ifs
    · simp
    · simp

omit [LinearOrder Time] [Add Time] in
theorem sameCounters_update {redis : InMemoryRedis Key Time} {fallback : FallbackStore Key Time}
    (counters : SameCounters redis fallback) {key : Key} {entry : ℕ × Time}
    (counted : 1 ≤ entry.1) :
    SameCounters (update redis key (some (entry.1, some entry.2)))
      (update fallback key (some entry))
    where
  same other := by
    by_cases isKey : other = key
    · subst isKey
      simp
    · simp [isKey, counters.same other]
  counted other current isStored := by
    by_cases isKey : other = key
    · subst isKey
      rw [update_self, Option.mem_some_iff] at isStored
      subst isStored
      exact counted
    · rw [update_of_ne isKey] at isStored
      exact counters.counted other current isStored

theorem redisDecisions_eq_fallbackDecisions (calls : List (RequestCall Key Time)) :
    redisDecisions calls = fallbackDecisions calls := by
  apply answers_eq_of_related _ sameCounters_empty
  intro redis fallback call counters
  rw [allowRequest_eq counters, allowFallback_eq]
  exact ⟨rfl, sameCounters_update counters (one_le_nextEntry _ _ _)⟩

section Windows

variable {key : Key} {limit : ℕ} {windowSeconds : Time}

theorem windowStart_append (windowSeconds : Time) (times : List Time) (now : Time) :
    windowStart windowSeconds (times ++ [now]) =
      if (windowStart windowSeconds times).any (now < · + windowSeconds)
        then windowStart windowSeconds times else some now := by
  rw [windowStart, List.foldl_append]
  rfl

omit [LinearOrder Time] [Add Time] in
theorem timesOf_append (key : Key) (calls : List (RequestCall Key Time))
    (call : RequestCall Key Time) :
    timesOf key (calls ++ [call]) =
      timesOf key calls ++ if call.redisKey = key then [call.now] else [] := by
  by_cases isKey : call.redisKey = key
  · simp [timesOf, isKey]
  · simp [timesOf, isKey]

/-- The expiry that is stored is that of the window in force. -/
theorem expiry_after (calls : List (RequestCall Key Time))
    (hasWindow : ∀ call ∈ calls, call.redisKey = key → call.windowSeconds = windowSeconds) :
    (after allowFallback (fun _ => none) calls key).map (·.2) =
      (windowStart windowSeconds (timesOf key calls)).map (· + windowSeconds) := by
  induction calls using List.reverseRecOn with
  | nil => rfl
  | append_singleton calls call ih =>
      have before := ih fun other isCall => hasWindow other (List.mem_append_left _ isCall)
      rw [after_append, after_cons, after_nil, allowFallback_eq, timesOf_append]
      by_cases isKey : call.redisKey = key
      · have window := hasWindow call (by simp) isKey
        subst isKey
        dsimp only
        rw [if_pos rfl, windowStart_append, update_self, window]
        cases start : windowStart windowSeconds (timesOf call.redisKey calls) with
        | none =>
            rw [start, Option.map_none, Option.map_eq_none_iff] at before
            simp [before, nextEntry]
        | some openedAt =>
            rw [start] at before
            rcases Option.map_eq_some_iff.mp before with ⟨⟨counted, expiresAt⟩, stored, isExpiry⟩
            dsimp only at isExpiry
            subst isExpiry
            by_cases expired : openedAt + windowSeconds ≤ call.now
            · simp [stored, nextEntry, expired, not_lt.mpr expired]
            · simp [stored, nextEntry, expired, not_le.mp expired]
      · dsimp only
        rw [if_neg isKey, List.append_nil, update_of_ne (Ne.symm isKey)]
        exact before

omit [LinearOrder Time] [Add Time] in
theorem allowedCount_cons (key : Key) (call : RequestCall Key Time)
    (calls : List (RequestCall Key Time)) (allowed : Bool) (decisions : List Bool) :
    allowedCount key (call :: calls) (allowed :: decisions) =
      allowedCount key calls decisions + if call.redisKey = key ∧ allowed then 1 else 0 := by
  simp [allowedCount, List.countP_cons]

/-- Up to the expiry of a window only the calls are allowed that its counter leaves. -/
theorem allowedCount_le {store : FallbackStore Key Time} {counted : ℕ} {expiresAt : Time}
    (stored : store key = some (counted, expiresAt)) (calls rest : List (RequestCall Key Time))
    (hasLimit : ∀ call ∈ calls, call.redisKey = key → call.limit = limit)
    (beforeExpiry : ∀ call ∈ calls, call.redisKey = key → call.now < expiresAt) :
    allowedCount key calls (answers allowFallback store (calls ++ rest)) ≤ limit - counted := by
  induction calls generalizing store counted with
  | nil => simp [allowedCount]
  | cons call calls ih =>
      rw [List.forall_mem_cons] at hasLimit beforeExpiry
      rw [List.cons_append, answers_cons, allowFallback_eq, allowedCount_cons]
      by_cases isKey : call.redisKey = key
      · subst isKey
        have counts : nextEntry (store call.redisKey) call.windowSeconds call.now =
            (counted + 1, expiresAt) := by
          simp [stored, nextEntry, not_le.mpr (beforeExpiry.1 rfl)]
        rw [counts]
        have ofRest := ih (update_self call.redisKey (some (counted + 1, expiresAt)) store)
          hasLimit.2 beforeExpiry.2
        simp only [true_and, decide_eq_true_eq, hasLimit.1 rfl]
        split_ifs
        · omega
        · omega
      · have unchanged : update store call.redisKey
            (some (nextEntry (store call.redisKey) call.windowSeconds call.now)) key =
              some (counted, expiresAt) := by
          rw [update_of_ne (Ne.symm isKey), stored]
        simpa [isKey] using ih unchanged hasLimit.2 beforeExpiry.2

omit [DecidableEq Key] [LinearOrder Time] [Add Time] in
theorem forall_mem_of_eq_append {calls before inside rest : List (RequestCall Key Time)}
    {first : RequestCall Key Time} {holds : RequestCall Key Time → Prop}
    (isSplit : calls = before ++ first :: inside ++ rest) (allHold : ∀ call ∈ calls, holds call) :
    (∀ call ∈ before, holds call) ∧ holds first ∧ ∀ call ∈ inside, holds call := by
  subst isSplit
  refine ⟨fun call isCall => allHold call ?_, allHold first ?_, fun call isCall => allHold call ?_⟩
  · simp [isCall]
  · simp
  · simp [isCall]

theorem fallback_keepsLimit (calls : List (RequestCall Key Time))
    (configured : ∀ call ∈ calls, call.redisKey = key →
      call.limit = limit ∧ call.windowSeconds = windowSeconds) :
    KeepsLimit key limit windowSeconds calls (fallbackDecisions calls) := by
  intro before first inside rest isSplit isKey opens
  subst isKey
  rcases forall_mem_of_eq_append isSplit configured with ⟨ofBefore, ofFirst, ofInside⟩
  have opened : nextEntry (after allowFallback (fun _ => none) before first.redisKey)
      first.windowSeconds first.now = (1, first.now + windowSeconds) := by
    have expiry := expiry_after before fun call isCall isKey => (ofBefore call isCall isKey).2
    cases stored : after allowFallback (fun _ => none) before first.redisKey with
    | none => simp [nextEntry, (ofFirst rfl).2]
    | some entry =>
        rw [stored, eq_comm, Option.map_some, Option.map_eq_some_iff] at expiry
        rcases expiry with ⟨openedAt, start, expiresAt⟩
        have expired : entry.2 ≤ first.now := by
          rw [start] at opens
          simpa [expiresAt] using opens
        simp [nextEntry, expired, (ofFirst rfl).2]
  have decisions : (fallbackDecisions calls).drop before.length =
      decide (1 ≤ limit) :: (answers allowFallback
        (update (after allowFallback (fun _ => none) before) first.redisKey
          (some (1, first.now + windowSeconds))) (inside ++ rest)) := by
    rw [isSplit, fallbackDecisions, List.append_assoc, answers_append, List.drop_left' (by simp),
      List.cons_append, answers_cons, allowFallback_eq, opened, (ofFirst rfl).1]
  refine ⟨fun positive => ?_, fun beforeExpiry => ?_⟩
  · rw [← List.head?_drop, decisions]
    simp [positive]
  · rw [decisions, allowedCount_cons]
    have within := allowedCount_le (update_self first.redisKey (some (1, first.now + windowSeconds))
      (after allowFallback (fun _ => none) before)) inside rest
      (fun call isCall isKey => (ofInside call isCall isKey).1) beforeExpiry
    split_ifs with allowed
    · have positive : 1 ≤ limit := by simpa using allowed
      omega
    · omega

end Windows

/-- Both ways of `_allow_request` decide alike, and in each a window allows its first call and
not more calls than the limit. -/
theorem decisions_eq_and_keepsLimit (calls : List (RequestCall Key Time)) :
    redisDecisions calls = fallbackDecisions calls ∧
      ∀ key limit windowSeconds,
        (∀ call ∈ calls, call.redisKey = key →
          call.limit = limit ∧ call.windowSeconds = windowSeconds) →
        KeepsLimit key limit windowSeconds calls (redisDecisions calls) ∧
          KeepsLimit key limit windowSeconds calls (fallbackDecisions calls) := by
  refine ⟨redisDecisions_eq_fallbackDecisions calls, fun key limit windowSeconds configured => ?_⟩
  rw [redisDecisions_eq_fallbackDecisions]
  exact ⟨fallback_keepsLimit calls configured, fallback_keepsLimit calls configured⟩

/-- Two calls in a window of a minute, one at its expiry, and one of another key. -/
def sampleCalls : List (RequestCall ℕ ℕ) :=
  [⟨0, 1, 60, 100⟩, ⟨0, 1, 60, 159⟩, ⟨7, 5, 1, 159⟩, ⟨0, 1, 60, 160⟩]

theorem decisions_eq_and_keepsLimit_sample :
    redisDecisions sampleCalls = [true, false, true, true] ∧
      KeepsLimit 0 1 60 sampleCalls (redisDecisions sampleCalls) ∧
        KeepsLimit 0 1 60 sampleCalls (fallbackDecisions sampleCalls) :=
  ⟨by decide, (decisions_eq_and_keepsLimit sampleCalls).2 0 1 60 (by decide)⟩

end ImigrAI.Core
