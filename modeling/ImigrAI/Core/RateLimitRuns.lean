import ImigrAI.Core.RateLimit
import ImigrAI.Foundations.FixedWindows
import ImigrAI.Foundations.Runs
import Mathlib.Algebra.Order.Group.Nat

/-!
# Concurrent requests to the rate limiter

`_allow_request` gives up control while it counts and while it sets the expiry of a new counter,
so that the requests of a client interleave between the two. The calls are kept in the order in
which they came, each with what it waits for, and a resumed call goes on to its next wait.
-/

namespace ImigrAI.Core

open FixedWindows Function Runs

variable {Key Time : Type} [DecidableEq Key] [LinearOrder Time] [Add Time]

namespace InMemoryRedis

variable {store : InMemoryRedis Key Time} {key : Key} {now : Time}

omit [Add Time] in
theorem deleteIfExpired_of_live {count : ℕ} {expiry : Option Time}
    (stored : store key = some (count, expiry)) (live : ∀ expiresAt ∈ expiry, now < expiresAt) :
    store.deleteIfExpired key now = store := by
  rw [deleteIfExpired, stored]
  cases expiry with
  | none => rfl
  | some expiresAt => simp [live expiresAt rfl]

omit [Add Time] in
theorem deleteIfExpired_of_expired
    (expired : ∀ entry ∈ store key, ∃ expiresAt ∈ entry.2, expiresAt ≤ now) :
    store.deleteIfExpired key now key = none := by
  rw [deleteIfExpired]
  cases stored : store key with
  | none => exact stored
  | some entry =>
      obtain ⟨expiresAt, isExpiry, isPast⟩ := expired entry stored
      obtain ⟨count, expiry⟩ := entry
      obtain rfl : expiry = some expiresAt := isExpiry
      simp [isPast]

omit [Add Time] in
theorem deleteIfExpired_of_ne {other : Key} (differs : other ≠ key) :
    store.deleteIfExpired key now other = store other := by
  rw [deleteIfExpired]
  cases store key with
  | none => rfl
  | some entry =>
      obtain ⟨count, expiry⟩ := entry
      cases expiry with
      | none => rfl
      | some expiresAt =>
          by_cases isPast : expiresAt ≤ now
          · simp [isPast, differs]
          · simp [isPast]

omit [Add Time] in
theorem incr_of_live {count : ℕ} {expiry : Option Time} (stored : store key = some (count, expiry))
    (live : ∀ expiresAt ∈ expiry, now < expiresAt) :
    (store.incr key now).1 = count + 1 ∧
      (store.incr key now).2 key = some (count + 1, expiry) := by
  simp [incr, deleteIfExpired_of_live stored live, stored]

omit [Add Time] in
theorem incr_of_expired
    (expired : ∀ entry ∈ store key, ∃ expiresAt ∈ entry.2, expiresAt ≤ now) :
    (store.incr key now).1 = 1 ∧ (store.incr key now).2 key = some (1, none) := by
  simp [incr, deleteIfExpired_of_expired expired]

omit [Add Time] in
theorem incr_of_ne {other : Key} (differs : other ≠ key) :
    (store.incr key now).2 other = store other := by
  simp [incr, differs, deleteIfExpired_of_ne differs]

theorem expire_of_live {count : ℕ} {expiry : Option Time} (seconds : Time)
    (stored : store key = some (count, expiry)) (live : ∀ expiresAt ∈ expiry, now < expiresAt) :
    (store.expire key seconds now).2 key = some (count, some (now + seconds)) := by
  simp [expire, deleteIfExpired_of_live stored live, stored]

theorem expire_of_expired (seconds : Time)
    (expired : ∀ entry ∈ store key, ∃ expiresAt ∈ entry.2, expiresAt ≤ now) :
    (store.expire key seconds now).2 key = none := by
  simp [expire, deleteIfExpired_of_expired expired]

theorem expire_of_ne {other : Key} (seconds : Time) (differs : other ≠ key) :
    (store.expire key seconds now).2 other = store other := by
  rw [expire]
  cases stored : store.deleteIfExpired key now key with
  | none => simp [deleteIfExpired_of_ne differs]
  | some entry => simp [differs, deleteIfExpired_of_ne differs]

omit [DecidableEq Key] [Add Time] in
/-- A counter is gone or live. -/
theorem expired_or_live (store : InMemoryRedis Key Time) (key : Key) (now : Time) :
    (∀ entry ∈ store key, ∃ expiresAt ∈ entry.2, expiresAt ≤ now) ∨
      ∃ count expiry, store key = some (count, expiry) ∧ ∀ expiresAt ∈ expiry, now < expiresAt := by
  cases stored : store key with
  | none => simp
  | some entry =>
      obtain ⟨count, expiry⟩ := entry
      cases expiry with
      | none => simp
      | some expiresAt => simpa using le_or_gt expiresAt now

end InMemoryRedis

/-- What a call waits for: its count, the expiry of a counter that is new, or nothing more. -/
inductive CallStage where
  | counting
  | expiring
  | answered (allowed : Bool)
  deriving DecidableEq

/-- A call with its count and the time at which it last ran. -/
structure LimiterCall (Key Time : Type) where
  request : RequestCall Key Time
  counter : ℕ
  stage : CallStage
  lastAt : Time

/-- How often a call is still resumed at most. -/
def CallStage.waits : CallStage → ℕ
  | counting => 2
  | expiring => 1
  | answered _ => 0

structure Limiter (Key Time : Type) where
  store : InMemoryRedis Key Time
  calls : List (LimiterCall Key Time)

inductive LimiterEvent (Key Time : Type) where
  | arrive (request : RequestCall Key Time)
  | resume (index : ℕ) (now : Time)

namespace LimiterEvent

def now : LimiterEvent Key Time → Time
  | arrive request => request.now
  | resume _ now => now

def resumes (index : ℕ) : LimiterEvent Key Time → Bool
  | arrive _ => false
  | resume other _ => other = index

end LimiterEvent

namespace Limiter

def start : Limiter Key Time := ⟨fun _ => none, []⟩

/-- A call up to its first wait. -/
def arrive (limiter : Limiter Key Time) (request : RequestCall Key Time) : Limiter Key Time :=
  let counted := limiter.store.incr request.redisKey request.now
  ⟨counted.2, limiter.calls ++ [⟨request, counted.1, .counting, request.now⟩]⟩

/-- A call from one wait to the next. A counter that is gone gets no expiry, and its call does not
wait for one. -/
def resume (limiter : Limiter Key Time) (index : ℕ) (now : Time) : Limiter Key Time :=
  match limiter.calls[index]? with
  | none => limiter
  | some call =>
      let decision := CallStage.answered (call.counter ≤ call.request.limit)
      match call.stage with
      | .answered _ => limiter
      | .expiring =>
          { limiter with calls := limiter.calls.set index { call with
              stage := decision, lastAt := now } }
      | .counting =>
          if call.counter = 1 then
            let expired := limiter.store.expire call.request.redisKey call.request.windowSeconds now
            ⟨expired.2, limiter.calls.set index { call with
              stage := if expired.1 then .expiring else decision, lastAt := now }⟩
          else
            { limiter with calls := limiter.calls.set index { call with
                stage := decision, lastAt := now } }

def step (limiter : Limiter Key Time) : LimiterEvent Key Time → Limiter Key Time
  | .arrive request => limiter.arrive request
  | .resume index now => limiter.resume index now

/-- The limiter after a call is resumed. -/
inductive Resumed (limiter : Limiter Key Time) (index : ℕ) (now : Time) :
    Limiter Key Time → Prop where
  | idle (answered : ∀ call, limiter.calls[index]? = some call →
      ∃ allowed, call.stage = .answered allowed) : Resumed limiter index now limiter
  | answers {call : LimiterCall Key Time} (found : limiter.calls[index]? = some call)
      (counted : call.stage = .counting → call.counter ≠ 1) :
      Resumed limiter index now ⟨limiter.store, limiter.calls.set index { call with
        stage := .answered (call.counter ≤ call.request.limit), lastAt := now }⟩
  | expires {call : LimiterCall Key Time} (found : limiter.calls[index]? = some call)
      (waits : call.stage = .counting) (stage : CallStage) (runs : stage ≠ .counting)
      (decided : ∀ allowed, stage = .answered allowed →
        allowed = decide (call.counter ≤ call.request.limit)) :
      Resumed limiter index now
        ⟨(limiter.store.expire call.request.redisKey call.request.windowSeconds now).2,
          limiter.calls.set index { call with stage := stage, lastAt := now }⟩

theorem resumed (limiter : Limiter Key Time) (index : ℕ) (now : Time) :
    Resumed limiter index now (limiter.resume index now) := by
  rw [resume]
  cases found : limiter.calls[index]? with
  | none => exact .idle (by simp [found])
  | some call =>
      cases stage : call.stage with
      | answered allowed =>
          simp only [stage]
          exact .idle (by simp [found, stage])
      | expiring =>
          simp only [stage]
          exact .answers found (by simp [stage])
      | counting =>
          simp only [stage]
          by_cases isFirst : call.counter = 1
          · rw [if_pos isFirst]
            apply Resumed.expires found stage
            · split_ifs <;> simp
            · intro allowed
              split_ifs <;> simp [eq_comm]
          · rw [if_neg isFirst]
            exact .answers found fun _ => isFirst

/-- The calls of a key in the order in which they came, with their counts. -/
def arrivals (key : Key) (calls : List (LimiterCall Key Time)) : List (ℕ × Time) :=
  calls.filterMap fun call =>
    if call.request.redisKey = key then some (call.counter, call.request.now) else none

omit [LinearOrder Time] [Add Time] in
theorem arrivals_append (key : Key) (calls : List (LimiterCall Key Time))
    (call : LimiterCall Key Time) :
    arrivals key (calls ++ [call]) = arrivals key calls ++
      if call.request.redisKey = key then [(call.counter, call.request.now)] else [] := by
  by_cases isKey : call.request.redisKey = key
  · simp [arrivals, isKey]
  · simp [arrivals, isKey]

omit [LinearOrder Time] [Add Time] in
theorem arrivals_set {key : Key} {calls : List (LimiterCall Key Time)} {index : ℕ}
    {call : LimiterCall Key Time} (found : calls[index]? = some call) (stage : CallStage)
    (now : Time) :
    arrivals key (calls.set index { call with stage := stage, lastAt := now }) =
      arrivals key calls := by
  induction calls generalizing index with
  | nil => rfl
  | cons other calls ih =>
      cases index with
      | zero =>
          obtain rfl : other = call := by simpa using found
          rw [List.set_cons_zero, arrivals, arrivals, List.filterMap_cons, List.filterMap_cons]
      | succ index =>
          simp only [arrivals, List.set_cons_succ, List.filterMap_cons]
          rw [List.getElem?_cons_succ] at found
          have rest := ih found
          rw [arrivals, arrivals] at rest
          rw [rest]

omit [DecidableEq Key] [LinearOrder Time] [Add Time] in
theorem mem_set_of_mem {calls : List (LimiterCall Key Time)} {index : ℕ}
    {call other : LimiterCall Key Time} (found : calls[index]? = some call)
    (mem : other ∈ calls) (replaced : LimiterCall Key Time) :
    other ∈ calls.set index replaced ∨ other = call := by
  obtain ⟨place, inside, rfl⟩ := List.mem_iff_getElem.mp mem
  by_cases isPlace : index = place
  · right
    subst isPlace
    simpa [List.getElem?_eq_getElem inside] using found
  · left
    apply List.mem_iff_getElem.mpr
    exact ⟨place, by simpa using inside, by simp [isPlace]⟩

omit [DecidableEq Key] [LinearOrder Time] [Add Time] in
theorem set_mem {calls : List (LimiterCall Key Time)} {index : ℕ} {call : LimiterCall Key Time}
    (found : calls[index]? = some call) (replaced : LimiterCall Key Time) :
    replaced ∈ calls.set index replaced := by
  apply List.mem_set
  exact (List.getElem?_eq_some_iff.mp found).1

/-- The counter of a key is that of its last window. Until it has an expiry the call that opened
the window still waits, and it expires after the window and at most a window after that call ran. -/
def InWindow (key : Key) (windowSeconds clock : Time) (calls : List (LimiterCall Key Time))
    (window : List (ℕ × Time)) : Option (ℕ × Option Time) → Prop
  | none => ∀ first ∈ window.head?, first.2 + windowSeconds ≤ clock
  | some (count, none) => window ≠ [] ∧ window.length = count ∧
      ∃ call ∈ calls, call.request.redisKey = key ∧ call.stage = .counting ∧ call.counter = 1
  | some (count, some expiresAt) => window ≠ [] ∧ window.length = count ∧
      (∀ first ∈ window.head?, first.2 + windowSeconds ≤ expiresAt) ∧
        ∃ call ∈ calls, call.request.redisKey = key ∧ call.stage ≠ .counting ∧
          expiresAt ≤ call.lastAt + windowSeconds

structure InStep (key : Key) (limit : ℕ) (windowSeconds clock : Time) (limiter : Limiter Key Time) :
    Prop where
  past : ∀ call ∈ limiter.calls, call.request.now ≤ call.lastAt ∧ call.lastAt ≤ clock
  configured : ∀ call ∈ limiter.calls, call.request.redisKey = key →
    call.request.limit = limit ∧ call.request.windowSeconds = windowSeconds
  decided : ∀ call ∈ limiter.calls, ∀ allowed, call.stage = .answered allowed →
    allowed = decide (call.counter ≤ call.request.limit)
  counted : ∃ window, Windows Prod.snd Prod.fst windowSeconds (arrivals key limiter.calls) window ∧
    InWindow key windowSeconds clock limiter.calls window (limiter.store key)

section Steps

variable {key : Key} {limit : ℕ} {windowSeconds clock : Time} {limiter : Limiter Key Time}

omit [Add Time] in
theorem mem_arrivals {calls : List (LimiterCall Key Time)} {arrival : ℕ × Time}
    (past : ∀ call ∈ calls, call.request.now ≤ call.lastAt ∧ call.lastAt ≤ clock)
    (mem : arrival ∈ arrivals key calls) : arrival.2 ≤ clock := by
  obtain ⟨call, isCall, isArrival⟩ := List.mem_filterMap.mp mem
  split_ifs at isArrival
  obtain rfl := Option.some.inj isArrival
  exact (past call isCall).1.trans (past call isCall).2

omit [DecidableEq Key] in
/-- Later calls and a later clock leave the counter in its window. -/
theorem InWindow.mono {later : Time} {calls : List (LimiterCall Key Time)}
    {window : List (ℕ × Time)} {entry : Option (ℕ × Option Time)}
    (inWindow : InWindow key windowSeconds clock calls window entry) (isLater : clock ≤ later)
    {others : List (LimiterCall Key Time)} (kept : calls ⊆ others) :
    InWindow key windowSeconds later others window entry := by
  match entry, inWindow with
  | none, expired => exact fun first isFirst => (expired first isFirst).trans isLater
  | some (count, none), ⟨opened, length, call, isCall, waits⟩ =>
      exact ⟨opened, length, call, kept isCall, waits⟩
  | some (count, some expiresAt), ⟨opened, length, after, call, isCall, ran⟩ =>
      exact ⟨opened, length, after, call, kept isCall, ran⟩

omit [DecidableEq Key] in
theorem InWindow.opened {calls : List (LimiterCall Key Time)} {window : List (ℕ × Time)}
    {count : ℕ} {expiry : Option Time}
    (inWindow : InWindow key windowSeconds clock calls window (some (count, expiry))) :
    window ≠ [] ∧ window.length = count := by
  cases expiry with
  | none => exact ⟨inWindow.1, inWindow.2.1⟩
  | some expiresAt => exact ⟨inWindow.1, inWindow.2.1⟩

omit [DecidableEq Key] in
/-- A counter that is gone leaves a window that is over. -/
theorem InWindow.apart {now : Time} {calls : List (LimiterCall Key Time)}
    {window : List (ℕ × Time)} {entry : Option (ℕ × Option Time)}
    (inWindow : InWindow key windowSeconds clock calls window entry) (isLater : clock ≤ now)
    (expired : ∀ counter ∈ entry, ∃ expiresAt ∈ counter.2, expiresAt ≤ now) :
    ∀ first ∈ window.head?, first.2 + windowSeconds ≤ now := by
  intro first isFirst
  match entry, inWindow with
  | none, ended => exact (ended first isFirst).trans isLater
  | some (count, none), _ => simpa using expired (count, none) rfl
  | some (count, some expiresAt), ⟨_, _, after, _⟩ =>
      have isPast : expiresAt ≤ now := by simpa using expired (count, some expiresAt) rfl
      exact (after first isFirst).trans isPast

theorem InStep.mono (inStep : InStep key limit windowSeconds clock limiter) {now : Time}
    (isLater : clock ≤ now) : InStep key limit windowSeconds now limiter where
  past call isCall := ⟨(inStep.past call isCall).1, (inStep.past call isCall).2.trans isLater⟩
  configured := inStep.configured
  decided := inStep.decided
  counted := by
    obtain ⟨window, windows, inWindow⟩ := inStep.counted
    exact ⟨window, windows, inWindow.mono isLater (List.Subset.refl _)⟩

theorem InStep.arrive (inStep : InStep key limit windowSeconds clock limiter)
    {request : RequestCall Key Time} (isLater : clock ≤ request.now)
    (configured : request.redisKey = key →
      request.limit = limit ∧ request.windowSeconds = windowSeconds) :
    InStep key limit windowSeconds request.now (limiter.arrive request) where
  past := by
    intro call isCall
    rcases List.mem_append.mp isCall with earlier | isNew
    · exact ⟨(inStep.past call earlier).1, (inStep.past call earlier).2.trans isLater⟩
    · obtain rfl := List.mem_singleton.mp isNew
      simp
  configured := by
    intro call isCall isKey
    rcases List.mem_append.mp isCall with earlier | isNew
    · exact inStep.configured call earlier isKey
    · obtain rfl := List.mem_singleton.mp isNew
      exact configured isKey
  decided := by
    intro call isCall allowed isAnswered
    rcases List.mem_append.mp isCall with earlier | isNew
    · exact inStep.decided call earlier allowed isAnswered
    · obtain rfl := List.mem_singleton.mp isNew
      simp at isAnswered
  counted := by
    obtain ⟨window, windows, inWindow⟩ := inStep.counted
    rw [Limiter.arrive, arrivals_append]
    dsimp only
    by_cases isKey : request.redisKey = key
    · subst isKey
      rw [if_pos rfl]
      have latest : ∀ earlier ∈ arrivals request.redisKey limiter.calls,
          earlier.2 ≤ request.now := by
        intro earlier isEarlier
        exact (mem_arrivals inStep.past isEarlier).trans isLater
      rcases limiter.store.expired_or_live request.redisKey request.now with
        expired | ⟨count, expiry, stored, live⟩
      · have counts := InMemoryRedis.incr_of_expired expired
        rw [counts.1, counts.2]
        refine ⟨[(1, request.now)], .opens windows latest (inWindow.apart isLater expired) rfl, ?_⟩
        refine ⟨by simp, rfl, ⟨request, 1, .counting, request.now⟩, by simp, ?_⟩
        simp
      · have counts := InMemoryRedis.incr_of_live stored live
        rw [counts.1, counts.2]
        rw [stored] at inWindow
        have ofLength := inWindow.opened
        refine ⟨window ++ [(count + 1, request.now)],
          .continues windows latest ofLength.1 (by simp [ofLength.2]), ?_⟩
        have head : (window ++ [(count + 1, request.now)]).head? = window.head? :=
          List.head?_append_of_ne_nil _ ofLength.1
        have kept := inWindow.mono isLater (List.subset_append_left limiter.calls
          [⟨request, count + 1, .counting, request.now⟩])
        cases expiry with
        | none => exact ⟨by simp, by simp [ofLength.2], kept.2.2⟩
        | some expiresAt => exact ⟨by simp, by simp [ofLength.2], by rw [head]; exact kept.2.2⟩
    · rw [if_neg isKey, List.append_nil, InMemoryRedis.incr_of_ne (Ne.symm isKey)]
      exact ⟨window, windows, inWindow.mono isLater (List.subset_append_left _ _)⟩

omit [DecidableEq Key] in
/-- A call that goes on keeps the counter in its window. -/
theorem InWindow.set {now : Time} {window : List (ℕ × Time)}
    {entry : Option (ℕ × Option Time)} {index : ℕ} {call : LimiterCall Key Time}
    (inWindow : InWindow key windowSeconds clock limiter.calls window entry)
    (isLater : clock ≤ now) (past : call.lastAt ≤ clock) [AddRightMono Time]
    (found : limiter.calls[index]? = some call)
    (counted : call.request.redisKey = key → call.stage = .counting → call.counter ≠ 1)
    (stage : CallStage) (runs : stage ≠ .counting) :
    InWindow key windowSeconds now
      (limiter.calls.set index { call with stage := stage, lastAt := now }) window entry := by
  have isNew := set_mem found { call with stage := stage, lastAt := now }
  match entry, inWindow with
  | none, ended => exact fun first isFirst => (ended first isFirst).trans isLater
  | some (count, none), ⟨opened, length, other, isCall, isKey, waits, isFirst⟩ =>
      refine ⟨opened, length, other, ?_, isKey, waits, isFirst⟩
      rcases mem_set_of_mem found isCall { call with stage := stage, lastAt := now } with
        kept | rfl
      · exact kept
      · exact absurd isFirst (counted isKey waits)
  | some (count, some expiresAt), ⟨opened, length, after, other, isCall, isKey, ran, expires⟩ =>
      refine ⟨opened, length, after, ?_⟩
      rcases mem_set_of_mem found isCall { call with stage := stage, lastAt := now } with
        kept | rfl
      · exact ⟨other, kept, isKey, ran, expires⟩
      · refine ⟨_, isNew, isKey, runs, expires.trans ?_⟩
        have runsLater : other.lastAt ≤ now := past.trans isLater
        gcongr

theorem InStep.resume [AddRightMono Time] (inStep : InStep key limit windowSeconds clock limiter)
    (index : ℕ) {now : Time} (isLater : clock ≤ now) :
    InStep key limit windowSeconds now (limiter.resume index now) := by
  obtain ⟨window, windows, inWindow⟩ := inStep.counted
  generalize isNext : limiter.resume index now = next
  have resumed := limiter.resumed index now
  rw [isNext] at resumed
  have ofSet {call : LimiterCall Key Time} (found : limiter.calls[index]? = some call)
      (stage : CallStage)
      (decided : ∀ allowed, stage = .answered allowed →
        allowed = decide (call.counter ≤ call.request.limit))
      (store : InMemoryRedis Key Time)
      (kept : InWindow key windowSeconds now
        (limiter.calls.set index { call with stage := stage, lastAt := now }) window (store key)) :
      InStep key limit windowSeconds now
        ⟨store, limiter.calls.set index { call with stage := stage, lastAt := now }⟩ := by
    have isCall : call ∈ limiter.calls := List.mem_of_getElem? found
    refine ⟨?_, ?_, ?_, ⟨window, by rwa [arrivals_set found], kept⟩⟩
    · intro other mem
      rcases List.mem_or_eq_of_mem_set mem with earlier | rfl
      · exact ⟨(inStep.past other earlier).1, (inStep.past other earlier).2.trans isLater⟩
      · have past := inStep.past call isCall
        exact ⟨(past.1.trans past.2).trans isLater, le_refl now⟩
    · intro other mem isKey
      rcases List.mem_or_eq_of_mem_set mem with earlier | rfl
      · exact inStep.configured other earlier isKey
      · exact inStep.configured call isCall isKey
    · intro other mem allowed isAnswered
      rcases List.mem_or_eq_of_mem_set mem with earlier | rfl
      · exact inStep.decided other earlier allowed isAnswered
      · exact decided allowed isAnswered
  cases resumed with
  | idle answered => exact inStep.mono isLater
  | answers found counted =>
      rename_i call
      have past := (inStep.past call (List.mem_of_getElem? found)).2
      apply ofSet found
      · simp [eq_comm]
      · exact inWindow.set isLater past found (fun _ => counted) _ (by simp)
  | expires found waits stage runs decided =>
      rename_i call
      have isCall := List.mem_of_getElem? found
      have past := (inStep.past call isCall).2
      apply ofSet found stage decided
      by_cases isKey : call.request.redisKey = key
      · subst isKey
        rcases limiter.store.expired_or_live call.request.redisKey now with
          expired | ⟨count, expiry, stored, live⟩
        · rw [InMemoryRedis.expire_of_expired _ expired]
          exact inWindow.apart isLater expired
        · rw [InMemoryRedis.expire_of_live _ stored live,
            (inStep.configured call isCall rfl).2]
          rw [stored] at inWindow
          have ofLength := inWindow.opened
          refine ⟨ofLength.1, ofLength.2, ?_, _, set_mem found _, rfl, runs, le_refl _⟩
          intro first isFirst
          have isArrival := windows.subset (List.mem_of_mem_head? isFirst)
          have before : first.2 ≤ now := (mem_arrivals inStep.past isArrival).trans isLater
          gcongr
      · rw [InMemoryRedis.expire_of_ne _ (Ne.symm isKey)]
        exact inWindow.set isLater past found (fun same => absurd same isKey) stage runs

end Steps

variable {key : Key} {limit : ℕ} {windowSeconds clock : Time} {limiter : Limiter Key Time}

theorem inStep_run [AddRightMono Time] {events : List (LimiterEvent Key Time)}
    (ordered : (clock :: events.map (·.now)).Pairwise (· ≤ ·))
    (configured : ∀ request, .arrive request ∈ events → request.redisKey = key →
      request.limit = limit ∧ request.windowSeconds = windowSeconds)
    (inStep : InStep key limit windowSeconds clock limiter) :
    ∃ latest, (∀ later, (∀ time ∈ clock :: events.map (·.now), time ≤ later) → latest ≤ later) ∧
      InStep key limit windowSeconds latest (run step limiter events) := by
  induction events generalizing limiter clock with
  | nil => exact ⟨clock, fun later isLater => isLater clock (by simp), inStep⟩
  | cons event events ih =>
      rw [List.map_cons, List.pairwise_cons] at ordered
      have isLater : clock ≤ event.now := ordered.1 event.now (by simp)
      have stepped : InStep key limit windowSeconds event.now (step limiter event) := by
        cases event with
        | arrive request => exact inStep.arrive isLater (configured request (by simp))
        | resume index now => exact inStep.resume index isLater
      obtain ⟨latest, isLatest, inRun⟩ := ih ordered.2
        (fun request isRequest => configured request (List.mem_cons_of_mem _ isRequest)) stepped
      refine ⟨latest, ?_, inRun⟩
      intro later bounds
      apply isLatest later
      intro time isTime
      exact bounds time (List.mem_cons_of_mem _ isTime)

/-- An event leaves the request and the count of a call as they are. -/
theorem step_getElem (event : LimiterEvent Key Time) {place : ℕ} {call : LimiterCall Key Time}
    (found : limiter.calls[place]? = some call) :
    ∃ next, (step limiter event).calls[place]? = some next ∧ next.request = call.request ∧
      next.counter = call.counter ∧
        next.stage.waits ≤ call.stage.waits - if event.resumes place then 1 else 0 := by
  cases event with
  | arrive request =>
      refine ⟨call, ?_, rfl, rfl, by simp [LimiterEvent.resumes]⟩
      rw [step, Limiter.arrive, List.getElem?_append_left]
      · exact found
      · exact (List.getElem?_eq_some_iff.mp found).1
  | resume index now =>
      rw [step]
      generalize isNext : limiter.resume index now = next
      have resumed := limiter.resumed index now
      rw [isNext] at resumed
      have inside := (List.getElem?_eq_some_iff.mp found).1
      cases resumed with
      | idle answered =>
          refine ⟨call, found, rfl, rfl, ?_⟩
          by_cases isPlace : index = place
          · subst isPlace
            obtain ⟨allowed, isAnswered⟩ := answered call found
            simp [isAnswered, CallStage.waits]
          · simp [LimiterEvent.resumes, isPlace]
      | answers other counted =>
          by_cases isPlace : index = place
          · subst isPlace
            obtain rfl := Option.some.inj (found.symm.trans other)
            exact ⟨_, List.getElem?_set_self inside, rfl, rfl, by simp [CallStage.waits]⟩
          · refine ⟨call, ?_, rfl, rfl, by simp [LimiterEvent.resumes, isPlace]⟩
            exact (List.getElem?_set_ne isPlace).trans found
      | expires other waits stage runs decided =>
          by_cases isPlace : index = place
          · subst isPlace
            obtain rfl := Option.some.inj (found.symm.trans other)
            refine ⟨_, List.getElem?_set_self inside, rfl, rfl, ?_⟩
            cases stage with
            | counting => exact absurd rfl runs
            | expiring => simp [LimiterEvent.resumes, waits, CallStage.waits]
            | answered allowed => simp [CallStage.waits]
          · refine ⟨call, ?_, rfl, rfl, by simp [LimiterEvent.resumes, isPlace]⟩
            exact (List.getElem?_set_ne isPlace).trans found

theorem run_getElem (events : List (LimiterEvent Key Time)) {place : ℕ}
    {call : LimiterCall Key Time} (found : limiter.calls[place]? = some call) :
    ∃ last, (run step limiter events).calls[place]? = some last ∧ last.request = call.request ∧
      last.counter = call.counter ∧
        last.stage.waits ≤ call.stage.waits - events.countP (·.resumes place) := by
  induction events generalizing limiter call with
  | nil => exact ⟨call, found, rfl, rfl, le_refl _⟩
  | cons event events ih =>
      obtain ⟨next, isNext, request, counter, waits⟩ := step_getElem event found
      obtain ⟨last, isLast, sameRequest, sameCounter, fewer⟩ := ih isNext
      refine ⟨last, isLast, sameRequest.trans request, sameCounter.trans counter, ?_⟩
      rw [List.countP_cons]
      omega

/-- A client whose requests were all answered a window ago begins a new window. -/
theorem InStep.incr_eq_one (inStep : InStep key limit windowSeconds clock limiter) {now : Time}
    (quiet : ∀ call ∈ limiter.calls, call.request.redisKey = key →
      call.stage ≠ .counting ∧ call.lastAt + windowSeconds ≤ now) :
    (limiter.store.incr key now).1 = 1 := by
  obtain ⟨window, windows, inWindow⟩ := inStep.counted
  apply (InMemoryRedis.incr_of_expired _).1
  intro entry stored
  rw [Option.mem_def.mp stored] at inWindow
  obtain ⟨count, expiry⟩ := entry
  cases expiry with
  | none =>
      obtain ⟨_, _, call, isCall, isKey, waits, _⟩ := inWindow
      exact absurd waits (quiet call isCall isKey).1
  | some expiresAt =>
      obtain ⟨_, _, _, call, isCall, isKey, _, expires⟩ := inWindow
      exact ⟨expiresAt, rfl, expires.trans (quiet call isCall isKey).2⟩

/-- How many requests of a key that came in a span of a window are allowed. -/
def allowedWithin (key : Key) (windowSeconds opening : Time) (limiter : Limiter Key Time) : ℕ :=
  limiter.calls.countP fun call => call.request.redisKey = key ∧ call.stage = .answered true ∧
    opening ≤ call.request.now ∧ call.request.now < opening + windowSeconds

theorem InStep.allowedWithin_le [AddRightMono Time]
    (inStep : InStep key limit windowSeconds clock limiter) (opening : Time) :
    limiter.allowedWithin key windowSeconds opening ≤ 2 * limit := by
  obtain ⟨window, windows, _⟩ := inStep.counted
  apply le_trans _ (windows.passed_le limit opening)
  rw [allowedWithin, passed, arrivals, List.countP_filterMap]
  apply List.countP_mono_left
  intro call isCall isAllowed
  simp only [decide_eq_true_eq] at isAllowed
  obtain ⟨isKey, isAnswered, inSpan⟩ := isAllowed
  have decided := inStep.decided call isCall true isAnswered
  rw [(inStep.configured call isCall isKey).1, eq_comm, decide_eq_true_eq] at decided
  simp [isKey, decided, inSpan]

theorem inStep_start (key : Key) (limit : ℕ) (windowSeconds clock : Time) :
    InStep key limit windowSeconds clock start where
  past := by simp [start]
  configured := by simp [start]
  decided := by simp [start]
  counted := ⟨[], .none, by simp [start, InWindow]⟩

omit [DecidableEq Key] [Add Time] in
/-- A clock that the events begin at. -/
theorem exists_clock (default : Time) {events : List (LimiterEvent Key Time)}
    (ordered : (events.map (·.now)).Pairwise (· ≤ ·)) :
    ∃ clock, (clock :: events.map (·.now)).Pairwise (· ≤ ·) := by
  cases events with
  | nil => exact ⟨default, by simp⟩
  | cons event events =>
      refine ⟨event.now, List.pairwise_cons.mpr ⟨?_, ordered⟩⟩
      intro time isTime
      rw [List.map_cons, List.mem_cons] at isTime
      rcases isTime with rfl | later
      · exact le_refl _
      · exact (List.pairwise_cons.mp ordered).1 time later

/-- However the requests of a client interleave, no more than twice the limit are allowed in any
span of the length of a window, and a request that comes a window after the last one was answered
is allowed once it is resumed twice, whatever happens in between. -/
theorem requests_limited [AddRightMono Time] {events : List (LimiterEvent Key Time)}
    (ordered : (events.map (·.now)).Pairwise (· ≤ ·))
    (configured : ∀ request, .arrive request ∈ events → request.redisKey = key →
      request.limit = limit ∧ request.windowSeconds = windowSeconds) :
    (∀ opening, (run step start events).allowedWithin key windowSeconds opening ≤ 2 * limit) ∧
      ∀ before request later, events = before ++ .arrive request :: later →
        request.redisKey = key → 1 ≤ limit →
        (∀ call ∈ (run step start before).calls, call.request.redisKey = key →
          (∃ allowed, call.stage = .answered allowed) ∧
            call.lastAt + windowSeconds ≤ request.now) →
        2 ≤ later.countP (·.resumes (run step start before).calls.length) →
        ∃ call, (run step start events).calls[(run step start before).calls.length]? = some call ∧
          call.request = request ∧ call.stage = .answered true := by
  constructor
  · intro opening
    obtain ⟨clock, fromClock⟩ := exists_clock opening ordered
    obtain ⟨latest, _, inStep⟩ :=
      inStep_run fromClock configured (inStep_start key limit windowSeconds clock)
    exact inStep.allowedWithin_le opening
  · rintro before request later rfl isKey positive quiet resumed
    obtain ⟨clock, fromClock⟩ := exists_clock request.now ordered
    obtain ⟨latest, _, inStep⟩ :=
      inStep_run fromClock configured (inStep_start key limit windowSeconds clock)
    have ofBefore : InStep key limit windowSeconds request.now (run step start before) := by
      rw [List.map_append, ← List.cons_append, List.pairwise_append] at fromClock
      obtain ⟨ordered, _, earlier⟩ := fromClock
      obtain ⟨latest, isLatest, inStep⟩ := inStep_run ordered
        (fun other isRequest => configured other (List.mem_append_left _ isRequest))
        (inStep_start key limit windowSeconds clock)
      apply inStep.mono (isLatest request.now _)
      intro time isTime
      exact earlier time isTime request.now (by simp [LimiterEvent.now])
    have isFirst : ((run step start before).store.incr request.redisKey request.now).1 = 1 := by
      rw [isKey]
      apply ofBefore.incr_eq_one
      intro call isCall sameKey
      obtain ⟨⟨allowed, isAnswered⟩, past⟩ := quiet call isCall sameKey
      exact ⟨by simp [isAnswered], past⟩
    have arrived : ((run step start before).arrive request).calls[(run step start
        before).calls.length]? = some ⟨request, 1, .counting, request.now⟩ := by
      simp [Limiter.arrive, isFirst]
    obtain ⟨last, isLast, sameRequest, sameCounter, waits⟩ := run_getElem later arrived
    rw [run_append, run_cons] at inStep ⊢
    refine ⟨last, isLast, sameRequest, ?_⟩
    have isCall := List.mem_of_getElem? isLast
    cases stage : last.stage with
    | counting => simp [stage, CallStage.waits] at waits; omega
    | expiring => simp [stage, CallStage.waits] at waits; omega
    | answered allowed =>
        have decided := inStep.decided last isCall allowed stage
        have ofLimit := (inStep.configured last isCall (by rw [sameRequest, isKey])).1
        simp [decided, sameCounter, ofLimit, positive]

/-- Three requests of one client that interleave, two of them before the counter has an expiry, a
fourth in the same window, and one of another client. -/
def sampleEvents : List (LimiterEvent ℕ ℕ) := [
  .arrive ⟨0, 2, 60, 100⟩, .arrive ⟨0, 2, 60, 101⟩, .arrive ⟨7, 5, 1, 101⟩, .resume 1 102,
  .resume 0 103, .arrive ⟨0, 2, 60, 104⟩, .resume 0 104, .resume 3 105]

theorem requests_limited_sample :
    (∀ opening, (run step start (sampleEvents ++
        [.arrive ⟨0, 2, 60, 165⟩, .resume 4 166, .resume 4 167])).allowedWithin 0 60 opening ≤
          2 * 2) ∧
      ∃ call, (run step start (sampleEvents ++
        [.arrive ⟨0, 2, 60, 165⟩, .resume 4 166, .resume 4 167])).calls[4]? = some call ∧
          call.request = ⟨0, 2, 60, 165⟩ ∧ call.stage = .answered true := by
  have limited := @requests_limited ℕ ℕ _ _ _ 0 2 60 _
    (sampleEvents ++ [.arrive ⟨0, 2, 60, 165⟩, .resume 4 166, .resume 4 167])
    (by decide) (by simp [sampleEvents])
  refine ⟨limited.1, ?_⟩
  have calls : (run step start sampleEvents).calls = [
      ⟨⟨0, 2, 60, 100⟩, 1, .answered true, 104⟩, ⟨⟨0, 2, 60, 101⟩, 2, .answered true, 102⟩,
      ⟨⟨7, 5, 1, 101⟩, 1, .counting, 101⟩, ⟨⟨0, 2, 60, 104⟩, 3, .answered false, 105⟩] := rfl
  have allowed := limited.2 sampleEvents ⟨0, 2, 60, 165⟩ [.resume 4 166, .resume 4 167] rfl rfl
    (by decide)
  rw [calls] at allowed
  exact allowed (by simp) (by decide)

end Limiter

end ImigrAI.Core
