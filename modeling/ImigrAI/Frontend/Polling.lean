import ImigrAI.Foundations.Runs
import Mathlib.Algebra.Order.Ring.Nat
import Mathlib.Order.Monotone.Basic

/-!
# Polling with backoff

`useBackoffPollingQuery` over the timers of a query client, which is a library: what is assumed of
it is that whenever the query changes it asks for the next interval and starts its timer anew, and
that a timer that elapses while the page is out of focus or a fetch is under way starts over with
the interval it has.
-/

namespace ImigrAI.Frontend.Polling

open Runs

structure Options (Data : Type) where
  isTerminal : Option Data → Bool
  timeoutMs : ℕ
  initialIntervalMs : ℕ
  maxIntervalMs : ℕ

/-- The state of a query. -/
structure Query (Data : Type) where
  data : Option Data
  dataUpdateCount : ℕ
  fetching : Bool

structure Timer where
  due : ℕ
  interval : ℕ

structure Poller (Data : Type) where
  enabled : Bool
  now : ℕ
  startedAt : ℕ
  query : Query Data
  timer : Option Timer
  /-- The fetches that the timer has begun since the start. -/
  polls : ℕ

inductive Action (Data : Type) where
  | wait (milliseconds : ℕ)
  | elapse (focused : Bool)
  /-- Something else has the data fetched. -/
  | refetch
  | settle (result : Option Data)
  /-- An attempt has failed that is made again. -/
  | update
  /-- The hook is enabled or disabled, or comes to another query. -/
  | restart (enabled : Bool) (query : Query Data)

variable {Data : Type} (options : Options Data)

def refetchInterval (enabled : Bool) (query : Query Data) (elapsed : ℕ) : Option ℕ :=
  if enabled = false then none
  else if options.isTerminal query.data then none
  else if options.timeoutMs ≤ elapsed then none
  else
    let attempt := query.dataUpdateCount - 1
    let nextInterval := min (options.initialIntervalMs * 2 ^ attempt) options.maxIntervalMs
    some (max 1000 (min nextInterval (options.timeoutMs - elapsed)))

def timedOut (poller : Poller Data) : Prop :=
  poller.enabled ∧ poller.query.fetching = false ∧ ¬ options.isTerminal poller.query.data ∧
    options.timeoutMs ≤ poller.now - poller.startedAt

/-- The timer is set for the next interval. -/
def rearm (poller : Poller Data) : Poller Data :=
  { poller with
    timer := (refetchInterval options poller.enabled poller.query
      (poller.now - poller.startedAt)).map fun interval => ⟨poller.now + interval, interval⟩ }

def settled (query : Query Data) : Option Data → Query Data
  | some data => ⟨some data, query.dataUpdateCount + 1, false⟩
  | none => { query with fetching := false }

/-- What an action does to the hook: time passes, a timer that is due polls or starts over, or the
query changes and the timer is set anew. -/
inductive Effect (options : Options Data) (poller : Poller Data) :
    Action Data → Poller Data → Prop
  | waits (milliseconds : ℕ) : Effect options poller (.wait milliseconds)
      { poller with now := poller.now + milliseconds }
  | rests (focused : Bool) : Effect options poller (.elapse focused) poller
  | again (focused : Bool) {timer : Timer} (set : poller.timer = some timer) :
      Effect options poller (.elapse focused)
        { poller with timer := some ⟨timer.due + timer.interval, timer.interval⟩ }
  | polls (focused : Bool) {timer : Timer} (set : poller.timer = some timer)
      (due : timer.due ≤ poller.now) (idle : poller.query.fetching = false) :
      Effect options poller (.elapse focused) (rearm options { poller with
        query := { poller.query with fetching := true }
        polls := poller.polls + 1 })
  | joins : Effect options poller .refetch poller
  | fetches : Effect options poller .refetch
      (rearm options { poller with query := { poller.query with fetching := true } })
  | ignores (result : Option Data) : Effect options poller (.settle result) poller
  | settles (fetching : poller.query.fetching = true) (result : Option Data) :
      Effect options poller (.settle result)
        (rearm options { poller with query := settled poller.query result })
  | updates : Effect options poller .update (rearm options poller)
  | restarts (enabled : Bool) (query : Query Data) :
      Effect options poller (.restart enabled query) (rearm options { poller with
        enabled := enabled
        startedAt := poller.now
        query := query
        polls := 0 })

/-- A query client, with what is assumed of its timers. -/
structure QueryClient (options : Options Data) where
  /-- The hook is mounted over a query, which may have data from before. -/
  mount : Bool → ℕ → Query Data → Poller Data
  step : Poller Data → Action Data → Poller Data
  mounts : ∀ enabled now query,
    mount enabled now query = rearm options ⟨enabled, now, now, query, none, 0⟩
  effect : ∀ poller action, Effect options poller action (step poller action)

/-- A client whose timers elapse only when they are due. -/
def punctualStep (poller : Poller Data) : Action Data → Poller Data
  | .wait milliseconds => { poller with now := poller.now + milliseconds }
  | .elapse focused =>
      match poller.timer with
      | none => poller
      | some timer =>
          if poller.now < timer.due then poller
          else if focused ∧ poller.query.fetching = false then
            rearm options { poller with
              query := { poller.query with fetching := true }
              polls := poller.polls + 1 }
          else { poller with timer := some ⟨timer.due + timer.interval, timer.interval⟩ }
  | .refetch =>
      if poller.query.fetching then poller
      else rearm options { poller with query := { poller.query with fetching := true } }
  | .settle result =>
      if poller.query.fetching then
        rearm options { poller with query := settled poller.query result }
      else poller
  | .update => rearm options poller
  | .restart enabled query =>
      rearm options { poller with
        enabled := enabled
        startedAt := poller.now
        query := query
        polls := 0 }

theorem effect_punctualStep (poller : Poller Data) (action : Action Data) :
    Effect options poller action (punctualStep options poller action) := by
  cases action with
  | wait milliseconds => exact .waits milliseconds
  | elapse focused =>
      simp only [punctualStep]
      split
      · exact .rests focused
      · rename_i timer set
        split_ifs with early fetches
        · exact .rests focused
        · exact .polls focused set (by omega) fetches.2
        · exact .again focused set
  | refetch =>
      simp only [punctualStep]
      split_ifs
      · exact .joins
      · exact .fetches
  | settle result =>
      simp only [punctualStep]
      split_ifs with fetching
      · exact .settles fetching result
      · exact .ignores result
  | update => exact .updates
  | restart enabled query => exact .restarts enabled query

def punctual : QueryClient options where
  mount enabled now query := rearm options ⟨enabled, now, now, query, none, 0⟩
  step := punctualStep options
  mounts _ _ _ := rfl
  effect := effect_punctualStep options

variable {options}

theorem refetchInterval_eq_some {enabled : Bool} {query : Query Data} {elapsed interval : ℕ}
    (waits : refetchInterval options enabled query elapsed = some interval) :
    enabled ∧ ¬ options.isTerminal query.data ∧ elapsed < options.timeoutMs ∧
      interval = max 1000 (min (min (options.initialIntervalMs * 2 ^ (query.dataUpdateCount - 1))
        options.maxIntervalMs) (options.timeoutMs - elapsed)) := by
  unfold refetchInterval at waits
  split_ifs at waits with disabled terminal late
  refine ⟨by simpa using disabled, terminal, by omega, ?_⟩
  simpa [eq_comm] using waits

theorem refetchInterval_eq_none {query : Query Data} {elapsed : ℕ}
    (stops : refetchInterval options true query elapsed = none) :
    options.isTerminal query.data ∨ options.timeoutMs ≤ elapsed := by
  by_cases terminal : options.isTerminal query.data
  · exact .inl terminal
  · by_cases late : options.timeoutMs ≤ elapsed
    · exact .inr late
    · simp [refetchInterval, terminal, late] at stops

/-- A timer is set only while there is something to wait for, and there is none only when the
hook has stopped or the time is up. -/
structure Waiting (options : Options Data) (poller : Poller Data) : Prop where
  started : poller.startedAt ≤ poller.now
  waits : ∀ timer, poller.timer = some timer →
    poller.enabled ∧ ¬ options.isTerminal poller.query.data ∧
      1000 ≤ timer.interval ∧ timer.interval ≤ max 1000 options.maxIntervalMs
  stops : poller.timer = none → poller.enabled →
    options.isTerminal poller.query.data ∨
      options.timeoutMs ≤ poller.now - poller.startedAt

theorem waiting_rearm {poller : Poller Data} (started : poller.startedAt ≤ poller.now) :
    Waiting options (rearm options poller) := by
  refine ⟨started, ?_, ?_⟩
  · intro timer set
    rcases Option.map_eq_some_iff.mp set with ⟨interval, waits, rfl⟩
    rcases refetchInterval_eq_some waits with ⟨enabled, running, -, isInterval⟩
    refine ⟨enabled, running, ?_, ?_⟩
    · simp only
      omega
    · simp only
      omega
  · intro unset isEnabled
    have enabled : poller.enabled = true := isEnabled
    have none := Option.map_eq_none_iff.mp unset
    rw [enabled] at none
    exact refetchInterval_eq_none none

theorem Waiting.step {poller after : Poller Data} {action : Action Data}
    (waiting : Waiting options poller) (effect : Effect options poller action after) :
    Waiting options after := by
  have started := waiting.started
  cases effect with
  | waits later =>
      refine ⟨?_, waiting.waits, ?_⟩
      · simp only
        omega
      · intro unset enabled
        rcases waiting.stops unset enabled with terminal | late
        · exact .inl terminal
        · refine .inr ?_
          simp only
          omega
  | rests | joins | ignores => exact waiting
  | again focused set =>
      refine ⟨started, ?_, ?_⟩
      · rintro _ ⟨⟩
        have before := waiting.waits _ set
        exact before
      · intro unset
        cases unset
  | polls | fetches | settles | updates => exact waiting_rearm started
  | restarts => exact waiting_rearm (Nat.le_refl _)

/-- The time that a number of polls takes at least is bounded from below, until the time is up. -/
structure Paced (options : Options Data) (bound : ℕ → ℕ) (poller : Poller Data) : Prop where
  started : poller.startedAt ≤ poller.now
  elapsed : min (bound poller.polls) options.timeoutMs ≤ poller.now - poller.startedAt
  begun : poller.polls = 0 ∨ bound (poller.polls - 1) < options.timeoutMs
  timer : ∀ timer, poller.timer = some timer → poller.query.fetching = false →
    bound poller.polls < options.timeoutMs ∧
      min (bound (poller.polls + 1)) options.timeoutMs ≤ timer.due - poller.startedAt

/-- The interval after so many polls is as long as the bound asks for. -/
def Wide (options : Options Data) (bound : ℕ → ℕ) (query : Query Data) (polls : ℕ) : Prop :=
  query.fetching = false → bound (polls + 1) ≤ bound polls +
    max 1000 (min (options.initialIntervalMs * 2 ^ (query.dataUpdateCount - 1))
      options.maxIntervalMs)

variable {bound : ℕ → ℕ}

theorem paced_rearm {poller : Poller Data} (started : poller.startedAt ≤ poller.now)
    (elapsed : min (bound poller.polls) options.timeoutMs ≤ poller.now - poller.startedAt)
    (begun : poller.polls = 0 ∨ bound (poller.polls - 1) < options.timeoutMs)
    (wide : Wide options bound poller.query poller.polls) :
    Paced options bound (rearm options poller) := by
  refine ⟨started, elapsed, begun, ?_⟩
  intro timer set idle
  rcases Option.map_eq_some_iff.mp set with ⟨interval, waits, rfl⟩
  rcases refetchInterval_eq_some waits with ⟨-, -, early, isInterval⟩
  have wider := wide idle
  simp only [rearm]
  constructor
  · omega
  · omega

theorem Paced.step {poller after : Poller Data} {action : Action Data} (zero : bound 0 = 0)
    (paced : Paced options bound poller) (effect : Effect options poller action after)
    (wide : Wide options bound after.query after.polls) : Paced options bound after := by
  have started := paced.started
  have elapsed := paced.elapsed
  cases effect with
  | waits later =>
      refine ⟨?_, ?_, paced.begun, paced.timer⟩
      · simp only
        omega
      · simp only
        omega
  | rests | joins | ignores => exact paced
  | again focused set =>
      refine ⟨started, elapsed, paced.begun, ?_⟩
      rintro other ⟨⟩ idle
      rcases paced.timer _ set idle with ⟨early, due⟩
      refine ⟨early, ?_⟩
      simp only
      omega
  | polls focused set due idle =>
      rcases paced.timer _ set idle with ⟨early, late⟩
      refine paced_rearm ?_ ?_ (.inr ?_) wide
      · exact started
      · simp only
        omega
      · simpa using early
  | fetches | settles | updates => exact paced_rearm started elapsed paced.begun wide
  | restarts enabled query =>
      refine paced_rearm ?_ ?_ (.inl rfl) wide
      · exact Nat.le_refl _
      · simp [zero]

/-- The time of so many polls when every fetch is answered: the intervals double. -/
def backoff (options : Options Data) : ℕ → ℕ
  | 0 => 0
  | polls + 1 => backoff options polls +
      max 1000 (min (options.initialIntervalMs * 2 ^ polls) options.maxIntervalMs)

/-- A fetch is answered with data, and a query that is come to is fetched or has data. -/
def Answered : Action Data → Prop
  | .settle result => result.isSome
  | .restart _ query => query.fetching = false → 0 < query.dataUpdateCount
  | _ => True

/-- There has been an answer before each poll. -/
def Counted (poller : Poller Data) : Prop :=
  poller.polls ≤ poller.query.dataUpdateCount ∧
    (poller.query.fetching = false → poller.polls < poller.query.dataUpdateCount)

theorem Counted.step {poller after : Poller Data} {action : Action Data}
    (counted : Counted poller) (effect : Effect options poller action after)
    (answered : Answered action) : Counted after := by
  rcases counted with ⟨before, free⟩
  cases effect with
  | waits | rests | again | joins | ignores | updates => exact ⟨before, free⟩
  | polls focused set due idle =>
      refine ⟨free idle, ?_⟩
      simp [rearm]
  | fetches =>
      refine ⟨before, ?_⟩
      simp [rearm]
  | settles fetching result =>
      cases result with
      | none => simp [Answered] at answered
      | some data =>
          have more : poller.polls < poller.query.dataUpdateCount + 1 := by omega
          exact ⟨more.le, fun _ => more⟩
  | restarts enabled query => exact ⟨Nat.zero_le _, answered⟩

theorem Counted.wide {poller : Poller Data} (counted : Counted poller) :
    Wide options (backoff options) poller.query poller.polls := by
  intro idle
  have answers := counted.2 idle
  have doubled : options.initialIntervalMs * 2 ^ poller.polls ≤
      options.initialIntervalMs * 2 ^ (poller.query.dataUpdateCount - 1) := by
    apply Nat.mul_le_mul_left
    apply Nat.pow_le_pow_right
    · omega
    · omega
  simp only [backoff]
  omega

theorem wide_linear (query : Query Data) (polls : ℕ) : Wide options (1000 * ·) query polls := by
  intro _
  simp only
  omega

inductive ApiStatus where
  | pending | running | completed | failed | canceled
deriving DecidableEq

inductive RoadmapStatus where
  | pending | completed | failed | draft | published | archived
deriving DecidableEq

def terminalAssessmentStatuses : List ApiStatus := [.completed, .failed, .canceled]

def terminalRoadmapStatuses : List RoadmapStatus :=
  [.completed, .failed, .draft, .published, .archived]

/-- The options of `useAssessmentStatus`, with the status that was read. -/
def useAssessmentStatus : Options ApiStatus where
  isTerminal data := data.any (· ∈ terminalAssessmentStatuses)
  timeoutMs := 90000
  initialIntervalMs := 1500
  maxIntervalMs := 12000

def useRoadmapStatus : Options RoadmapStatus where
  isTerminal data := data.any (· ∈ terminalRoadmapStatuses)
  timeoutMs := 120000
  initialIntervalMs := 2000
  maxIntervalMs := 15000

variable (client : QueryClient options)

/-- The hook after a run. -/
abbrev after (enabled : Bool) (now : ℕ) (query : Query Data) (actions : List (Action Data)) :
    Poller Data :=
  run client.step (client.mount enabled now query) actions

theorem waiting_run (enabled : Bool) (now : ℕ) (query : Query Data) (actions : List (Action Data)) :
    Waiting options (after client enabled now query actions) := by
  apply invariant_run
  · intro poller action waiting
    exact waiting.step (client.effect poller action)
  · rw [client.mounts]
    exact waiting_rearm (Nat.le_refl _)

theorem paced_run (enabled : Bool) (now : ℕ) (query : Query Data) (actions : List (Action Data)) :
    Paced options (1000 * ·) (after client enabled now query actions) := by
  apply invariant_run
  · intro poller action paced
    exact paced.step rfl (client.effect poller action) (wide_linear _ _)
  · rw [client.mounts]
    refine paced_rearm ?_ ?_ (.inl rfl) (wide_linear _ _)
    · exact Nat.le_refl _
    · simp

theorem backoff_run (enabled : Bool) (now : ℕ) {query : Query Data} {actions : List (Action Data)}
    (fresh : query.fetching = false → 0 < query.dataUpdateCount)
    (answered : ∀ action ∈ actions, Answered action) :
    Paced options (backoff options) (after client enabled now query actions) := by
  have preserved : ∀ (poller : Poller Data) action,
      Counted poller ∧ Paced options (backoff options) poller → Answered action →
      Counted (client.step poller action) ∧
        Paced options (backoff options) (client.step poller action) := by
    rintro poller action ⟨counted, paced⟩ isAnswered
    have effect := client.effect poller action
    have still : Counted (client.step poller action) := counted.step effect isAnswered
    exact ⟨still, paced.step rfl effect still.wide⟩
  have counted : Counted (client.mount enabled now query) := by
    rw [client.mounts]
    exact ⟨Nat.zero_le _, fresh⟩
  refine (invariant_run_of_along preserved ⟨counted, ?_⟩ (along_of_forall_mem answered)).2
  have wide : Wide options (backoff options) (client.mount enabled now query).query
      (client.mount enabled now query).polls := counted.wide
  rw [client.mounts] at wide ⊢
  refine paced_rearm ?_ ?_ (.inl rfl) wide
  · exact Nat.le_refl _
  · simp [backoff]

/-- In every run over any client, the timer never waits for a query that is disabled or has ended,
and its intervals are those between the shortest and the longest; a query that has not ended is
fetched, waited for or timed out; and the time allows for one poll a second only, and for as
many as the doubling intervals leave room for if every fetch is answered. -/
theorem polling_in_bounds (enabled : Bool) (now : ℕ) (query : Query Data)
    (actions : List (Action Data)) :
    (∀ timer, (after client enabled now query actions).timer = some timer →
      (after client enabled now query actions).enabled ∧
        ¬ options.isTerminal (after client enabled now query actions).query.data ∧
        1000 ≤ timer.interval ∧ timer.interval ≤ max 1000 options.maxIntervalMs) ∧
    ((after client enabled now query actions).enabled →
      options.isTerminal (after client enabled now query actions).query.data ∨
        (after client enabled now query actions).query.fetching ∨
        (after client enabled now query actions).timer.isSome ∨
        timedOut options (after client enabled now query actions)) ∧
    1000 * (after client enabled now query actions).polls < options.timeoutMs + 1000 ∧
    ((query.fetching = false → 0 < query.dataUpdateCount) →
      (∀ action ∈ actions, Answered action) →
      (after client enabled now query actions).polls = 0 ∨
        backoff options ((after client enabled now query actions).polls - 1) <
          options.timeoutMs) := by
  have waiting := waiting_run client enabled now query actions
  have paced := paced_run client enabled now query actions
  refine ⟨waiting.waits, ?_, ?_, ?_⟩
  · intro isEnabled
    by_cases fetching : (after client enabled now query actions).query.fetching
    · exact .inr (.inl fetching)
    · by_cases terminal : options.isTerminal (after client enabled now query actions).query.data
      · exact .inl terminal
      · cases timer : (after client enabled now query actions).timer with
        | some set => simp
        | none =>
            have late := (waiting.stops timer isEnabled).resolve_left terminal
            exact .inr (.inr (.inr ⟨isEnabled, by simpa using fetching, terminal, late⟩))
  · rcases paced.begun with none | some
    · omega
    · omega
  · intro fresh answered
    exact (backoff_run client enabled now fresh answered).begun

def sampleFetches : List (Action ApiStatus) :=
  [.settle (some .pending), .wait 1500, .elapse true, .wait 700, .settle (some .running),
    .wait 3000, .elapse false, .wait 3000, .elapse true]

theorem polling_in_bounds_sample :
    let reached := after (punctual useAssessmentStatus) true 0 ⟨none, 0, true⟩
      sampleFetches
    reached.polls = 2 ∧ 1000 * reached.polls < 91000 ∧
      (reached.polls = 0 ∨ backoff useAssessmentStatus (reached.polls - 1) < 90000) := by
  have bounds := polling_in_bounds (punctual useAssessmentStatus) true 0
    ⟨none, 0, true⟩ sampleFetches
  refine ⟨by decide, bounds.2.2.1, bounds.2.2.2 (by simp) ?_⟩
  simp [sampleFetches, Answered]

theorem monotone_backoff : Monotone (backoff options) := by
  apply monotone_nat_of_le_succ
  intro polls
  simp only [backoff]
  omega

/-- The polls that the time leaves room for, if it is up after so many. -/
theorem polls_le (client : QueryClient options) {enabled : Bool} {now : ℕ} {query : Query Data} {actions : List (Action Data)}
    (fresh : query.fetching = false → 0 < query.dataUpdateCount)
    (answered : ∀ action ∈ actions, Answered action) {most : ℕ}
    (up : options.timeoutMs ≤ backoff options most) :
    (after client enabled now query actions).polls ≤ most := by
  rcases (backoff_run client enabled now fresh answered).begun with
    none | some
  · omega
  · by_contra more
    have less : most ≤ (after client enabled now query actions).polls - 1 := by omega
    have later : backoff options most ≤
        backoff options ((after client enabled now query actions).polls - 1) :=
      monotone_backoff less
    omega

/-- A page asks for the status of an assessment at most ten times beside the first, and for that
of a roadmap eleven times, when it is always answered. -/
theorem status_polls_le (assessments : QueryClient useAssessmentStatus)
    (roadmaps : QueryClient useRoadmapStatus) (enabled : Bool) (now : ℕ) :
    (∀ (query : Query ApiStatus) actions, (query.fetching = false → 0 < query.dataUpdateCount) →
      (∀ action ∈ actions, Answered action) →
      (after assessments enabled now query actions).polls ≤ 10) ∧
    ∀ (query : Query RoadmapStatus) actions, (query.fetching = false → 0 < query.dataUpdateCount) →
      (∀ action ∈ actions, Answered action) →
      (after roadmaps enabled now query actions).polls ≤ 11 := by
  constructor
  · intro query actions fresh answered
    apply polls_le _ fresh answered
    decide
  · intro query actions fresh answered
    apply polls_le _ fresh answered
    decide

end ImigrAI.Frontend.Polling
