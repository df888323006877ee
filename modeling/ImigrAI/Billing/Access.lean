import ImigrAI.Billing.Webhooks

/-!
# Access of a user

The calls of `BillingService` that a request makes for its user: the baseline of entitlements,
what they permit, and the monthly quota. A user has the Free entitlements from the first call
on. The calls run one at a time here.
-/

namespace ImigrAI.Billing

open Python Sorting Rows

def getActiveEntitlement (entitlements : List Entitlement) (userId : UUID) (featureKey : String)
    (instant : Instant) : Option Entitlement :=
  (sortBy (fun entitlement : Entitlement => OrderDual.toDual entitlement.validFrom)
    (entitlements.filter fun entitlement => entitlement.userId = userId ∧
      entitlement.featureKey = featureKey ∧ entitlement.ActiveAt instant)).head?

/-- The counter that `get_or_create_usage_counter` looks for. -/
def findUsageCounter (counters : List UsageCounter) (userId : UUID) (featureKey : String)
    (windowStart : Instant) : Option UsageCounter :=
  counters.find? fun counter => counter.userId = userId ∧ counter.featureKey = featureKey ∧
    counter.windowStart = windowStart

def listCurrentUsageCounters (counters : List UsageCounter) (userId : UUID) (instant : Instant) :
    List UsageCounter :=
  sortBy (·.featureKey) (counters.filter fun counter => counter.userId = userId ∧
    counter.windowStart ≤ instant ∧ instant < counter.windowEnd)

/-- The readings of the clock in `ensure_user_access_baseline`: when the active entitlements
are listed, and `now` of `_apply_plan_entitlements`. -/
structure BaselineTimes where
  listedAt : Instant
  appliedAt : Instant

variable (settings : Settings)

/-- `ensure_user_access_baseline`: the database it has committed, and what it raises. -/
def ensureUserAccessBaseline (db : Database) (ids : AccessIds) (times : BaselineTimes)
    (userId : UUID) : Database × Except BillingError Unit :=
  match ensureDefaultPlans settings db ids with
  | (planned, .error error) => (planned, .error (.database error))
  | (planned, .ok ()) =>
      if listActiveEntitlements planned.val.entitlements userId times.listedAt ≠ [] then
        (planned, .ok ())
      else
        match getPlanByCode planned.val settings.freePlanCode with
        | none => (planned, .error (.http 500 "Free plan not configured"))
        | some freePlan =>
            match applyPlanEntitlements settings planned ids.entitlement userId freePlan none
              times.appliedAt with
            | .error error => (planned, .error (.database error))
            | .ok applied => (applied, .ok ())

def requireEntitlement (db : Database) (ids : AccessIds) (times : BaselineTimes)
    (checkedAt : Instant) (userId : UUID) (featureKey : String) :
    Database × Except BillingError Entitlement :=
  match ensureUserAccessBaseline settings db ids times userId with
  | (baseline, .error error) => (baseline, .error error)
  | (baseline, .ok ()) =>
      match getActiveEntitlement baseline.val.entitlements userId featureKey checkedAt with
      | none => (baseline,
          .error (.http 403 ("Feature '" ++ featureKey ++ "' requires active entitlement")))
      | some entitlement => (baseline, .ok entitlement)

def hasPriorityProcessing (db : Database) (ids : AccessIds) (times : BaselineTimes)
    (checkedAt : Instant) (userId : UUID) : Database × Except BillingError Bool :=
  match ensureUserAccessBaseline settings db ids times userId with
  | (baseline, .error error) => (baseline, .error error)
  | (baseline, .ok ()) =>
      (baseline, .ok (getActiveEntitlement baseline.val.entitlements userId
        settings.processingPriorityFeatureKey checkedAt).isSome)

structure EntitlementsMe where
  plan : Option Plan
  subscription : Option Subscription
  entitlements : List Entitlement
  usageCounters : List UsageCounter

/-- The plan that a subscription refers to, or else the Free plan. -/
def planOfSubscription (tables : Tables) : Option Subscription → Option Plan
  | some subscription => tables.plans.find? fun plan => plan.id = subscription.planId
  | none => getPlanByCode tables settings.freePlanCode

def getEntitlementsMe (db : Database) (ids : AccessIds) (times : BaselineTimes) (now : Instant)
    (userId : UUID) : Database × Except BillingError EntitlementsMe :=
  match ensureUserAccessBaseline settings db ids times userId with
  | (baseline, .error error) => (baseline, .error error)
  | (baseline, .ok ()) =>
      let subscription := getActiveSubscriptionForUser baseline.val.subscriptions userId
      (baseline, .ok {
        plan := planOfSubscription settings baseline.val subscription
        subscription := subscription
        entitlements := listActiveEntitlements baseline.val.entitlements userId now
        usageCounters := listCurrentUsageCounters baseline.val.usageCounters userId now })

/-- `_current_month_window`; the month after the last one cannot be built. -/
def currentMonthWindow (now : Instant) : Except PyError (Instant × Instant) :=
  let (year, month, _) := now.date
  let next := if month = 12 then Instant.ofDate (year + 1) 1 1 else Instant.ofDate year (month + 1) 1
  match Instant.ofDate year month 1, next with
  | some start, some stop => .ok (start, stop)
  | _, _ => .error .valueError

/-- `get_or_create_usage_counter`, with the id of a new row. -/
def getOrCreateUsageCounter (db : Database) (id userId : UUID) (featureKey : String)
    (windowStart windowEnd : Instant) : Except DatabaseError (Database × UsageCounter) :=
  match findUsageCounter db.val.usageCounters userId featureKey windowStart with
  | some counter => .ok (db, counter)
  | none => do
      let counter := ⟨id, userId, featureKey, windowStart, windowEnd, 0⟩
      let created ← flush { db.val with usageCounters := db.val.usageCounters ++ [counter] }
      .ok (created, counter)

/-- The detail of the error that the comparison with the limit raises. -/
def quotaReachedDetail (limit : ℤ) : String :=
  "Monthly assessment quota reached for free plan (" ++ toString limit ++ "/" ++ toString limit ++
    ")"

/-- The part of `consume_assessment_quota` under a limit, up to the flush that the next query
starts with. -/
def countUsage (db : Database) (id userId : UUID) (limit : ℤ) (now : Instant) :
    Except BillingError Database := do
  let (windowStart, windowEnd) ← (currentMonthWindow now).mapError .python
  let (created, counter) ← (getOrCreateUsageCounter db id userId settings.assessmentFeatureKey
    windowStart windowEnd).mapError .database
  if limit ≤ counter.usedCount then .error (.http 403 (quotaReachedDetail limit))
  else
    let counted := { counter with usedCount := counter.usedCount + 1 }
    (flush { created.val with
      usageCounters := replaceRow (·.id) counted created.val.usageCounters }).mapError .database

/-- The readings of the clock in `consume_assessment_quota`: those of the baseline, when the
entitlement is looked up, `now`, and when the priority is looked up. -/
structure QuotaTimes extends BaselineTimes where
  checkedAt : Instant
  countedAt : Instant
  priorityAt : Instant

/-- `consume_assessment_quota`: the database it has committed, and whether the assessment has
priority or what is raised. -/
def consumeAssessmentQuota (db : Database) (ids : AccessIds) (counterId : UUID)
    (times : QuotaTimes) (userId : UUID) : Database × Except BillingError Bool :=
  match ensureUserAccessBaseline settings db ids times.toBaselineTimes userId with
  | (baseline, .error error) => (baseline, .error error)
  | (baseline, .ok ()) =>
      match getActiveEntitlement baseline.val.entitlements userId settings.assessmentFeatureKey
        times.checkedAt with
      | none => (baseline, .error (.http 403 "No active entitlement for assessments"))
      | some entitlement =>
          let consumed : Except BillingError Database :=
            match entitlement.limitValue with
            | none => .ok baseline
            | some limit => countUsage settings baseline counterId userId limit times.countedAt
          match consumed with
          | .error error => (baseline, .error error)
          | .ok counted =>
              (counted, .ok (getActiveEntitlement counted.val.entitlements userId
                settings.processingPriorityFeatureKey times.priorityAt).isSome)

end ImigrAI.Billing
