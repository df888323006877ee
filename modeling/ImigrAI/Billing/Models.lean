import ImigrAI.Foundations.Fallible
import ImigrAI.Python.Columns
import ImigrAI.Python.Value
import Mathlib.Tactic.MkIffOfInductiveProp

/-!
# The billing database

Plans, subscriptions, entitlements, usage counters and billing events, with the constraints
that the models declare. Stripe is the only provider. A flush checks the constraints, so a
`Database` always meets them.
-/

namespace ImigrAI.Billing

open Python Fallible

inductive PlanInterval where
  | month
  | year
deriving DecidableEq

inductive SubscriptionStatus where
  | trialing
  | active
  | pastDue
  | canceled
  | expired
deriving DecidableEq

inductive EntitlementWindow where
  | daily
  | monthly
  | lifetime
deriving DecidableEq

inductive BillingEventStatus where
  | received
  | processed
  | ignored
  | failed
deriving DecidableEq

/-- What the handler of an event raises. -/
inductive HandlerError where
  | valueError (message : String)
  | stripeGatewayError (message : String)
  /-- An exception of a built-in operation. -/
  | python (error : PyError)
deriving DecidableEq

structure Plan where
  id : UUID
  code : String
  name : String
  description : Option String
  priceCents : ℤ
  currency : String
  billingInterval : PlanInterval
  stripePriceId : Option String
  stripeProductId : Option String
  isFree : Bool
  isActive : Bool
deriving DecidableEq

structure Subscription where
  id : UUID
  userId : UUID
  planId : UUID
  status : SubscriptionStatus
  startedAt : Instant
  currentPeriodStart : Instant
  currentPeriodEnd : Instant
  canceledAt : Option Instant
  providerCustomerId : Option String
  providerSubscriptionId : Option String
  cancelAtPeriodEnd : Bool
  createdAt : Instant
deriving DecidableEq

structure Entitlement where
  id : UUID
  userId : UUID
  planId : Option UUID
  subscriptionId : Option UUID
  featureKey : String
  limitValue : Option ℤ
  usageWindow : EntitlementWindow
  isEnabled : Bool
  validFrom : Instant
  validTo : Option Instant
deriving DecidableEq

structure UsageCounter where
  id : UUID
  userId : UUID
  featureKey : String
  windowStart : Instant
  windowEnd : Instant
  usedCount : ℤ
deriving DecidableEq

/-- A billing event; of its last error the exception is kept instead of its text. -/
structure BillingEvent where
  id : UUID
  providerEventId : String
  eventType : String
  status : BillingEventStatus
  processedAt : Option Instant
  lastError : Option HandlerError
deriving DecidableEq

structure Tables where
  users : List UUID
  plans : List Plan
  subscriptions : List Subscription
  entitlements : List Entitlement
  usageCounters : List UsageCounter
  billingEvents : List BillingEvent

/-- The constraints on plans and subscriptions. -/
@[mk_iff]
structure SubscriptionsConsistent (tables : Tables) : Prop where
  planIds : (tables.plans.map (·.id)).Nodup
  planCodes : (tables.plans.map (·.code)).Nodup
  planPrices : (tables.plans.filterMap (·.stripePriceId)).Nodup
  subscriptionIds : (tables.subscriptions.map (·.id)).Nodup
  providerIds : (tables.subscriptions.filterMap (·.providerSubscriptionId)).Nodup
  subscriptionUsers : ∀ subscription ∈ tables.subscriptions, subscription.userId ∈ tables.users
  subscriptionPlans : ∀ subscription ∈ tables.subscriptions,
    subscription.planId ∈ tables.plans.map (·.id)

/-- The constraints on entitlements, usage counters and billing events. -/
@[mk_iff]
structure AccessConsistent (tables : Tables) : Prop where
  entitlementIds : (tables.entitlements.map (·.id)).Nodup
  entitlementWindows : (tables.entitlements.map fun entitlement =>
    (entitlement.userId, entitlement.featureKey, entitlement.usageWindow,
      entitlement.validFrom)).Nodup
  entitlementUsers : ∀ entitlement ∈ tables.entitlements, entitlement.userId ∈ tables.users
  entitlementPlans : ∀ entitlement ∈ tables.entitlements,
    Refers (tables.plans.map (·.id)) entitlement.planId
  entitlementSubscriptions : ∀ entitlement ∈ tables.entitlements,
    Refers (tables.subscriptions.map (·.id)) entitlement.subscriptionId
  counterIds : (tables.usageCounters.map (·.id)).Nodup
  counterWindows : (tables.usageCounters.map fun counter =>
    (counter.userId, counter.featureKey, counter.windowStart)).Nodup
  counterUsers : ∀ counter ∈ tables.usageCounters, counter.userId ∈ tables.users
  eventIds : (tables.billingEvents.map (·.id)).Nodup
  providerEventIds : (tables.billingEvents.map (·.providerEventId)).Nodup

instance (tables : Tables) : Decidable (SubscriptionsConsistent tables) :=
  decidable_of_iff' _ (subscriptionsConsistent_iff tables)

instance (tables : Tables) : Decidable (AccessConsistent tables) :=
  decidable_of_iff' _ (accessConsistent_iff tables)

/-- The declared constraints. -/
def Consistent (tables : Tables) : Prop := SubscriptionsConsistent tables ∧ AccessConsistent tables

instance (tables : Tables) : Decidable (Consistent tables) := inferInstanceAs (Decidable (_ ∧ _))

/-- Tables that meet their constraints. -/
abbrev Database := {tables : Tables // Consistent tables}

/-- What a flush raises. -/
inductive DatabaseError where
  | integrityError
deriving DecidableEq

/-- Sending the pending changes of a session, which checks the constraints. -/
def flush (tables : Tables) : Except DatabaseError Database :=
  ensure Consistent .integrityError tables

end ImigrAI.Billing
