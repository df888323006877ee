import ImigrAI.Billing.Repositories
import ImigrAI.Python.Objects

/-!
# Stripe webhooks

`BillingService.process_stripe_webhook` with the handlers of its events. The default plans are
committed first, the rest is one transaction. The ids of new rows, the readings of the clock
and what Stripe answers are arguments.
-/

namespace ImigrAI.Billing

open Python

/-- The codes name two plans and the keys five features, as in the defaults of
`BaseConfig`. -/
structure Settings where
  freePlanCode : String
  freePlanName : String
  proPlanCode : String
  proPlanName : String
  stripeProPriceId : Option String
  freeAssessmentMonthlyLimit : ℤ
  assessmentFeatureKey : String
  proRoadmapFeatureKey : String
  historyExtendedFeatureKey : String
  countryComparisonFeatureKey : String
  processingPriorityFeatureKey : String
  plansDiffer : freePlanCode ≠ proPlanCode
  featuresDiffer : [assessmentFeatureKey, proRoadmapFeatureKey, historyExtendedFeatureKey,
    countryComparisonFeatureKey, processingPriorityFeatureKey].Nodup

structure EntitlementSpec where
  featureKey : String
  limitValue : Option ℤ
  usageWindow : EntitlementWindow
  isEnabled : Bool
deriving DecidableEq

namespace Settings

variable (settings : Settings)

def proEntitlements : List EntitlementSpec := [
  ⟨settings.assessmentFeatureKey, none, .monthly, true⟩,
  ⟨settings.proRoadmapFeatureKey, none, .lifetime, true⟩,
  ⟨settings.historyExtendedFeatureKey, none, .lifetime, true⟩,
  ⟨settings.countryComparisonFeatureKey, none, .lifetime, true⟩,
  ⟨settings.processingPriorityFeatureKey, none, .lifetime, true⟩]

def freeEntitlements : List EntitlementSpec := [
  ⟨settings.assessmentFeatureKey, some settings.freeAssessmentMonthlyLimit, .monthly, true⟩]

def entitlementsForPlan (planCode : String) : List EntitlementSpec :=
  if planCode = settings.proPlanCode then settings.proEntitlements else settings.freeEntitlements

/-- A row of a default plan. -/
def defaultPlan (id : UUID) (code name description : String) (stripePriceId : Option String)
    (isFree : Bool) : Plan where
  id := id
  code := code
  name := name
  description := some description
  priceCents := 0
  currency := "BRL"
  billingInterval := .month
  stripePriceId := stripePriceId
  stripeProductId := none
  isFree := isFree
  isActive := true

def freePlan (id : UUID) : Plan :=
  defaultPlan id settings.freePlanCode settings.freePlanName "Free tier" none true

def proPlan (id : UUID) : Plan :=
  defaultPlan id settings.proPlanCode settings.proPlanName "Pro tier" settings.stripeProPriceId
    false

end Settings

/-- The ids that `uuid4` gives to the default plans and to the rows of new entitlements. -/
structure AccessIds where
  freePlan : UUID
  proPlan : UUID
  entitlement : ℕ → UUID

/-- The ids that `uuid4` gives to the new rows of an event. -/
structure EventIds extends AccessIds where
  billingEvent : UUID
  subscription : UUID

/-- The readings of the clock: `now` of `_sync_subscription_object`, the creation time of a new
subscription, `now` of `_apply_plan_entitlements`, and the end of the processing. -/
structure EventTimes where
  syncedAt : Instant
  createdAt : Instant
  appliedAt : Instant
  processedAt : Instant

/-- What `verify_and_parse_webhook` makes of a request. -/
inductive Verification where
  | signatureError (message : String)
  | gatewayError (message : String)
  | event (entries : List (String × Value))

/-- A request of Stripe, with the subscriptions that `retrieve_subscription` finds. -/
structure Delivery where
  verification : Verification
  retrieveSubscription : String → Except String (List (String × Value))
  ids : EventIds
  times : EventTimes

structure StripeWebhookAck where
  received : Bool
  idempotentReplay : Bool
deriving DecidableEq

/-- What the calls of `BillingService` raise. -/
inductive BillingError where
  | http (statusCode : ℕ) (detail : String)
  /-- Status 500 with the detail "Failed to process billing event: " and the text of this. -/
  | failedToProcess (error : HandlerError)
  | python (error : PyError)
  | database (error : DatabaseError)
  /-- The session of a failed flush is used before it is rolled back. -/
  | pendingRollback
deriving DecidableEq

/-- What a handler leaves in its session: the rows, and its result or what it has raised. -/
abbrev Handled (Result : Type) : Type := Database × Except HandlerError Result

def python {Result : Type} (computation : Except PyError Result) : Except HandlerError Result :=
  computation.mapError .python

variable (settings : Settings)

/-- `_ensure_default_plans`; each plan is committed by itself. -/
def ensureDefaultPlans (db : Database) (ids : AccessIds) : Database × Except DatabaseError Unit :=
  match getOrCreatePlan db (settings.freePlan ids.freePlan) with
  | .error error => (db, .error error)
  | .ok withFree =>
      match getOrCreatePlan withFree (settings.proPlan ids.proPlan) with
      | .error error => (withFree, .error error)
      | .ok withPro => (withPro, .ok ())

def planEntitlement (id userId : UUID) (plan : Plan) (subscriptionId : Option UUID)
    (now : Instant) (spec : EntitlementSpec) : Entitlement where
  id := id
  userId := userId
  planId := some plan.id
  subscriptionId := subscriptionId
  featureKey := spec.featureKey
  limitValue := spec.limitValue
  usageWindow := spec.usageWindow
  isEnabled := spec.isEnabled
  validFrom := now
  validTo := none

/-- The rows that `_apply_plan_entitlements` creates. -/
def planEntitlements (ids : ℕ → UUID) (userId : UUID) (plan : Plan)
    (subscriptionId : Option UUID) (now : Instant) : List Entitlement :=
  (settings.entitlementsForPlan plan.code).zipIdx.map fun entry =>
    planEntitlement (ids entry.2) userId plan subscriptionId now entry.1

def applyPlanEntitlements (db : Database) (ids : ℕ → UUID) (userId : UUID) (plan : Plan)
    (subscriptionId : Option UUID) (now : Instant) : Except DatabaseError Database := do
  let deactivated ← deactivateActiveEntitlements db userId now
  (planEntitlements settings ids userId plan subscriptionId now).foldlM createEntitlement deactivated

def applyEntitlementsForStatus (db : Database) (ids : ℕ → UUID) (status : SubscriptionStatus)
    (userId subscriptionId : UUID) (plan : Plan) (now : Instant) :
    Except DatabaseError (Handled Unit) :=
  if status.isLive then do
    let applied ← applyPlanEntitlements settings db ids userId plan (some subscriptionId) now
    .ok (applied, .ok ())
  else
    match getPlanByCode db.val settings.freePlanCode with
    | none => .ok (db, .error (.valueError "Free plan not configured"))
    | some freePlan => do
        let applied ← applyPlanEntitlements settings db ids userId freePlan (some subscriptionId) now
        .ok (applied, .ok ())

variable [UnicodeData]

def mapSubscriptionStatus (rawStatus : String) : SubscriptionStatus :=
  let normalized := UnicodeData.lower (Text.strip rawStatus)
  if normalized = "active" then .active
  else if normalized = "trialing" then .trialing
  else if normalized = "past_due" ∨ normalized = "unpaid" then .pastDue
  else if normalized = "canceled" ∨ normalized = "cancelled" then .canceled
  else .expired

def fromUnix : Value → Except PyError (Option Instant)
  | .none => .ok none
  | value => do
      let seconds ← value.toInt
      let instant ← instantOfTimestamp seconds
      .ok (some instant)

/-- The plan under the code of the Pro plan. -/
def configuredProPlan (tables : Tables) : Except HandlerError Plan :=
  match getPlanByCode tables settings.proPlanCode with
  | some plan => .ok plan
  | none => .error (.valueError "Pro plan not configured")

/-- The price id of the first item of a subscription. -/
def firstPriceId (subscriptionObject : Value) : Except PyError Value := do
  let items ← (← subscriptionObject.get "items" (.dict [])).get "data" (.list [])
  match items with
  | .list (first :: _) => do
      let price ← (if first.truthy then first else .dict []).get "price" (.dict [])
      price.get "id" .none
  | _ => .ok .none

/-- `_resolve_plan_from_subscription_payload`. -/
def resolvePlan (tables : Tables) (subscriptionObject : Value) : Except HandlerError Plan := do
  let priceId ← python (firstPriceId subscriptionObject)
  if !priceId.truthy then configuredProPlan settings tables
  else
    match getPlanByStripePriceId tables priceId.text with
    | some plan => .ok plan
    | none =>
        if settings.stripeProPriceId = some priceId.text ∧ priceId.text ≠ "" then
          configuredProPlan settings tables
        else .error (.valueError ("Unknown Stripe price id: " ++ priceId.text))

/-- `user_id_hint or metadata.get("user_id")`. -/
def rawUserId (userIdHint : Option String) (metadata : Value) : Except PyError (Option String) :=
  match userIdHint with
  | some hint => .ok (some hint)
  | none =>
      ((if metadata.truthy then metadata else .dict []).get "user_id" .none).map Value.optionalStr

/-- `_resolve_user_id_from_subscription`. -/
def resolveUserId (existing : Option Subscription) (userIdHint : Option String)
    (subscriptionObject : Value) : Except HandlerError UUID :=
  match existing with
  | some existing => .ok existing.userId
  | none => do
      let metadata ← python (subscriptionObject.get "metadata" (.dict []))
      let some text ← python (rawUserId userIdHint metadata)
        | .error (.valueError "Cannot resolve user for subscription event without metadata.user_id")
      python (uuidOfText text)

/-- What `_sync_subscription_object` reads of a subscription before it writes: the provider id,
the plan, and the columns to be stored. -/
def readSubscription (tables : Tables) (ids : EventIds) (times : EventTimes)
    (subscriptionObject : Value) (userIdHint : Option String) :
    Except HandlerError (String × Plan × Subscription) := do
  let providerSubscriptionId := (← python (subscriptionObject.get "id" (.str ""))).text
  if providerSubscriptionId = "" then
    .error (.valueError "Stripe subscription payload missing id")
  else
    let plan ← resolvePlan settings tables subscriptionObject
    let rawStatus ← python (subscriptionObject.get "status" (.str ""))
    let userId ← resolveUserId
      (getSubscriptionByProviderId tables.subscriptions providerSubscriptionId) userIdHint
      subscriptionObject
    let startedAt ← python do fromUnix (← subscriptionObject.get "start_date" .none)
    let periodStart ← python do fromUnix (← subscriptionObject.get "current_period_start" .none)
    let periodEnd ← python do fromUnix (← subscriptionObject.get "current_period_end" .none)
    let canceledAt ← python do fromUnix (← subscriptionObject.get "canceled_at" .none)
    let cancelAtPeriodEnd ← python (subscriptionObject.get "cancel_at_period_end" (.bool false))
    let customerId ← python (subscriptionObject.get "customer" .none)
    .ok (providerSubscriptionId, plan, {
      id := ids.subscription
      userId := userId
      planId := plan.id
      status := mapSubscriptionStatus rawStatus.text
      startedAt := startedAt.getD times.syncedAt
      currentPeriodStart := periodStart.getD times.syncedAt
      currentPeriodEnd := periodEnd.getD times.syncedAt
      canceledAt := canceledAt
      providerCustomerId := customerId.optionalStr
      providerSubscriptionId := some providerSubscriptionId
      cancelAtPeriodEnd := cancelAtPeriodEnd.truthy
      createdAt := times.createdAt })

def syncSubscriptionObject (db : Database) (ids : EventIds) (times : EventTimes)
    (subscriptionObject : Value) (userIdHint : Option String) :
    Except DatabaseError (Handled Unit) :=
  match readSubscription settings db.val ids times subscriptionObject userIdHint with
  | .error error => .ok (db, .error error)
  | .ok (providerSubscriptionId, plan, values) => do
      let (stored, subscription) ← upsertSubscription db providerSubscriptionId values
      applyEntitlementsForStatus settings stored ids.entitlement values.status values.userId
        subscription.id plan times.appliedAt

/-- The subscription that `_sync_subscription_from_provider` retrieves, completed by what the
event says about customer and user. -/
def completeSubscription (retrieved : List (String × Value))
    (userIdHint customerIdHint : Option String) : Except PyError (List (String × Value)) :=
  let withCustomer :=
    match customerIdHint with
    | some customerId =>
        if ((Value.lookup "customer" retrieved).getD .none).truthy then retrieved
        else Value.assign "customer" (.str customerId) retrieved
    | none => retrieved
  match userIdHint, Value.lookup "metadata" withCustomer with
  | some userId, some (.dict metadata) =>
      if ((Value.lookup "user_id" metadata).getD .none).truthy then .ok withCustomer
      else .ok (Value.assign "metadata" (.dict (Value.assign "user_id" (.str userId) metadata))
        withCustomer)
  | some _, some _ => .error .attributeError
  | _, _ => .ok withCustomer

/-- `str(event.get(key, ""))`. -/
def eventText (event : List (String × Value)) (key : String) : String :=
  ((Value.lookup key event).getD (.str "")).text

/-- The subscription that an event is about, with the hint of its user. An event without one is
not handled. -/
def subscriptionOfEvent (retrieveSubscription : String → Except String (List (String × Value)))
    (event : List (String × Value)) : Except HandlerError (Option (Value × Option String)) := do
  let eventType := eventText event "type"
  let data ← python ((Value.dict event).get "data" (.dict []))
  let dataObject ← python (data.get "object" (.dict []))
  if eventType = "checkout.session.completed" ∨ eventType = "invoice.paid" then
    let subscriptionId ← python (dataObject.get "subscription" .none)
    if !subscriptionId.truthy then .ok none
    else
      let (userIdHint, customerIdHint) ←
        if eventType = "invoice.paid" then .ok (none, none)
        else do
          let reference ← python (dataObject.get "client_reference_id" .none)
          let userId ← if reference.truthy then .ok reference
            else python do (← dataObject.get "metadata" (.dict [])).get "user_id" .none
          let customerId ← python (dataObject.get "customer" .none)
          .ok (userId.optionalStr, customerId.optionalStr)
      let retrieved ← (retrieveSubscription subscriptionId.text).mapError .stripeGatewayError
      let subscription ← python (completeSubscription retrieved userIdHint customerIdHint)
      .ok (some (.dict subscription, userIdHint))
  else if eventType = "customer.subscription.updated" ∨
      eventType = "customer.subscription.deleted" then
    .ok (some (dataObject, none))
  else .ok none

/-- `_handle_stripe_event`: whether the event is one that is handled. -/
def handleStripeEvent (db : Database) (delivery : Delivery) (event : List (String × Value)) :
    Except DatabaseError (Handled Bool) :=
  match subscriptionOfEvent delivery.retrieveSubscription event with
  | .error error => .ok (db, .error error)
  | .ok none => .ok (db, .ok false)
  | .ok (some (subscriptionObject, userIdHint)) => do
      let (handled, result) ←
        syncSubscriptionObject settings db delivery.ids delivery.times subscriptionObject userIdHint
      .ok (handled, result.map fun _ => true)

/-- The end of the transaction of an event, which began with its row pending. -/
def recordStripeEvent (committed pending : Database) (delivery : Delivery)
    (event : List (String × Value)) (billingEvent : BillingEvent) :
    Database × Except BillingError StripeWebhookAck :=
  match handleStripeEvent settings pending delivery event with
  -- Marking the event as failed needs the session that the flush has broken.
  | .error _ => (committed, .error .pendingRollback)
  | .ok (handled, .ok isHandled) =>
      match markBillingEvent handled billingEvent (if isHandled then .processed else .ignored)
        delivery.times.processedAt none with
      | .error _ => (committed, .error .pendingRollback)
      | .ok marked => (marked, .ok ⟨true, false⟩)
  | .ok (handled, .error error) =>
      match markBillingEvent handled billingEvent .failed delivery.times.processedAt (some error) with
      | .error error => (committed, .error (.database error))
      | .ok marked => (marked, .error (.failedToProcess error))

/-- `process_stripe_webhook`: the database it has committed, and what it returns or raises. -/
def processStripeWebhook (db : Database) (delivery : Delivery) :
    Database × Except BillingError StripeWebhookAck :=
  match ensureDefaultPlans settings db delivery.ids.toAccessIds with
  | (planned, .error error) => (planned, .error (.database error))
  | (planned, .ok ()) =>
      match delivery.verification with
      | .signatureError message => (planned, .error (.http 401 message))
      | .gatewayError message => (planned, .error (.http 503 message))
      | .event event =>
          let eventId := eventText event "id"
          let eventType := eventText event "type"
          if eventId = "" ∨ eventType = "" then
            (planned, .error (.http 400 "Invalid Stripe event payload"))
          else
            match getBillingEvent planned.val eventId with
            | some existing =>
                if existing.status = .processed ∨ existing.status = .ignored then
                  (planned, .ok ⟨true, true⟩)
                else recordStripeEvent settings planned planned delivery event existing
            | none =>
                let billingEvent :=
                  ⟨delivery.ids.billingEvent, eventId, eventType, .received, none, none⟩
                match createBillingEvent planned billingEvent with
                | .error error => (planned, .error (.database error))
                | .ok pending =>
                    recordStripeEvent settings planned pending delivery event billingEvent

def sampleSettings : Settings where
  freePlanCode := "free"
  freePlanName := "Free"
  proPlanCode := "pro"
  proPlanName := "Pro Monthly"
  stripeProPriceId := some "price_pro"
  freeAssessmentMonthlyLimit := 3
  assessmentFeatureKey := "assessments.monthly"
  proRoadmapFeatureKey := "roadmap.pro"
  historyExtendedFeatureKey := "history.extended"
  countryComparisonFeatureKey := "countries.comparison"
  processingPriorityFeatureKey := "processing.priority"
  plansDiffer := by decide
  featuresDiffer := by decide

/-- One user and nothing else. -/
def sampleDatabase : Database := ⟨⟨[1], [], [], [], [], []⟩, by decide⟩

/-- An update of a subscription to the Pro plan; the number makes ids and times new. -/
def sampleUpdate (number : ℕ) (subscription status : String) : Delivery where
  verification := .event [
    ("id", .str ("evt_" ++ toString number)),
    ("type", .str "customer.subscription.updated"),
    ("data", .dict [("object", .dict [
      ("id", .str subscription),
      ("status", .str status),
      ("metadata", .dict [("user_id", .str "00000000-0000-0000-0000-000000000001")])])])]
  retrieveSubscription _ := .error "No such subscription"
  ids := ⟨⟨100, 101, fun index => Fin.ofNat _ (1000 * number + index)⟩,
    Fin.ofNat _ (200 + number), Fin.ofNat _ (300 + number)⟩
  times := ⟨Fin.ofNat _ number, Fin.ofNat _ number, Fin.ofNat _ number, Fin.ofNat _ number⟩

end ImigrAI.Billing
