import ImigrAI.Billing.Webhooks

/-!
# What a webhook changes

An event either leaves subscriptions and entitlements as they are, or it stores one
subscription and replaces the active entitlements of its user by those of one plan.
-/

namespace ImigrAI.Billing

open Python Fallible Rows

section Granting

variable {settings : Settings} {db after : Database} {ids : ℕ → UUID} {userId : UUID}
  {plan : Plan} {subscriptionId : Option UUID} {now : Instant}

theorem foldlM_createEntitlement_eq_ok {rows : List Entitlement}
    (done : rows.foldlM createEntitlement db = .ok after) :
    after.val = { db.val with entitlements := db.val.entitlements ++ rows } := by
  induction rows generalizing db with
  | nil =>
      cases done
      simp
  | cons row rest ih =>
      rcases bind_eq_ok_iff.mp done with ⟨created, creating, done⟩
      rw [createEntitlement, flush, ensure_eq_ok_iff] at creating
      rw [ih done, creating, List.append_assoc, List.singleton_append]

/-- The active entitlements of the user end, and those of the plan begin. -/
def granted (settings : Settings) (entitlements : List Entitlement) (ids : ℕ → UUID)
    (userId : UUID) (plan : Plan) (subscriptionId : Option UUID) (now : Instant) :
    List Entitlement :=
  deactivated userId now entitlements ++
    planEntitlements settings ids userId plan subscriptionId now

theorem applyPlanEntitlements_eq_ok
    (done : applyPlanEntitlements settings db ids userId plan subscriptionId now = .ok after) :
    after.val = { db.val with
      entitlements :=
        granted settings db.val.entitlements ids userId plan subscriptionId now } := by
  rcases bind_eq_ok_iff.mp done with ⟨cleared, clearing, done⟩
  rw [deactivateActiveEntitlements, flush, ensure_eq_ok_iff] at clearing
  rw [foldlM_createEntitlement_eq_ok done, clearing, granted]

/-- The code of the plan that a status gives access to. -/
def grantedCode (settings : Settings) (status : SubscriptionStatus) (plan : Plan) : String :=
  if status.isLive then plan.code else settings.freePlanCode

theorem applyEntitlementsForStatus_eq_ok {status : SubscriptionStatus} {ownId : UUID}
    {result : Except HandlerError Unit}
    (freePlan : (getPlanByCode db.val settings.freePlanCode).isSome)
    (done : applyEntitlementsForStatus settings db ids status userId ownId plan now =
      .ok (after, result)) :
    result = .ok () ∧ ∃ grantedPlan, grantedPlan.code = grantedCode settings status plan ∧
      after.val = { db.val with
        entitlements :=
          granted settings db.val.entitlements ids userId grantedPlan (some ownId) now } := by
  unfold applyEntitlementsForStatus at done
  split at done
  · next live =>
      rcases bind_eq_ok_iff.mp done with ⟨applied, applying, done⟩
      cases done
      exact ⟨rfl, plan, by rw [grantedCode, if_pos live], applyPlanEntitlements_eq_ok applying⟩
  · next ended =>
      split at done
      · next missing => exact absurd freePlan (by simp [missing])
      · next found lookup =>
          rcases bind_eq_ok_iff.mp done with ⟨applied, applying, done⟩
          cases done
          refine ⟨rfl, found, ?_, applyPlanEntitlements_eq_ok applying⟩
          rw [grantedCode, if_neg ended, (getPlanByCode_eq_some lookup).2.1]

end Granting

theorem ensureDefaultPlans_extends (settings : Settings) (db : Database) (ids : AccessIds) :
    ExtendsPlans db.val (ensureDefaultPlans settings db ids).1.val := by
  unfold ensureDefaultPlans
  split
  · exact ExtendsPlans.refl _
  · next withFree storedFree =>
      have first := (getOrCreatePlan_eq_ok rfl storedFree).1
      split
      · exact first
      · next withPro storedPro => exact first.trans (getOrCreatePlan_eq_ok rfl storedPro).1

/-- The default plans are stored one after the other. -/
theorem ensureDefaultPlans_eq_ok {settings : Settings} {db planned : Database}
    {ids : AccessIds} (done : ensureDefaultPlans settings db ids = (planned, .ok ())) :
    ∃ withFree, getOrCreatePlan db (settings.freePlan ids.freePlan) = .ok withFree ∧
      getOrCreatePlan withFree (settings.proPlan ids.proPlan) = .ok planned := by
  unfold ensureDefaultPlans at done
  split at done
  · exact absurd (congrArg Prod.snd done) (by simp)
  · next withFree storedFree =>
      split at done
      · exact absurd (congrArg Prod.snd done) (by simp)
      · next withPro storedPro =>
          cases done
          exact ⟨withFree, storedFree, storedPro⟩

theorem ensureDefaultPlans_freePlan {settings : Settings} {db planned : Database}
    {ids : AccessIds} (done : ensureDefaultPlans settings db ids = (planned, .ok ())) :
    (getPlanByCode planned.val settings.freePlanCode).isSome := by
  rcases ensureDefaultPlans_eq_ok done with ⟨withFree, storedFree, storedPro⟩
  have free := (getOrCreatePlan_eq_ok rfl storedFree).2 _ (Or.inl rfl)
  exact (getOrCreatePlan_eq_ok rfl storedPro).2 _ (Or.inr free)

/-- Subscriptions and entitlements stay, and plans keep their codes. -/
structure KeepsAccess (before after : Tables) : Prop where
  subscriptions : after.subscriptions = before.subscriptions
  entitlements : after.entitlements = before.entitlements
  plans : planCodes before <+: planCodes after

/-- Nothing but billing events may differ. -/
def OnlyEvents (before after : Tables) : Prop :=
  ∃ billingEvents, after = { before with billingEvents := billingEvents }

/-- A subscription that an event asks to store: its provider id, its plan and its columns. -/
structure SubscriptionChange where
  providerSubscriptionId : String
  plan : Plan
  values : Subscription

/-- The row that the change makes. -/
def SubscriptionChange.row (change : SubscriptionChange) (subscriptions : List Subscription) :
    Subscription :=
  (upserted subscriptions change.providerSubscriptionId change.values).1

/-- The subscription is stored and its user is granted the plan that its status gives; the
billing events may differ, and the rest stays. -/
structure StoresChange (settings : Settings) (ids : ℕ → UUID) (now : Instant)
    (change : SubscriptionChange) (before after : Tables) : Prop where
  subscriptions : after.subscriptions =
    (upserted before.subscriptions change.providerSubscriptionId change.values).2
  entitlements : ∃ plan, plan.code = grantedCode settings change.values.status change.plan ∧
    after.entitlements = granted settings before.entitlements ids change.values.userId plan
      (some (change.row before.subscriptions).id) now
  rest : ∃ billingEvents, after = { before with
    subscriptions := after.subscriptions
    entitlements := after.entitlements
    billingEvents := billingEvents }

theorem ExtendsPlans.keepsAccess {before after : Tables} (extended : ExtendsPlans before after) :
    KeepsAccess before after := by
  rcases extended with ⟨⟨plans, rfl⟩, codes⟩
  exact ⟨rfl, rfl, codes⟩

theorem OnlyEvents.refl (tables : Tables) : OnlyEvents tables tables := ⟨tables.billingEvents, rfl⟩

theorem OnlyEvents.trans {first second third : Tables} (left : OnlyEvents first second)
    (right : OnlyEvents second third) : OnlyEvents first third := by
  rcases left with ⟨_, rfl⟩
  rcases right with ⟨billingEvents, rfl⟩
  exact ⟨billingEvents, rfl⟩

theorem KeepsAccess.trans_events {first second third : Tables} (left : KeepsAccess first second)
    (right : OnlyEvents second third) : KeepsAccess first third := by
  rcases right with ⟨billingEvents, rfl⟩
  exact ⟨left.subscriptions, left.entitlements, left.plans⟩

variable {settings : Settings} {ids : EventIds} {entitlementIds : ℕ → UUID} {now : Instant}
  {change : SubscriptionChange}

theorem OnlyEvents.trans_stores {first second third : Tables} (left : OnlyEvents first second)
    (right : StoresChange settings entitlementIds now change second third) :
    StoresChange settings entitlementIds now change first third := by
  rcases left with ⟨_, rfl⟩
  exact ⟨right.subscriptions, right.entitlements, right.rest⟩

theorem StoresChange.trans_events {first second third : Tables}
    (left : StoresChange settings entitlementIds now change first second)
    (right : OnlyEvents second third) :
    StoresChange settings entitlementIds now change first third := by
  rcases right with ⟨billingEvents, rfl⟩
  refine ⟨left.subscriptions, left.entitlements, billingEvents, ?_⟩
  rcases left.rest with ⟨_, rest⟩
  rw [rest]

theorem StoresChange.plans {before after : Tables}
    (stores : StoresChange settings entitlementIds now change before after) :
    after.plans = before.plans := by
  rcases stores.rest with ⟨_, rest⟩
  rw [rest]

theorem StoresChange.planCodes {before after : Tables}
    (stores : StoresChange settings entitlementIds now change before after) :
    planCodes before <+: planCodes after := by
  rw [Billing.planCodes, Billing.planCodes, stores.plans]

section Reading

variable [UnicodeData] {tables : Tables} {subscriptionObject : Value} {userIdHint : Option String}

omit [UnicodeData] in
theorem configuredProPlan_mem {plan : Plan} (found : configuredProPlan settings tables = .ok plan) :
    plan ∈ tables.plans := by
  unfold configuredProPlan at found
  split at found
  · next lookup =>
      cases found
      exact (getPlanByCode_eq_some lookup).1
  · exact absurd found (by simp)

theorem resolvePlan_mem {plan : Plan}
    (resolved : resolvePlan settings tables subscriptionObject = .ok plan) :
    plan ∈ tables.plans := by
  rcases bind_eq_ok_iff.mp resolved with ⟨priceId, -, resolved⟩
  split at resolved
  · exact configuredProPlan_mem resolved
  · split at resolved
    · next lookup =>
        cases resolved
        exact List.mem_of_find?_eq_some lookup
    · split at resolved
      · exact configuredProPlan_mem resolved
      · exact absurd resolved (by simp)

omit [UnicodeData] in
theorem python_eq_ok_iff {Result : Type} {computation : Except PyError Result} {result : Result} :
    python computation = .ok result ↔ computation = .ok result :=
  mapError_eq_ok_iff

/-- Where the columns of a stored subscription come from, and whose subscription it stays. -/
theorem readSubscription_reads {times : EventTimes} {providerSubscriptionId : String} {plan : Plan}
    {values : Subscription}
    (read : readSubscription settings tables ids times subscriptionObject userIdHint =
      .ok (providerSubscriptionId, plan, values)) :
    (subscriptionObject.get "id" (.str "")).map Value.text = .ok providerSubscriptionId ∧
      resolvePlan settings tables subscriptionObject = .ok plan ∧
      (subscriptionObject.get "status" (.str "")).map
        (fun rawStatus => mapSubscriptionStatus rawStatus.text) = .ok values.status ∧
      values.planId = plan.id ∧ values.providerSubscriptionId = some providerSubscriptionId ∧
      ∀ existing, getSubscriptionByProviderId tables.subscriptions providerSubscriptionId =
        some existing → existing.userId = values.userId := by
  rcases bind_eq_ok_iff.mp read with ⟨rawId, rawIdRead, read⟩
  dsimp only at read
  split at read
  · exact absurd read (by simp)
  · rcases bind_eq_ok_iff.mp read with ⟨resolved, resolving, read⟩
    rcases bind_eq_ok_iff.mp read with ⟨rawStatus, rawStatusRead, read⟩
    rcases bind_eq_ok_iff.mp read with ⟨userId, resolvingUser, read⟩
    rcases bind_eq_ok_iff.mp read with ⟨startedAt, -, read⟩
    rcases bind_eq_ok_iff.mp read with ⟨periodStart, -, read⟩
    rcases bind_eq_ok_iff.mp read with ⟨periodEnd, -, read⟩
    rcases bind_eq_ok_iff.mp read with ⟨canceledAt, -, read⟩
    rcases bind_eq_ok_iff.mp read with ⟨cancelAtPeriodEnd, -, read⟩
    rcases bind_eq_ok_iff.mp read with ⟨customerId, -, read⟩
    cases read
    rw [python_eq_ok_iff.mp rawIdRead, python_eq_ok_iff.mp rawStatusRead]
    refine ⟨rfl, resolving, rfl, rfl, rfl, fun existing found => ?_⟩
    rw [found] at resolvingUser
    exact Except.ok.inj resolvingUser

end Reading

section Handling

variable [UnicodeData] {db after : Database}

theorem syncSubscriptionObject_eq_ok {times : EventTimes} {subscriptionObject : Value}
    {userIdHint : Option String} {result : Except HandlerError Unit}
    (freePlan : (getPlanByCode db.val settings.freePlanCode).isSome)
    (done : syncSubscriptionObject settings db ids times subscriptionObject userIdHint =
      .ok (after, result)) :
    (after = db ∧ ∃ error, result = .error error) ∨
      result = .ok () ∧ ∃ change : SubscriptionChange,
        readSubscription settings db.val ids times subscriptionObject userIdHint =
          .ok (change.providerSubscriptionId, change.plan, change.values) ∧
        StoresChange settings ids.entitlement times.appliedAt change db.val after.val := by
  unfold syncSubscriptionObject at done
  split at done
  · next error _ =>
      cases done
      exact Or.inl ⟨rfl, error, rfl⟩
  · next providerSubscriptionId plan values read =>
      rcases bind_eq_ok_iff.mp done with ⟨⟨stored, row⟩, upserting, done⟩
      rcases upsertSubscription_eq_ok upserting with ⟨rfl, storedTables⟩
      have freeStored : (getPlanByCode stored.val settings.freePlanCode).isSome := by
        rw [storedTables]
        exact freePlan
      rcases applyEntitlementsForStatus_eq_ok freeStored done with
        ⟨rfl, grantedPlan, code, tables⟩
      rw [storedTables] at tables
      refine Or.inr ⟨rfl, ⟨providerSubscriptionId, plan, values⟩, read, ?_, ⟨grantedPlan, code, ?_⟩, ?_⟩
      · rw [tables]
      · rw [tables]
        rfl
      · exact ⟨db.val.billingEvents, by rw [tables]⟩

/-- The change that an event asks for: that of the subscription it is about. -/
def askedChange (settings : Settings) (tables : Tables) (delivery : Delivery)
    (event : List (String × Value)) : Option SubscriptionChange :=
  match subscriptionOfEvent delivery.retrieveSubscription event with
  | .ok (some (subscriptionObject, userIdHint)) =>
      match readSubscription settings tables delivery.ids delivery.times subscriptionObject
        userIdHint with
      | .ok (providerSubscriptionId, plan, values) => some ⟨providerSubscriptionId, plan, values⟩
      | .error _ => none
  | _ => none

theorem readSubscription_of_askedChange {tables : Tables} {delivery : Delivery}
    {event : List (String × Value)} (asked : change ∈ askedChange settings tables delivery event) :
    ∃ subscriptionObject userIdHint,
      subscriptionOfEvent delivery.retrieveSubscription event =
        .ok (some (subscriptionObject, userIdHint)) ∧
      readSubscription settings tables delivery.ids delivery.times subscriptionObject userIdHint =
        .ok (change.providerSubscriptionId, change.plan, change.values) := by
  unfold askedChange at asked
  split at asked
  · next subscriptionObject userIdHint found =>
      split at asked
      · next read =>
          cases asked
          exact ⟨subscriptionObject, userIdHint, found, read⟩
      · simp at asked
  · simp at asked

/-- Only billing events change, or the change that is asked for is stored. -/
def HandledBy (settings : Settings) (delivery : Delivery) (asked : Option SubscriptionChange)
    (before after : Tables) : Prop :=
  OnlyEvents before after ∨ ∃ change ∈ asked,
    StoresChange settings delivery.ids.entitlement delivery.times.appliedAt change before after

variable {delivery : Delivery} {event : List (String × Value)}

theorem handleStripeEvent_eq_ok {result : Except HandlerError Bool}
    (freePlan : (getPlanByCode db.val settings.freePlanCode).isSome)
    (done : handleStripeEvent settings db delivery event = .ok (after, result)) :
    HandledBy settings delivery (askedChange settings db.val delivery event) db.val after.val := by
  unfold handleStripeEvent at done
  split at done
  · cases done
    exact Or.inl (OnlyEvents.refl _)
  · cases done
    exact Or.inl (OnlyEvents.refl _)
  · next subscriptionObject userIdHint found =>
      rcases bind_eq_ok_iff.mp done with ⟨⟨handled, synced⟩, syncing, done⟩
      cases done
      rcases syncSubscriptionObject_eq_ok freePlan syncing with
        ⟨rfl, -⟩ | ⟨-, change, read, stores⟩
      · exact Or.inl (OnlyEvents.refl _)
      · exact Or.inr ⟨change, by simp [askedChange, found, read], stores⟩

omit [UnicodeData] in
theorem markBillingEvent_onlyEvents {billingEvent : BillingEvent} {status : BillingEventStatus}
    {processedAt : Instant} {lastError : Option HandlerError}
    (done : markBillingEvent db billingEvent status processedAt lastError = .ok after) :
    OnlyEvents db.val after.val :=
  ⟨_, ensure_eq_ok_iff.mp done⟩

/-- The transaction of an event is rolled back or leaves what its handler did. -/
theorem recordStripeEvent_handledBy {committed pending : Database} {billingEvent : BillingEvent}
    (freePlan : (getPlanByCode pending.val settings.freePlanCode).isSome)
    (begun : OnlyEvents committed.val pending.val) :
    HandledBy settings delivery (askedChange settings pending.val delivery event) committed.val
      (recordStripeEvent settings committed pending delivery event billingEvent).1.val := by
  have marks {handled marked : Database} {result : Except HandlerError Bool}
      (handling : handleStripeEvent settings pending delivery event = .ok (handled, result))
      (marking : OnlyEvents handled.val marked.val) :
      HandledBy settings delivery (askedChange settings pending.val delivery event) committed.val
        marked.val := by
    rcases handleStripeEvent_eq_ok freePlan handling with keeps | ⟨change, asks, stores⟩
    · exact Or.inl ((begun.trans keeps).trans marking)
    · exact Or.inr ⟨change, asks, begun.trans_stores (stores.trans_events marking)⟩
  unfold recordStripeEvent
  split
  · exact Or.inl (OnlyEvents.refl _)
  · next handled isHandled handling =>
      split
      · exact Or.inl (OnlyEvents.refl _)
      · next marked marking => exact marks handling (markBillingEvent_onlyEvents marking)
  · next handled error handling =>
      split
      · exact Or.inl (OnlyEvents.refl _)
      · next marked marking => exact marks handling (markBillingEvent_onlyEvents marking)

/-- An event about a subscription is processed only with its change stored. -/
theorem recordStripeEvent_stores {committed pending : Database} {billingEvent : BillingEvent}
    {subscription : Value × Option String} {ack : StripeWebhookAck}
    (freePlan : (getPlanByCode pending.val settings.freePlanCode).isSome)
    (begun : OnlyEvents committed.val pending.val)
    (found : subscriptionOfEvent delivery.retrieveSubscription event = .ok (some subscription))
    (processed : (recordStripeEvent settings committed pending delivery event billingEvent).2 =
      .ok ack) :
    ∃ change ∈ askedChange settings pending.val delivery event,
      StoresChange settings delivery.ids.entitlement delivery.times.appliedAt change committed.val
        (recordStripeEvent settings committed pending delivery event billingEvent).1.val := by
  rcases handling : handleStripeEvent settings pending delivery event with error | ⟨handled, result⟩
  · simp [recordStripeEvent, handling] at processed
  · simp only [recordStripeEvent, handling] at processed ⊢
    cases result with
    | error error =>
        dsimp only at processed
        split at processed
        · exact absurd processed (by simp)
        · exact absurd processed (by simp)
    | ok isHandled =>
        dsimp only at processed ⊢
        rcases marking : markBillingEvent handled billingEvent
          (if isHandled then .processed else .ignored) delivery.times.processedAt none with
          error | marked
        · simp [marking] at processed
        · unfold handleStripeEvent at handling
          rw [found] at handling
          rcases bind_eq_ok_iff.mp handling with ⟨⟨synced, result⟩, syncing, done⟩
          rcases syncSubscriptionObject_eq_ok freePlan syncing with
            ⟨-, error, rfl⟩ | ⟨rfl, change, read, stores⟩
          · simp [Except.map] at done
          · rcases Prod.mk.inj (Except.ok.inj done) with ⟨rfl, -⟩
            refine ⟨change, by simp [askedChange, found, read], ?_⟩
            exact begun.trans_stores (stores.trans_events (markBillingEvent_onlyEvents marking))

/-- An event with this id has been processed or ignored. -/
def Settled (tables : Tables) (event : List (String × Value)) : Prop :=
  ∃ existing ∈ getBillingEvent tables (eventText event "id"),
    existing.status = .processed ∨ existing.status = .ignored

instance (tables : Tables) : DecidablePred (Settled tables) :=
  fun _ => inferInstanceAs (Decidable (∃ existing ∈ getBillingEvent _ _, _))

/-- The database with the default plans in place. -/
def planned (settings : Settings) (db : Database) (ids : AccessIds) : Database :=
  (ensureDefaultPlans settings db ids).1

/-- The change that a delivery asks for: it is an event, new or to be tried again. -/
def requestedChange (settings : Settings) (db : Database) (delivery : Delivery) :
    Option SubscriptionChange :=
  let tables := (planned settings db delivery.ids.toAccessIds).val
  match delivery.verification with
  | .event event =>
      if Settled tables event then none else askedChange settings tables delivery event
  | _ => none

omit [UnicodeData] in
theorem OnlyEvents.freePlan {before after : Tables} (begun : OnlyEvents before after)
    (freePlan : (getPlanByCode before settings.freePlanCode).isSome) :
    (getPlanByCode after settings.freePlanCode).isSome := by
  rcases begun with ⟨billingEvents, tables⟩
  rw [tables]
  exact freePlan

theorem OnlyEvents.askedChange_eq {before after : Tables} (begun : OnlyEvents before after) :
    askedChange settings after delivery event = askedChange settings before delivery event := by
  rcases begun with ⟨billingEvents, tables⟩
  rw [tables]
  rfl

/-- The webhook ends as the transaction of an unsettled event does, which began with its row
pending. -/
structure Records (settings : Settings) (db : Database) (delivery : Delivery)
    (event : List (String × Value)) (pending : Database) (billingEvent : BillingEvent) : Prop where
  verified : delivery.verification = .event event
  unsettled : ¬ Settled (planned settings db delivery.ids.toAccessIds).val event
  begun : OnlyEvents (planned settings db delivery.ids.toAccessIds).val pending.val
  freePlan : (getPlanByCode pending.val settings.freePlanCode).isSome
  recorded : processStripeWebhook settings db delivery =
    recordStripeEvent settings (planned settings db delivery.ids.toAccessIds) pending delivery
      event billingEvent

/-- A webhook leaves the database with its default plans and processes nothing, or records an
event. -/
theorem processStripeWebhook_records (settings : Settings) (db : Database) (delivery : Delivery) :
    ((processStripeWebhook settings db delivery).1 = planned settings db delivery.ids.toAccessIds ∧
        (processStripeWebhook settings db delivery).2 ≠ .ok ⟨true, false⟩) ∨
      ∃ event pending billingEvent, Records settings db delivery event pending billingEvent := by
  rcases planning : ensureDefaultPlans settings db delivery.ids.toAccessIds with ⟨plans, result⟩
  have planned_eq : planned settings db delivery.ids.toAccessIds = plans := by
    rw [planned, planning]
  cases result with
  | error error =>
      left
      simp [processStripeWebhook, planned, planning]
  | ok done =>
      have freePlan := ensureDefaultPlans_freePlan planning
      cases verified : delivery.verification with
      | signatureError message =>
          left
          simp [processStripeWebhook, planned, planning, verified]
      | gatewayError message =>
          left
          simp [processStripeWebhook, planned, planning, verified]
      | event event =>
          by_cases malformed : eventText event "id" = "" ∨ eventText event "type" = ""
          · left
            simp [processStripeWebhook, planned, planning, verified, malformed]
          · cases lookup : getBillingEvent plans.val (eventText event "id") with
            | some existing =>
                by_cases settled : existing.status = .processed ∨ existing.status = .ignored
                · left
                  simp [processStripeWebhook, planned, planning, verified, malformed, lookup,
                    settled]
                · refine Or.inr ⟨event, plans, existing, verified, ?_, ?_, freePlan, ?_⟩
                  · rw [planned_eq]
                    rintro ⟨other, found, otherSettled⟩
                    cases lookup.symm.trans found
                    exact settled otherSettled
                  · rw [planned_eq]
                    exact OnlyEvents.refl _
                  · simp only [processStripeWebhook, planned, planning, verified, malformed,
                      lookup, settled, if_false]
            | none =>
                rcases creating : createBillingEvent plans ⟨delivery.ids.billingEvent,
                  eventText event "id", eventText event "type", .received, none, none⟩ with
                  error | pending
                · left
                  simp [processStripeWebhook, planned, planning, verified, malformed, lookup,
                    creating]
                · have begun : OnlyEvents plans.val pending.val := ⟨_, ensure_eq_ok_iff.mp creating⟩
                  refine Or.inr ⟨event, pending, ⟨delivery.ids.billingEvent, eventText event "id",
                    eventText event "type", .received, none, none⟩, verified, ?_, ?_,
                    begun.freePlan freePlan, ?_⟩
                  · rw [planned_eq]
                    rintro ⟨existing, found, -⟩
                    cases lookup.symm.trans found
                  · rw [planned_eq]
                    exact begun
                  · simp only [processStripeWebhook, planned, planning, verified, malformed,
                      lookup, creating, if_false]

/-- Once the default plans are in place, a webhook changes nothing but billing events, or stores
the change that its event asks for. -/
theorem processStripeWebhook_cases (settings : Settings) (db : Database) (delivery : Delivery) :
    HandledBy settings delivery (requestedChange settings db delivery)
      (planned settings db delivery.ids.toAccessIds).val
      (processStripeWebhook settings db delivery).1.val := by
  rcases processStripeWebhook_records settings db delivery with
    ⟨kept, -⟩ | ⟨event, pending, billingEvent, records⟩
  · rw [kept]
    exact Or.inl (OnlyEvents.refl _)
  · have requested : requestedChange settings db delivery =
        askedChange settings pending.val delivery event := by
      rw [requestedChange, records.verified, records.begun.askedChange_eq]
      exact if_neg records.unsettled
    rw [requested, records.recorded]
    exact recordStripeEvent_handledBy records.freePlan records.begun

theorem processStripeWebhook_stores {delivery : Delivery} {event : List (String × Value)}
    {subscription : Value × Option String} (verified : delivery.verification = .event event)
    (found : subscriptionOfEvent delivery.retrieveSubscription event = .ok (some subscription))
    (processed : (processStripeWebhook settings db delivery).2 = .ok ⟨true, false⟩) :
    ∃ change ∈ askedChange settings (planned settings db delivery.ids.toAccessIds).val delivery
        event,
      StoresChange settings delivery.ids.entitlement delivery.times.appliedAt change
        (planned settings db delivery.ids.toAccessIds).val
        (processStripeWebhook settings db delivery).1.val := by
  rcases processStripeWebhook_records settings db delivery with
    ⟨-, unprocessed⟩ | ⟨other, pending, billingEvent, records⟩
  · exact absurd processed unprocessed
  · cases verified.symm.trans records.verified
    rw [records.recorded] at processed ⊢
    rw [← records.begun.askedChange_eq]
    exact recordStripeEvent_stores records.freePlan records.begun found processed

end Handling

end ImigrAI.Billing
