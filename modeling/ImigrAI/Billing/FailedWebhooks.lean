import ImigrAI.Billing.WebhookEffects
import ImigrAI.Foundations.Sessions

/-!
# What a failed webhook leaves

`process_stripe_webhook` through one session, with every flush a place at which the database may
refuse a write. The failure of an event is recorded when the event itself is at fault, and is not
when a flush has failed: marking the event then raises in its turn.
-/

namespace ImigrAI.Billing.InSession

open Python Actions Action Sessions Fallible Rows

/-- Why a write fails. -/
inductive WriteError where
  | database (error : DatabaseError)
  | other (text : String)
deriving DecidableEq

inductive WebhookError where
  | http (statusCode : ℕ) (detail : String)
  | handler (error : HandlerError)
  | write (error : WriteError)
  /-- Status 500 with the text of the error of the handler. -/
  | failedToProcess (error : HandlerError)
deriving DecidableEq

/-- The writes of a handler that the database refuses, whatever the tables are. -/
structure Faults where
  subscription : Option String
  deactivation : Option String
  entitlement : ℕ → Option String

/-- What a write does to the tables. -/
def written (fault : Option String) (change : Database → Except DatabaseError Database)
    (db : Database) : Except WebhookError Database :=
  match fault with
  | some text => .error (.write (.other text))
  | none => (change db).mapError fun error => .write (.database error)

def write (fault : Option String) (change : Database → Except DatabaseError Database) :
    Program Database WebhookError Unit :=
  Sessions.flush (written fault change)

def upsertSubscription (faults : Faults) (providerSubscriptionId : String) (values : Subscription) :
    Program Database WebhookError Subscription := do
  let (row, rows) ← query fun db =>
    .ok (upserted db.val.subscriptions providerSubscriptionId values)
  write faults.subscription fun db => Billing.flush { db.val with subscriptions := rows }
  return row

def applyPlanEntitlements (settings : Settings) (faults : Faults) (ids : ℕ → UUID) (userId : UUID)
    (plan : Plan) (subscriptionId : Option UUID) (now : Instant) :
    Program Database WebhookError Unit := do
  write faults.deactivation fun db => deactivateActiveEntitlements db userId now
  forM (planEntitlements settings ids userId plan subscriptionId now).zipIdx fun entry =>
    write (faults.entitlement entry.2) fun db => createEntitlement db entry.1

def applyEntitlementsForStatus (settings : Settings) (faults : Faults) (ids : ℕ → UUID)
    (status : SubscriptionStatus) (userId subscriptionId : UUID) (plan : Plan) (now : Instant) :
    Program Database WebhookError Unit :=
  if status.isLive then
    applyPlanEntitlements settings faults ids userId plan (some subscriptionId) now
  else do
    match ← query fun db => .ok (getPlanByCode db.val settings.freePlanCode) with
    | none => outside (.error (.handler (.valueError "Free plan not configured")))
    | some freePlan =>
        applyPlanEntitlements settings faults ids userId freePlan (some subscriptionId) now

section Handlers

variable [UnicodeData]

def syncSubscriptionObject (settings : Settings) (faults : Faults) (ids : EventIds)
    (times : EventTimes) (subscriptionObject : Value) (userIdHint : Option String) :
    Program Database WebhookError Unit := do
  let (providerSubscriptionId, plan, values) ← query fun db =>
    (readSubscription settings db.val ids times subscriptionObject userIdHint).mapError .handler
  let subscription ← upsertSubscription faults providerSubscriptionId values
  applyEntitlementsForStatus settings faults ids.entitlement values.status values.userId
    subscription.id plan times.appliedAt

def handleStripeEvent (settings : Settings) (faults : Faults) (delivery : Delivery)
    (event : List (String × Value)) : Program Database WebhookError Bool := do
  match ← outside ((subscriptionOfEvent delivery.retrieveSubscription event).mapError .handler) with
  | none => return false
  | some (subscriptionObject, userIdHint) => do
      syncSubscriptionObject settings faults delivery.ids delivery.times subscriptionObject
        userIdHint
      return true

def markBillingEvent (billingEvent : BillingEvent) (status : BillingEventStatus)
    (processedAt : Instant) (lastError : Option HandlerError) : Program Database WebhookError Unit :=
  write none fun db => Billing.markBillingEvent db billingEvent status processedAt lastError

/-- What a failed event keeps of an error. A failed flush leaves nothing to be kept, as it breaks
the session that the mark is written through. -/
def handlerError : SessionError WebhookError → Option HandlerError
  | .raised (.handler error) => some error
  | _ => none

def recordStripeEvent (settings : Settings) (faults : Faults) (delivery : Delivery)
    (event : List (String × Value)) (billingEvent : BillingEvent) :
    Program Database WebhookError StripeWebhookAck :=
  catching (do
    let isHandled ← handleStripeEvent settings faults delivery event
    markBillingEvent billingEvent (if isHandled then .processed else .ignored)
      delivery.times.processedAt none
    commit none
    return ⟨true, false⟩) fun error => do
      markBillingEvent billingEvent .failed delivery.times.processedAt (handlerError error)
      commit none
      match handlerError error with
      | some error => raising (.raised (.failedToProcess error))
      | none => raising error

/-- `_ensure_default_plans`; each plan is committed by itself. -/
def ensureDefaultPlans (settings : Settings) (ids : AccessIds) :
    Program Database WebhookError Unit := do
  write none fun db => getOrCreatePlan db (settings.freePlan ids.freePlan)
  commit none
  write none fun db => getOrCreatePlan db (settings.proPlan ids.proPlan)
  commit none

/-- The row of an event that has arrived. -/
def receivedEvent (delivery : Delivery) (event : List (String × Value)) : BillingEvent :=
  ⟨delivery.ids.billingEvent, eventText event "id", eventText event "type", .received, none, none⟩

def processStripeWebhook (settings : Settings) (faults : Faults) (delivery : Delivery) :
    Program Database WebhookError StripeWebhookAck := do
  ensureDefaultPlans settings delivery.ids.toAccessIds
  match delivery.verification with
  | .signatureError message => outside (.error (.http 401 message))
  | .gatewayError message => outside (.error (.http 503 message))
  | .event event =>
      if eventText event "id" = "" ∨ eventText event "type" = "" then
        outside (.error (.http 400 "Invalid Stripe event payload"))
      else do
        match ← query fun db => .ok (getBillingEvent db.val (eventText event "id")) with
        | some existing =>
            if existing.status = .processed ∨ existing.status = .ignored then return ⟨true, true⟩
            else recordStripeEvent settings faults delivery event existing
        | none => do
            write none fun db => createBillingEvent db (receivedEvent delivery event)
            recordStripeEvent settings faults delivery event (receivedEvent delivery event)

/-- What is read of an event before anything is written: the change that it asks for. -/
def readChange (settings : Settings) (tables : Tables) (delivery : Delivery)
    (event : List (String × Value)) : Except HandlerError (Option SubscriptionChange) := do
  match ← subscriptionOfEvent delivery.retrieveSubscription event with
  | none => return none
  | some (subscriptionObject, userIdHint) =>
      let (providerSubscriptionId, plan, values) ←
        readSubscription settings tables delivery.ids delivery.times subscriptionObject userIdHint
      return some ⟨providerSubscriptionId, plan, values⟩

end Handlers

section Writes

variable {settings : Settings} {faults : Faults} {committed db : Database} {expired : Bool}

theorem ensures_write (fault : Option String)
    (change : Database → Except DatabaseError Database) :
    Ensures (Sees committed db expired) (write fault change)
      (fun _ after => ∃ stored, change db = .ok stored ∧ Sees committed stored expired after)
      (fun _ after => (fault = none → ∃ error, change db = .error error) ∧ Broken committed after) := by
  refine (ensures_flush _).weaken (fun _ => id) ?_ ?_
  · rintro _ after ⟨stored, done, sees, -⟩
    cases fault with
    | none => exact ⟨stored, mapError_eq_ok_iff.mp done, sees⟩
    | some text => cases done
  · rintro _ after ⟨raised, -, failed, broken⟩
    refine ⟨?_, broken⟩
    rintro rfl
    cases outcome : change db with
    | error error => exact ⟨error, rfl⟩
    | ok stored => simp [written, outcome, Except.mapError] at failed

/-- A write that meets the constraints goes through. -/
theorem ensures_write_of_ok {change : Database → Except DatabaseError Database} {stored : Database}
    (done : change db = .ok stored) :
    Ensures (Sees committed db expired) (write none change) (fun _ => Sees committed stored expired)
      (fun _ _ => False) := by
  refine (ensures_write none change).weaken (fun _ => id) ?_ ?_
  · rintro _ after ⟨_, storing, sees⟩
    cases done.symm.trans storing
    exact sees
  · rintro _ after ⟨refuses, -⟩
    rcases refuses rfl with ⟨_, refused⟩
    cases done.symm.trans refused

theorem ensures_upsertSubscription (providerSubscriptionId : String) (values : Subscription) :
    Ensures (Sees committed db expired) (upsertSubscription faults providerSubscriptionId values)
      (fun _ after => ∃ stored : Database, stored.val.plans = db.val.plans ∧
        Sees committed stored expired after)
      (fun _ after => Broken committed after) := by
  refine ((ensures_query _).weaken (fun _ => id) (fun _ _ => id) ?_).bind fun found => ?_
  · rintro _ after ⟨_, -, impossible, -⟩
    cases impossible
  · refine ensures_of_and fun _ => ?_
    refine ((ensures_write faults.subscription _).weaken (fun _ => And.left) (fun _ _ => id)
      fun _ _ => And.right).bind fun _ => ?_
    rintro after ⟨stored, done, sees⟩
    refine ⟨stored, ?_, sees⟩
    rw [ensure_eq_ok_iff.mp done]

theorem ensures_applyPlanEntitlements (ids : ℕ → UUID) (userId : UUID) (plan : Plan)
    (subscriptionId : Option UUID) (now : Instant) :
    Ensures (Sees committed db expired)
      (applyPlanEntitlements settings faults ids userId plan subscriptionId now)
      (fun _ after => ∃ stored, Sees committed stored expired after)
      (fun _ after => Broken committed after) := by
  have any (fault : Option String) (change : Database → Except DatabaseError Database) :
      Ensures (fun session => ∃ current, Sees committed current expired session)
        (write fault change) (fun _ after => ∃ stored, Sees committed stored expired after)
        (fun _ after => Broken committed after) := by
    refine ensures_of_exists fun current => (ensures_write fault change).weaken (fun _ => id) ?_
      fun _ _ => And.right
    rintro _ after ⟨stored, -, sees⟩
    exact ⟨stored, sees⟩
  refine ((any _ _).weaken (fun _ sees => ⟨db, sees⟩) (fun _ _ => id) fun _ _ => id).bind fun _ => ?_
  exact ensures_forM (fun _ entry => any (faults.entitlement (Prod.snd entry)) _) _ []

/-- With a free plan the entitlements are written, or a flush fails. -/
theorem ensures_applyEntitlementsForStatus (ids : ℕ → UUID) (status : SubscriptionStatus)
    (userId subscriptionId : UUID) (plan : Plan) (now : Instant)
    (freePlan : (getPlanByCode db.val settings.freePlanCode).isSome) :
    Ensures (Sees committed db expired)
      (applyEntitlementsForStatus settings faults ids status userId subscriptionId plan now)
      (fun _ after => ∃ stored, Sees committed stored expired after)
      (fun _ after => Broken committed after) := by
  refine ensures_ite (fun _ => ensures_applyPlanEntitlements ids userId plan _ now) fun _ => ?_
  refine ((ensures_query _).weaken (fun _ => id) (fun _ _ => id) ?_).bind fun found => ?_
  · rintro _ after ⟨_, -, impossible, -⟩
    cases impossible
  · refine ensures_of_and fun looked => ?_
    cases looked
    cases lookup : getPlanByCode db.val settings.freePlanCode with
    | none => simp [lookup] at freePlan
    | some found =>
        exact (ensures_applyPlanEntitlements ids userId found _ now).weaken (fun _ => And.left)
          (fun _ _ => id) fun _ _ => id

end Writes

section Handling

variable [UnicodeData] {settings : Settings} {faults : Faults} {committed pending : Database}
  {expired : Bool} {delivery : Delivery} {event : List (String × Value)}

/-- A subscription that can be read is written, or a flush fails; one that cannot be read leaves
the session as it was. -/
theorem ensures_syncSubscriptionObject (ids : EventIds) (times : EventTimes)
    (subscriptionObject : Value) (userIdHint : Option String)
    (freePlan : (getPlanByCode pending.val settings.freePlanCode).isSome) :
    Ensures (Sees committed pending expired)
      (syncSubscriptionObject settings faults ids times subscriptionObject userIdHint)
      (fun _ after =>
        (∃ read, readSubscription settings pending.val ids times subscriptionObject userIdHint =
          .ok read) ∧ ∃ stored, Sees committed stored expired after)
      (fun raised after =>
        (∃ error, raised = .raised (.handler error) ∧
          readSubscription settings pending.val ids times subscriptionObject userIdHint =
            .error error ∧ Sees committed pending expired after) ∨
        (∃ read, readSubscription settings pending.val ids times subscriptionObject userIdHint =
          .ok read) ∧ Broken committed after) := by
  refine ((ensures_query _).weaken (fun _ => id) (fun _ _ => id) ?_).bind fun read => ?_
  · rintro _ after ⟨_, rfl, failed, sees, -⟩
    rcases mapError_eq_error_iff.mp failed with ⟨error, unread, rfl⟩
    exact Or.inl ⟨error, rfl, unread, sees⟩
  · refine ensures_of_and fun reads => ?_
    have known : ∃ read,
        readSubscription settings pending.val ids times subscriptionObject userIdHint = .ok read :=
      ⟨read, mapError_eq_ok_iff.mp reads⟩
    refine ((ensures_upsertSubscription read.1 read.2.2).weaken
      (fun _ => And.left) (fun _ _ => id) fun _ _ broken => Or.inr ⟨known, broken⟩).bind
      fun subscription => ?_
    refine ensures_of_exists fun stored => ensures_of_and fun plans => ?_
    refine (ensures_applyEntitlementsForStatus _ _ _ _ _ _ ?_).weaken (fun _ => id)
      (fun _ _ applied => ⟨known, applied⟩) fun _ _ broken => Or.inr ⟨known, broken⟩
    rw [getPlanByCode, plans]
    exact freePlan

/-- An event that can be read is handled, or a flush fails; one that cannot be read leaves the
session as it was. -/
theorem ensures_handleStripeEvent
    (freePlan : (getPlanByCode pending.val settings.freePlanCode).isSome) :
    Ensures (Sees committed pending expired) (handleStripeEvent settings faults delivery event)
      (fun _ after => (∃ change, readChange settings pending.val delivery event = .ok change) ∧
        ∃ stored, Sees committed stored expired after)
      (fun raised after =>
        (∃ error, raised = .raised (.handler error) ∧
          readChange settings pending.val delivery event = .error error ∧
          Sees committed pending expired after) ∨
        (∃ change, readChange settings pending.val delivery event = .ok change) ∧
          Broken committed after) := by
  cases found : subscriptionOfEvent delivery.retrieveSubscription event with
  | error error =>
      intro session sees
      simp only [handleStripeEvent, found]
      exact Or.inl ⟨error, rfl, by rw [readChange, found]; rfl, sees⟩
  | ok subscription =>
      rcases subscription with _ | ⟨subscriptionObject, userIdHint⟩
      · intro session sees
        simp only [handleStripeEvent, found]
        exact ⟨⟨none, by rw [readChange, found]; rfl⟩, pending, sees⟩
      · have reads : readChange settings pending.val delivery event =
            (readSubscription settings pending.val delivery.ids delivery.times subscriptionObject
              userIdHint).map fun read => some ⟨read.1, read.2.1, read.2.2⟩ := by
          rw [readChange, found]
          rfl
        have syncs : Ensures (Sees committed pending expired)
            (syncSubscriptionObject settings faults delivery.ids delivery.times subscriptionObject
              userIdHint) _ _ :=
          ensures_syncSubscriptionObject delivery.ids delivery.times subscriptionObject userIdHint
            freePlan
        simp only [handleStripeEvent, found, reads]
        refine (syncs.weaken (fun _ => id) ?_ ?_).bind fun _ => ensures_pure true
        · rintro _ after ⟨⟨read, reading⟩, applied⟩
          exact ⟨⟨_, congrArg _ reading⟩, applied⟩
        · rintro raised after (⟨error, rfl, unread, sees⟩ | ⟨⟨read, reading⟩, broken⟩)
          · exact Or.inl ⟨error, rfl, congrArg _ unread, sees⟩
          · exact Or.inr ⟨⟨_, congrArg _ reading⟩, broken⟩

omit [UnicodeData] in
/-- Marking an event keeps the constraints. -/
theorem markBillingEvent_stored {billingEvent : BillingEvent} (db : Database)
    (status : BillingEventStatus) (processedAt : Instant) (lastError : Option HandlerError)
    (mem : billingEvent ∈ db.val.billingEvents) :
    ∃ marked, Billing.markBillingEvent db billingEvent status processedAt lastError = .ok marked ∧
      marked.val = { db.val with
        billingEvents := replaceRow (·.id)
          { billingEvent with
            status := status
            processedAt := some processedAt
            lastError := lastError }
          db.val.billingEvents } := by
  rcases db.property with ⟨subscriptions, access⟩
  generalize row : ({ billingEvent with
    status := status
    processedAt := some processedAt
    lastError := lastError } : BillingEvent) = marked
  have same : ∀ old ∈ db.val.billingEvents, old.id = marked.id → old = billingEvent := by
    intro old oldMem sameId
    rw [← row] at sameId
    exact List.inj_on_of_nodup_map access.eventIds oldMem mem sameId
  have ids : (replaceRow (·.id) marked db.val.billingEvents).map (·.id) =
      db.val.billingEvents.map (·.id) :=
    map_replaceRow fun old oldMem sameId => sameId
  have providerIds : (replaceRow (·.id) marked db.val.billingEvents).map (·.providerEventId) =
      db.val.billingEvents.map (·.providerEventId) := by
    refine map_replaceRow fun old oldMem sameId => ?_
    rw [same old oldMem sameId, ← row]
  have consistent : Consistent { db.val with
      billingEvents := replaceRow (·.id) marked db.val.billingEvents } := by
    refine ⟨⟨subscriptions.planIds, subscriptions.planCodes, subscriptions.planPrices,
      subscriptions.subscriptionIds, subscriptions.providerIds, subscriptions.subscriptionUsers,
      subscriptions.subscriptionPlans⟩, ⟨access.entitlementIds, access.entitlementWindows,
      access.entitlementUsers, access.entitlementPlans, access.entitlementSubscriptions,
      access.counterIds, access.counterWindows, access.counterUsers, ?_, ?_⟩⟩
    · rw [ids]
      exact access.eventIds
    · rw [providerIds]
      exact access.providerEventIds
  refine ⟨⟨_, consistent⟩, ?_, rfl⟩
  rw [Billing.markBillingEvent, row]
  exact ensure_eq_ok_iff.mpr rfl

omit [UnicodeData] in
/-- A marked event is found with its mark. -/
theorem getBillingEvent_of_marked {billingEvent : BillingEvent} {db marked : Database}
    {status : BillingEventStatus} {processedAt : Instant} {lastError : Option HandlerError}
    (mem : billingEvent ∈ db.val.billingEvents)
    (marking : Billing.markBillingEvent db billingEvent status processedAt lastError = .ok marked) :
    getBillingEvent marked.val billingEvent.providerEventId = some { billingEvent with
      status := status
      processedAt := some processedAt
      lastError := lastError } := by
  have tables := ensure_eq_ok_iff.mp marking
  refine (find?_eq_some_iff_of_nodup marked.property.2.providerEventIds).mpr ⟨?_, rfl⟩
  rw [tables]
  exact self_mem_replaceRow _ _ mem rfl

omit [UnicodeData] in
/-- The mark of an event that could not be read is committed. -/
theorem ensures_recordFailure {billingEvent : BillingEvent} (processedAt : Instant)
    (error : HandlerError) (mem : billingEvent ∈ pending.val.billingEvents) :
    Ensures (Sees committed pending expired)
      (do
        markBillingEvent billingEvent .failed processedAt (some error)
        commit none
        raising (.raised (.failedToProcess error)) : Program Database WebhookError StripeWebhookAck)
      (fun _ _ => False)
      (fun raised after => raised = .raised (.failedToProcess error) ∧ ∃ marked,
        Billing.markBillingEvent pending billingEvent .failed processedAt (some error) =
          .ok marked ∧ after.committed = marked) := by
  rcases markBillingEvent_stored pending .failed processedAt (some error) mem with
    ⟨marked, marking, -⟩
  refine (ensures_write_of_ok marking).bind_total fun _ => ?_
  refine ensures_commit_none.bind_total fun _ => ?_
  exact fun session idle => ⟨rfl, marked, marking, idle.committed⟩

omit [UnicodeData] in
/-- A mark that follows a failed flush fails, and so does whatever comes after it. -/
theorem ensures_markBillingEvent_of_broken {billingEvent : BillingEvent} {Result : Type}
    (status : BillingEventStatus) (processedAt : Instant) (lastError : Option HandlerError)
    (next : Unit → Program Database WebhookError Result) :
    Ensures (Broken committed) (markBillingEvent billingEvent status processedAt lastError >>= next)
      (fun _ _ => False)
      (fun raised after => raised = .pendingRollback ∧ after.committed = committed) := by
  refine ((ensures_flush_of_broken _).weaken (fun _ => id) (fun _ _ => id) ?_).bind
    fun _ _ impossible => impossible.elim
  rintro raised after ⟨pending, broken⟩
  exact ⟨pending, broken.committed⟩

/-- The handler of a failed event commits its mark if the event could not be read, and nothing
if a flush has failed. -/
theorem ensures_recordStripeEvent {billingEvent : BillingEvent}
    (freePlan : (getPlanByCode pending.val settings.freePlanCode).isSome)
    (mem : billingEvent ∈ pending.val.billingEvents) :
    Ensures (Sees committed pending expired)
      (recordStripeEvent settings faults delivery event billingEvent)
      (fun _ _ => True)
      (fun raised after =>
        (∃ error, readChange settings pending.val delivery event = .error error ∧
          raised = .raised (.failedToProcess error) ∧ ∃ marked,
          Billing.markBillingEvent pending billingEvent .failed delivery.times.processedAt
            (some error) = .ok marked ∧ after.committed = marked) ∨
        (∃ change, readChange settings pending.val delivery event = .ok change) ∧
          raised = .pendingRollback ∧ after.committed = committed) := by
  refine Ensures.catching (fun (raised : SessionError WebhookError) after =>
      (∃ error, raised = .raised (.handler error) ∧
        readChange settings pending.val delivery event = .error error ∧
        Sees committed pending expired after) ∨
      (∃ change, readChange settings pending.val delivery event = .ok change) ∧
        Broken committed after) ?_ ?_
  · refine (ensures_handleStripeEvent freePlan).bind fun isHandled => ?_
    refine ensures_of_and fun readable => ensures_of_exists fun handled => ?_
    refine ((ensures_write none _).weaken (fun _ => id) (fun _ _ => id)
      fun _ _ broken => Or.inr ⟨readable, broken.2⟩).bind fun _ => ?_
    refine ensures_of_exists fun marked => ensures_of_and fun _ => ?_
    exact ensures_commit_none.bind_total fun _ _ _ => trivial
  · rintro raised session (⟨error, rfl, unread, sees⟩ | ⟨readable, broken⟩)
    · refine (ensures_recordFailure delivery.times.processedAt error mem).weaken (fun _ => id)
        (fun _ _ impossible => impossible.elim) ?_ session sees
      exact fun _ _ recorded => Or.inl ⟨error, unread, recorded⟩
    · refine (ensures_markBillingEvent_of_broken _ _ _ _).weaken (fun _ => id)
        (fun _ _ impossible => impossible.elim) ?_ session broken
      exact fun _ _ refused => Or.inr ⟨readable, refused⟩

/-- The plans are in place, and the event is verified, complete and new. -/
structure FirstDelivery (settings : Settings) (db : Database) (delivery : Delivery)
    (event : List (String × Value)) (pending : Database) : Prop where
  verified : delivery.verification = .event event
  complete : ¬ (eventText event "id" = "" ∨ eventText event "type" = "")
  plans : (Billing.ensureDefaultPlans settings db delivery.ids.toAccessIds).2 = .ok ()
  unseen : getBillingEvent (planned settings db delivery.ids.toAccessIds).val
    (eventText event "id") = none
  received : createBillingEvent (planned settings db delivery.ids.toAccessIds)
    (receivedEvent delivery event) = .ok pending

/-- Subscriptions and entitlements stay, and the event is stored as failed with the error that
was raised, so that it is not settled. -/
structure FailureRecorded (event : List (String × Value)) (before after : Tables)
    (raised : SessionError WebhookError) : Prop where
  subscriptions : after.subscriptions = before.subscriptions
  entitlements : after.entitlements = before.entitlements
  stored : ∃ error, raised = .raised (.failedToProcess error) ∧
    ∃ billingEvent ∈ getBillingEvent after (eventText event "id"),
      billingEvent.status = .failed ∧ billingEvent.lastError = some error
  unsettled : ¬ Settled after event

omit [UnicodeData] in
theorem ensures_ensureDefaultPlans {db : Database} {ids : AccessIds}
    (done : (Billing.ensureDefaultPlans settings db ids).2 = .ok ()) :
    Ensures (Idle db expired) (ensureDefaultPlans settings ids)
      (fun _ => Idle (planned settings db ids) expired) (fun _ _ => False) := by
  rcases ensureDefaultPlans_eq_ok (Prod.ext rfl done) with ⟨withFree, storedFree, storedPro⟩
  refine ((ensures_write_of_ok storedFree).weaken (fun _ => Idle.sees) (fun _ _ => id)
    fun _ _ => id).bind_total fun _ => ?_
  refine ensures_commit_none.bind_total fun _ => ?_
  refine ((ensures_write_of_ok storedPro).weaken (fun _ => Idle.sees) (fun _ _ => id)
    fun _ _ => id).bind_total fun _ => ?_
  exact ensures_commit_none

/-- A first delivery that raises has stored the mark of its event over the plans, if the event
could not be read, and nothing but the plans if a flush has failed. -/
theorem ensures_processStripeWebhook {db : Database}
    (first : FirstDelivery settings db delivery event pending) :
    Ensures (Idle db expired) (processStripeWebhook settings faults delivery)
      (fun _ _ => True)
      (fun raised after =>
        (∃ error, readChange settings pending.val delivery event = .error error ∧
          raised = .raised (.failedToProcess error) ∧ ∃ marked,
          Billing.markBillingEvent pending (receivedEvent delivery event) .failed
            delivery.times.processedAt (some error) = .ok marked ∧ after.committed = marked) ∨
        (∃ change, readChange settings pending.val delivery event = .ok change) ∧
          raised = .pendingRollback ∧
          after.committed = planned settings db delivery.ids.toAccessIds) := by
  rcases first with ⟨verified, complete, plans, unseen, received⟩
  have stored := ensure_eq_ok_iff.mp received
  have freePlan : (getPlanByCode pending.val settings.freePlanCode).isSome := by
    rw [stored]
    exact ensureDefaultPlans_freePlan (Prod.ext rfl plans)
  refine (ensures_ensureDefaultPlans plans).bind_total fun _ => ?_
  rw [verified]
  refine ensures_ite (fun incomplete => absurd incomplete complete) fun _ => ?_
  refine ((ensures_query _).weaken (fun _ => Idle.sees) (fun _ _ => id) ?_).bind fun found => ?_
  · rintro _ after ⟨_, -, impossible, -⟩
    cases impossible
  · refine ensures_of_and fun looked => ?_
    cases looked.symm.trans (congrArg _ unseen)
    refine ((ensures_write_of_ok received).weaken (fun _ => And.left) (fun _ _ => id)
      fun _ _ => id).bind_total fun _ => ?_
    exact ensures_recordStripeEvent freePlan (by simp [stored])

/-- The failure of a first delivery is recorded exactly if the event could not be read. -/
theorem failureRecorded_iff {db : Database} {session : Session Database}
    {raised : SessionError WebhookError} (settings : Settings) (faults : Faults)
    (first : FirstDelivery settings db delivery event pending) (idle : Idle db expired session)
    (raises : (processStripeWebhook settings faults delivery session).1 = .error raised) :
    FailureRecorded event db.val
        (processStripeWebhook settings faults delivery session).2.committed.val raised ↔
      ∃ error, readChange settings (planned settings db delivery.ids.toAccessIds).val delivery
        event = .error error := by
  have sameRead : readChange settings pending.val delivery event =
      readChange settings (planned settings db delivery.ids.toAccessIds).val delivery event := by
    rw [ensure_eq_ok_iff.mp first.received]
    rfl
  have extended := (ensureDefaultPlans_extends settings db delivery.ids.toAccessIds).keepsAccess
  have leaves := (ensures_iff.mp (ensures_processStripeWebhook first) session idle).2 raised _
    (Prod.ext raises rfl)
  rw [sameRead] at leaves
  rcases leaves with ⟨error, unread, rfl, marked, marking, committed⟩ | ⟨⟨change, read⟩, rfl, -⟩
  · refine iff_of_true ?_ ⟨error, unread⟩
    have pendingTables := ensure_eq_ok_iff.mp first.received
    have mem : receivedEvent delivery event ∈ pending.val.billingEvents := by simp [pendingTables]
    have found := getBillingEvent_of_marked mem marking
    have tables := ensure_eq_ok_iff.mp marking
    rw [committed]
    refine ⟨?_, ?_, ⟨error, rfl, _, found, rfl, rfl⟩, ?_⟩
    · rw [tables, pendingTables]
      exact extended.subscriptions
    · rw [tables, pendingTables]
      exact extended.entitlements
    · rintro ⟨existing, lookup, settled⟩
      cases found.symm.trans lookup
      simp at settled
  · refine iff_of_false ?_ ?_
    · intro recorded
      rcases recorded.stored with ⟨error, impossible, -⟩
      cases impossible
    · rintro ⟨error, unread⟩
      cases read.symm.trans unread

end Handling

section Samples

local instance failedUnicodeData : UnicodeData := UnicodeData.ascii

def noFaults : Faults := ⟨none, none, fun _ => none⟩

/-- The database after the user of the sample updates is gone. -/
def otherUserDatabase : Database := ⟨⟨[2], [], [], [], [], []⟩, by decide⟩

def sampleSession : Session Database := ⟨otherUserDatabase, .closed, false⟩

def sampleCall (delivery : Delivery) :
    Except (SessionError WebhookError) StripeWebhookAck × Session Database :=
  processStripeWebhook sampleSettings noFaults delivery sampleSession

/-- The failure of an update without a subscription id is recorded. -/
theorem failureRecorded_missingId :
    ∃ event error,
      (sampleUpdate 1 "" "active").verification = .event event ∧
      (sampleCall (sampleUpdate 1 "" "active")).1 = .error (.raised (.failedToProcess error)) ∧
      FailureRecorded event otherUserDatabase.val
        (sampleCall (sampleUpdate 1 "" "active")).2.committed.val
        (.raised (.failedToProcess error)) := by
  have first : FirstDelivery sampleSettings otherUserDatabase (sampleUpdate 1 "" "active") _ _ :=
    ⟨rfl, by decide +kernel, rfl, rfl, rfl⟩
  have idle : Idle otherUserDatabase false sampleSession := ⟨rfl, rfl, rfl⟩
  exact ⟨_, .valueError "Stripe subscription payload missing id", rfl, rfl,
    (failureRecorded_iff sampleSettings noFaults first idle rfl).mpr ⟨_, rfl⟩⟩

/-- The failure of an update for a user that does not exist is not. -/
theorem missingUser_not_recorded :
    ∃ event pending,
      FirstDelivery sampleSettings otherUserDatabase (sampleUpdate 1 "sub_a" "active") event
        pending ∧
      (sampleCall (sampleUpdate 1 "sub_a" "active")).1 = .error .pendingRollback ∧
      getBillingEvent (sampleCall (sampleUpdate 1 "sub_a" "active")).2.committed.val
        (eventText event "id") = none ∧
      ¬ FailureRecorded event otherUserDatabase.val
        (sampleCall (sampleUpdate 1 "sub_a" "active")).2.committed.val .pendingRollback := by
  refine ⟨_, _, ⟨rfl, ?_, rfl, rfl, rfl⟩, rfl, rfl, ?_⟩
  · decide +kernel
  · rintro ⟨-, -, ⟨_, impossible, -⟩, -⟩
    cases impossible

end Samples

end ImigrAI.Billing.InSession
