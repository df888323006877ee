import ImigrAI.Billing.OnePlan
import ImigrAI.Python.UuidText

/-!
# Checkout

`BillingService.create_checkout_session`, and the plan that comes of it. The user and the price go
to Stripe as texts and come back in events; whatever else happens in between, the user who has
checked out gets the plan.
-/

namespace ImigrAI.Billing

open Python Fallible Rows Runs

structure CheckoutSessionCreate where
  planCode : String
  successUrl : String
  cancelUrl : String

structure CheckoutSessionRead where
  checkoutSessionId : String
  checkoutUrl : String
deriving DecidableEq

/-- The session that Stripe is asked for, of one item with the price. -/
structure CheckoutRequest where
  customerEmail : String
  successUrl : String
  cancelUrl : String
  priceId : String
  clientReferenceId : String
  metadata : List (String × String)

inductive CheckoutError where
  | http (statusCode : ℕ) (detail : String)
  | stripeGatewayError (message : String)
  | database (error : DatabaseError)
deriving DecidableEq

/-- The plan of a checkout, with its price. -/
def checkoutPlan (tables : Tables) (planCode : String) : Except CheckoutError (Plan × String) :=
  match getPlanByCode tables planCode with
  | none => .error (.http 404 "Plan not found")
  | some plan =>
      if plan.isFree then .error (.http 422 "Checkout not applicable for free plan")
      else
        match plan.stripePriceId with
        | none => .error (.http 409 "Plan is missing Stripe price id")
        | some priceId =>
            if priceId = "" then .error (.http 409 "Plan is missing Stripe price id")
            else .ok (plan, priceId)

def checkoutRequest (plan : Plan) (priceId : String) (userId : UUID) (userEmail : String)
    (payload : CheckoutSessionCreate) : CheckoutRequest where
  customerEmail := userEmail
  successUrl := payload.successUrl
  cancelUrl := payload.cancelUrl
  priceId := priceId
  clientReferenceId := userId.str
  metadata := [("user_id", userId.str), ("plan_code", plan.code)]

/-- `create_checkout_session`: the database it has committed, and what it returns or raises. The
gateway raises a text when it is not configured or when Stripe fails. -/
def createCheckoutSession (settings : Settings) (db : Database) (ids : AccessIds)
    (gateway : CheckoutRequest → Except String CheckoutSessionRead) (userId : UUID)
    (userEmail : String) (payload : CheckoutSessionCreate) :
    Database × Except CheckoutError CheckoutSessionRead :=
  match ensureDefaultPlans settings db ids with
  | (planned, .error error) => (planned, .error (.database error))
  | (planned, .ok ()) => (planned, do
      let (plan, priceId) ← checkoutPlan planned.val payload.planCode
      (gateway (checkoutRequest plan priceId userId userEmail payload)).mapError
        .stripeGatewayError)

/-- The event of a completed session, which repeats the reference of the request. -/
def Completes [UnicodeData] (request : CheckoutRequest) (subscriptionId : String)
    (event : List (String × Value)) : Prop :=
  eventText event "type" = "checkout.session.completed" ∧
    ∃ data object, Value.lookup "data" event = some (.dict data) ∧
      Value.lookup "object" data = some (.dict object) ∧
      Value.lookup "client_reference_id" object = some (.str request.clientReferenceId) ∧
      Value.lookup "subscription" object = some (.str subscriptionId)

def MetadataDict (subscription : List (String × Value)) : Prop :=
  ∀ value ∈ Value.lookup "metadata" subscription, ∃ entries, value = .dict entries

/-- The subscription of a session, whose first item has the price of the request. -/
structure SubscribesTo (request : CheckoutRequest) (subscriptionId status : String)
    (subscription : List (String × Value)) : Prop where
  nonempty : subscriptionId ≠ ""
  id : Value.lookup "id" subscription = some (.str subscriptionId)
  status : Value.lookup "status" subscription = some (.str status)
  metadata : MetadataDict subscription
  items : ∃ items item rest price, Value.lookup "items" subscription = some (.dict items) ∧
    Value.lookup "data" items = some (.list (.dict item :: rest)) ∧
    Value.lookup "price" item = some (.dict price) ∧
    Value.lookup "id" price = some (.str request.priceId)

section Plans

variable {settings : Settings} {db after : Database} {plan : Plan} {ids : AccessIds}

/-- A row under the code of a default plan is as the settings have it. -/
def Configured (settings : Settings) (plan : Plan) : Prop :=
  (plan.code = settings.freePlanCode → plan = settings.freePlan plan.id) ∧
    (plan.code = settings.proPlanCode → plan = settings.proPlan plan.id)

/-- Rows of a stored default plan are as it is given, and other rows are those from before. -/
theorem mem_getOrCreatePlan {given : Plan} (done : getOrCreatePlan db given = .ok after)
    (mem : plan ∈ after.val.plans) :
    (plan.code = given.code ∧ plan = { given with id := plan.id }) ∨
      (plan.code ≠ given.code ∧ plan ∈ db.val.plans) := by
  unfold getOrCreatePlan at done
  split at done
  · rename_i existing found
    rcases getPlanByCode_eq_some found with ⟨existingMem, existingCode, -⟩
    rw [flush, ensure_eq_ok_iff] at done
    rw [done] at mem
    rcases of_mem_replaceRow mem with rfl | ⟨before, otherId⟩
    · exact .inl ⟨rfl, rfl⟩
    · refine .inr ⟨?_, before⟩
      intro sameCode
      have codes := db.property.1.planCodes
      have isExisting := List.inj_on_of_nodup_map codes before existingMem
        (sameCode.trans existingCode.symm)
      exact otherId (by rw [isExisting])
  · rw [flush, ensure_eq_ok_iff] at done
    have codes := after.property.1.planCodes
    rw [done] at mem codes
    rcases List.mem_append.mp mem with before | new
    · refine .inr ⟨?_, before⟩
      rw [List.map_append, List.nodup_append] at codes
      exact codes.2.2 _ (List.mem_map_of_mem before) _ (by simp)
    · rw [List.mem_singleton.mp new]
      exact .inl ⟨rfl, rfl⟩

/-- A row that is as given stays when the default plan is stored, as does every other row. -/
theorem getOrCreatePlan_keeps {given : Plan} (mem : plan ∈ db.val.plans)
    (same : plan.code = given.code → plan = { given with id := plan.id })
    (done : getOrCreatePlan db given = .ok after) : plan ∈ after.val.plans := by
  unfold getOrCreatePlan at done
  split at done
  · rename_i existing found
    rcases getPlanByCode_eq_some found with ⟨existingMem, existingCode, -⟩
    rw [flush, ensure_eq_ok_iff] at done
    rw [done]
    by_cases sameId : plan.id = existing.id
    · have isExisting := List.inj_on_of_nodup_map db.property.1.planIds mem existingMem sameId
      have asGiven := same (isExisting ▸ existingCode)
      rw [asGiven, isExisting]
      exact self_mem_replaceRow (·.id) { given with id := existing.id } existingMem rfl
    · exact mem_replaceRow_of_ne mem sameId
  · rw [flush, ensure_eq_ok_iff] at done
    rw [done]
    exact List.mem_append_left _ mem

theorem configured_of_ensureDefaultPlans (done : ensureDefaultPlans settings db ids = (after, .ok ()))
    (mem : plan ∈ after.val.plans) : Configured settings plan := by
  rcases ensureDefaultPlans_eq_ok done with ⟨withFree, storedFree, storedPro⟩
  rcases mem_getOrCreatePlan storedPro mem with ⟨isPro, asPro⟩ | ⟨notPro, before⟩
  · refine ⟨?_, fun _ => asPro⟩
    intro isFree
    exact absurd (isFree.symm.trans isPro) settings.plansDiffer
  · refine ⟨?_, fun isPro => absurd isPro notPro⟩
    intro isFree
    rcases mem_getOrCreatePlan storedFree before with ⟨-, asFree⟩ | ⟨notFree, -⟩
    · exact asFree
    · exact absurd isFree notFree

theorem Configured.ensureDefaultPlans (configured : Configured settings plan)
    (mem : plan ∈ db.val.plans) (ids : AccessIds) :
    plan ∈ (planned settings db ids).val.plans := by
  rw [planned, Billing.ensureDefaultPlans]
  split
  · exact mem
  · rename_i withFree storedFree
    have kept := getOrCreatePlan_keeps mem configured.1 storedFree
    split
    · exact kept
    · rename_i withPro storedPro
      exact getOrCreatePlan_keeps kept configured.2 storedPro

/-- No call of the service changes a row of a plan that is as the settings have it. -/
theorem Configured.kept [UnicodeData] (configured : Configured settings plan)
    (mem : plan ∈ db.val.plans) (call : AccessCall) :
    plan ∈ (call.after settings db).val.plans := by
  have baselines : ∀ ids times userId, plan ∈ (baseline settings db ids times userId).val.plans := by
    intro ids times userId
    have kept := configured.ensureDefaultPlans mem ids
    unfold baseline
    rcases ensureUserAccessBaseline_cases settings db ids times userId with
      ⟨error, raises⟩ | ⟨finds, -⟩ | ⟨applied, grants, -, granted, -, tables⟩
    · rw [raises]
      exact kept
    · rw [finds]
      exact kept
    · rw [grants, tables]
      exact kept
  cases call with
  | ensureUserAccessBaseline ids times userId => exact baselines ids times userId
  | requireEntitlement ids times checkedAt userId featureKey =>
      rw [AccessCall.after, requireEntitlement_fst]
      exact baselines ids times userId
  | consumeAssessmentQuota ids counterId times userId =>
      rcases consumeAssessmentQuota_rest settings db ids counterId times userId with ⟨_, rest⟩
      rw [AccessCall.after, rest]
      exact baselines ids times.toBaselineTimes userId
  | processStripeWebhook delivery =>
      have kept := configured.ensureDefaultPlans mem delivery.ids.toAccessIds
      rw [AccessCall.after]
      rcases processStripeWebhook_cases settings db delivery with
        ⟨billingEvents, only⟩ | ⟨change, -, stores⟩
      · rw [only]
        exact kept
      · rw [stores.plans]
        exact kept

end Plans

section Reading

variable [UnicodeData] {settings : Settings} {tables : Tables} {plan : Plan}
  {request : CheckoutRequest} {subscriptionId status : String}
  {subscription event : List (String × Value)}

omit [UnicodeData] in
theorem completeSubscription_none (metadata : MetadataDict subscription)
    (userIdHint : Option String) :
    ∃ completed, completeSubscription subscription userIdHint none = .ok completed ∧
      MetadataDict completed ∧
      ∀ key, key ≠ "metadata" → Value.lookup key completed = Value.lookup key subscription := by
  simp only [completeSubscription]
  split
  · rename_i userId entries found
    split_ifs
    · exact ⟨_, rfl, metadata, fun _ _ => rfl⟩
    · refine ⟨_, rfl, ?_, ?_⟩
      · intro value assigned
        rw [Value.lookup_assign, if_pos rfl, Option.mem_some_iff] at assigned
        exact ⟨_, assigned.symm⟩
      · intro key other
        rw [Value.lookup_assign, if_neg other]
  · rename_i userId value other found
    rcases metadata value found with ⟨entries, rfl⟩
    cases other entries rfl
  · exact ⟨_, rfl, metadata, fun _ _ => rfl⟩

omit [UnicodeData] in
/-- Completing a subscription leaves its entries but for customer and metadata. -/
theorem completeSubscription_eq (metadata : MetadataDict subscription)
    (userIdHint customerIdHint : Option String) :
    ∃ completed, completeSubscription subscription userIdHint customerIdHint = .ok completed ∧
      MetadataDict completed ∧
      ∀ key, key ≠ "customer" → key ≠ "metadata" →
        Value.lookup key completed = Value.lookup key subscription := by
  cases customerIdHint with
  | none =>
      rcases completeSubscription_none metadata userIdHint with ⟨completed, done, still, same⟩
      exact ⟨completed, done, still, fun key _ => same key⟩
  | some customerId =>
      have customer : ∀ key, key ≠ "customer" →
          Value.lookup key (if ((Value.lookup "customer" subscription).getD .none).truthy then
            subscription else Value.assign "customer" (.str customerId) subscription) =
          Value.lookup key subscription := by
        intro key other
        split_ifs
        · rfl
        · rw [Value.lookup_assign, if_neg other]
      rw [MetadataDict, ← customer "metadata" (by decide)] at metadata
      rcases completeSubscription_none metadata userIdHint with ⟨completed, done, still, same⟩
      refine ⟨completed, done, still, ?_⟩
      intro key other otherMetadata
      rw [same key otherMetadata, customer key other]

/-- The event of a completed session is about the subscription, for the user of the request. -/
theorem subscriptionOfEvent_eq (completes : Completes request subscriptionId event)
    (subscribes : SubscribesTo request subscriptionId status subscription)
    (reference : request.clientReferenceId ≠ "")
    {retrieveSubscription : String → Except String (List (String × Value))}
    (retrieves : retrieveSubscription subscriptionId = .ok subscription) :
    ∃ completed, subscriptionOfEvent retrieveSubscription event =
        .ok (some (.dict completed, some request.clientReferenceId)) ∧
      SubscribesTo request subscriptionId status completed := by
  rcases completes with ⟨isType, data, object, hasData, hasObject, hasReference, hasSubscription⟩
  have known : (Value.str request.clientReferenceId).truthy := by simpa [Value.truthy] using reference
  have subscribed : (Value.str subscriptionId).truthy := by
    simpa [Value.truthy] using subscribes.nonempty
  have text : ∀ value : String, (Value.str value).text = value := fun _ => rfl
  have hint : (Value.str request.clientReferenceId).optionalStr = some request.clientReferenceId :=
    if_pos known
  rcases completeSubscription_eq subscribes.metadata (some request.clientReferenceId)
    ((Value.lookup "customer" object).getD .none).optionalStr with ⟨completed, done, still, same⟩
  refine ⟨completed, ?_, subscribes.nonempty, ?_, ?_, still, ?_⟩
  · simp [subscriptionOfEvent, isType, Value.get, hasData, hasObject, hasReference,
      hasSubscription, python, Except.mapError, bind, Except.bind, known, subscribed, text, hint,
      retrieves, done]
  · rw [same "id" (by decide) (by decide)]
    exact subscribes.id
  · rw [same "status" (by decide) (by decide)]
    exact subscribes.status
  · rcases subscribes.items with ⟨items, item, rest, price, hasItems, others⟩
    refine ⟨items, item, rest, price, ?_, others⟩
    rw [same "items" (by decide) (by decide)]
    exact hasItems

omit [UnicodeData] in
theorem firstPriceId_eq (subscribes : SubscribesTo request subscriptionId status subscription) :
    firstPriceId (.dict subscription) = .ok (.str request.priceId) := by
  rcases subscribes.items with ⟨items, item, rest, price, hasItems, hasData, hasPrice, hasId⟩
  have truthy : (Value.dict item).truthy = true := by
    cases item with
    | nil => simp [Value.lookup] at hasPrice
    | cons => rfl
  simp [firstPriceId, Value.get, hasItems, hasData, truthy, hasPrice, hasId, bind, Except.bind]

/-- The plan with the price is the one that the subscription is for. -/
theorem resolvePlan_eq (db : Database)
    (subscribes : SubscribesTo request subscriptionId status subscription)
    (mem : plan ∈ db.val.plans) (active : plan.isActive)
    (priced : plan.stripePriceId = some request.priceId) (nonempty : request.priceId ≠ "") :
    resolvePlan settings db.val (.dict subscription) = .ok plan := by
  have found : getPlanByStripePriceId db.val request.priceId = some plan := by
    cases first : getPlanByStripePriceId db.val request.priceId with
    | none =>
        have none := List.find?_eq_none.mp first plan mem
        simp [active, priced] at none
    | some other =>
        have otherMem := List.mem_of_find?_eq_some first
        have otherPriced : other.stripePriceId = some request.priceId ∧ other.isActive := by
          simpa using List.find?_some first
        rw [eq_of_nodup_filterMap db.property.1.planPrices otherMem mem otherPriced.1 priced]
  simp [resolvePlan, firstPriceId_eq subscribes, python, Except.mapError, bind, Except.bind,
    Value.truthy, nonempty, Value.text, found]

/-- Whose a stored subscription is. -/
theorem readSubscription_user {ids : EventIds} {times : EventTimes} {subscriptionObject : Value}
    {userIdHint : Option String} {values : Subscription}
    (read : readSubscription settings tables ids times subscriptionObject userIdHint =
      .ok (subscriptionId, plan, values)) :
    resolveUserId (getSubscriptionByProviderId tables.subscriptions subscriptionId) userIdHint
      subscriptionObject = .ok values.userId := by
  rcases bind_eq_ok_iff.mp read with ⟨rawId, -, read⟩
  dsimp only at read
  split at read
  · exact absurd read (by simp)
  · rcases bind_eq_ok_iff.mp read with ⟨resolved, -, read⟩
    rcases bind_eq_ok_iff.mp read with ⟨rawStatus, -, read⟩
    rcases bind_eq_ok_iff.mp read with ⟨userId, resolvingUser, read⟩
    rcases bind_eq_ok_iff.mp read with ⟨startedAt, -, read⟩
    rcases bind_eq_ok_iff.mp read with ⟨periodStart, -, read⟩
    rcases bind_eq_ok_iff.mp read with ⟨periodEnd, -, read⟩
    rcases bind_eq_ok_iff.mp read with ⟨canceledAt, -, read⟩
    rcases bind_eq_ok_iff.mp read with ⟨cancelAtPeriodEnd, -, read⟩
    rcases bind_eq_ok_iff.mp read with ⟨customerId, -, read⟩
    cases read
    exact resolvingUser

theorem resolveUserId_reference (existing : Option Subscription) (userId : UUID)
    (entries : List (String × Value)) :
    resolveUserId existing (some userId.str) (.dict entries) =
      .ok (existing.elim userId (·.userId)) := by
  cases existing with
  | some existing => rfl
  | none =>
      simp [resolveUserId, Value.get, rawUserId, python, Except.mapError, bind, Except.bind,
        uuidOfText_str]

/-- What the event of a completed session asks to store. -/
theorem change_of_completes {db : Database} {delivery : Delivery} {userId : UUID}
    {change : SubscriptionChange} (completes : Completes request subscriptionId event)
    (subscribes : SubscribesTo request subscriptionId status subscription)
    (reference : request.clientReferenceId = userId.str)
    (retrieves : delivery.retrieveSubscription subscriptionId = .ok subscription)
    (mem : plan ∈ db.val.plans) (active : plan.isActive)
    (priced : plan.stripePriceId = some request.priceId) (nonempty : request.priceId ≠ "")
    (asked : change ∈ askedChange settings db.val delivery event) :
    change.providerSubscriptionId = subscriptionId ∧ change.plan = plan ∧
      change.values.planId = plan.id ∧ change.values.status = mapSubscriptionStatus status ∧
      change.values.providerSubscriptionId = some subscriptionId ∧
      change.values.userId = (getSubscriptionByProviderId db.val.subscriptions
        subscriptionId).elim userId (·.userId) := by
  have known : request.clientReferenceId ≠ "" := by
    rw [reference]
    exact UUID.str_ne_empty userId
  rcases subscriptionOfEvent_eq completes subscribes known retrieves with
    ⟨completed, about, subscribed⟩
  rcases readSubscription_of_askedChange asked with ⟨object, hint, found, read⟩
  rw [about, Except.ok.injEq, Option.some.injEq, Prod.mk.injEq] at found
  rcases found with ⟨rfl, rfl⟩
  rcases readSubscription_reads read with ⟨isId, resolved, isStatus, isPlan, provider, -⟩
  have sameId : change.providerSubscriptionId = subscriptionId := by
    simpa [Value.get, subscribed.id, Except.map, Value.text, eq_comm] using isId
  have samePlan : change.plan = plan := by
    rw [resolvePlan_eq db subscribed mem active priced nonempty, Except.ok.injEq] at resolved
    exact resolved.symm
  have sameStatus : change.values.status = mapSubscriptionStatus status := by
    simpa [Value.get, subscribed.status, Except.map, Value.text, eq_comm] using isStatus
  have user := readSubscription_user read
  rw [reference, resolveUserId_reference, Except.ok.injEq, sameId] at user
  exact ⟨sameId, samePlan, samePlan ▸ isPlan, sameStatus, sameId ▸ provider, user.symm⟩

end Reading

/-- The columns that a new row has of the values. -/
theorem row_columns (change : SubscriptionChange) (subscriptions : List Subscription) :
    (change.row subscriptions).userId = change.values.userId ∧
      (change.row subscriptions).planId = change.values.planId ∧
      (change.row subscriptions).providerSubscriptionId =
        change.values.providerSubscriptionId := by
  unfold SubscriptionChange.row upserted
  split <;> exact ⟨rfl, rfl, rfl⟩

section Runs

variable {settings : Settings} {plan : Plan} {moment : Moment}

/-- The plan of a checkout stays, and what is stored has started. -/
def Stays (plan : Plan) (moment : Moment) : Prop :=
  plan ∈ moment.db.val.plans ∧ StartedBy moment.clock moment.db.val.entitlements

theorem Stays.step [UnicodeData] {call : AccessCall} (configured : Configured settings plan)
    (stays : Stays plan moment) (clocked : Clocked moment call) :
    Stays plan (accessStep settings moment call) := by
  rcases clocked.between with ⟨le, between⟩
  refine ⟨configured.kept stays.1 call, ?_⟩
  exact stays.2.of_grantsOnce between le (after_grantsOnce settings moment.db call)

theorem checkoutPlan_eq_ok {tables : Tables} {planCode priceId : String}
    (found : checkoutPlan tables planCode = .ok (plan, priceId)) :
    (plan ∈ tables.plans ∧ plan.code = planCode ∧ plan.isActive) ∧ plan.isFree = false ∧
      plan.stripePriceId = some priceId ∧ priceId ≠ "" := by
  unfold checkoutPlan at found
  cases lookup : getPlanByCode tables planCode with
  | none => simp [lookup] at found
  | some other =>
      simp only [lookup] at found
      split_ifs at found with free
      split at found
      · simp at found
      · rename_i price priced
        split_ifs at found with empty
        simp only [Except.ok.injEq, Prod.mk.injEq] at found
        rcases found with ⟨rfl, rfl⟩
        exact ⟨getPlanByCode_eq_some lookup, by simpa using free, priced, empty⟩

/-- A checkout is for a stored plan that can be paid, and leaves the entitlements. -/
theorem createCheckoutSession_eq_ok {db : Database} {ids : AccessIds}
    {gateway : CheckoutRequest → Except String CheckoutSessionRead} {userId : UUID}
    {userEmail : String} {payload : CheckoutSessionCreate} {session : CheckoutSessionRead}
    (created : (createCheckoutSession settings db ids gateway userId userEmail payload).2 =
      .ok session) :
    ∃ plan priceId, gateway (checkoutRequest plan priceId userId userEmail payload) = .ok session ∧
      plan.code = payload.planCode ∧ plan.isActive ∧ plan.isFree = false ∧
      plan.stripePriceId = some priceId ∧ priceId ≠ "" ∧ Configured settings plan ∧
      plan ∈ (createCheckoutSession settings db ids gateway userId userEmail
        payload).1.val.plans ∧
      (createCheckoutSession settings db ids gateway userId userEmail
        payload).1.val.entitlements = db.val.entitlements := by
  rcases planning : ensureDefaultPlans settings db ids with ⟨plans, result⟩
  have kept := entitlements_planned settings db ids
  rw [planned, planning] at kept
  cases result with
  | error error => simp [createCheckoutSession, planning] at created
  | ok done =>
      simp only [createCheckoutSession, planning] at created ⊢
      rcases bind_eq_ok_iff.mp created with ⟨⟨plan, priceId⟩, found, created⟩
      rcases checkoutPlan_eq_ok found with ⟨⟨mem, code, active⟩, paid, priced, nonempty⟩
      refine ⟨plan, priceId, mapError_eq_ok_iff.mp created, code, active, paid, priced, nonempty,
        ?_, mem, kept⟩
      exact configured_of_ensureDefaultPlans planning mem

/-- Who checks out gets the plan: whatever calls and events come in between, when the event of
the completed session is processed its subscription is stored for the plan and, unless it was
known as somebody's, for the user, who has from then on exactly the entitlements that the plan
gives under the status. -/
theorem checkout_reaches_user [UnicodeData] {start : Moment} {ids : AccessIds}
    {gateway : CheckoutRequest → Except String CheckoutSessionRead} {userId : UUID}
    {userEmail : String} {payload : CheckoutSessionCreate} {session : CheckoutSessionRead}
    (started : StartedBy start.clock start.db.val.entitlements)
    (created : (createCheckoutSession settings start.db ids gateway userId userEmail payload).2 =
      .ok session) :
    ∃ plan priceId, gateway (checkoutRequest plan priceId userId userEmail payload) = .ok session ∧
      plan.code = payload.planCode ∧ plan.stripePriceId = some priceId ∧
      ∀ (calls : List AccessCall) (delivery : Delivery) event subscriptionId status subscription,
      let begun : Moment :=
        ⟨(createCheckoutSession settings start.db ids gateway userId userEmail payload).1,
          start.clock⟩
      let before := run (accessStep settings) begun calls
      let after := accessStep settings before (.processStripeWebhook delivery)
      Along (accessStep settings) Clocked begun (calls ++ [.processStripeWebhook delivery]) →
      delivery.verification = .event event →
      Completes (checkoutRequest plan priceId userId userEmail payload) subscriptionId event →
      delivery.retrieveSubscription subscriptionId = .ok subscription →
      SubscribesTo (checkoutRequest plan priceId userId userEmail payload) subscriptionId status
        subscription →
      (processStripeWebhook settings before.db delivery).2 = .ok ⟨true, false⟩ →
      ∃ stored ∈ after.db.val.subscriptions,
        stored.providerSubscriptionId = some subscriptionId ∧ stored.planId = plan.id ∧
        stored.userId = (getSubscriptionByProviderId before.db.val.subscriptions
          subscriptionId).elim userId (·.userId) ∧
        ∀ instant, after.clock ≤ instant →
          (activeSpecs after.db.val.entitlements stored.userId instant).Perm
            (settings.entitlementsForPlan
              (grantedCode settings (mapSubscriptionStatus status) plan)) := by
  rcases createCheckoutSession_eq_ok created with
    ⟨plan, priceId, sent, code, active, -, priced, nonempty, configured, mem, kept⟩
  refine ⟨plan, priceId, sent, code, priced, ?_⟩
  intro calls delivery event subscriptionId status subscription begun before after clocked
    verified completes retrieves subscribes processed
  have stays : Stays plan before := by
    apply invariant_run_of_along _ _ (along_append.mp clocked).1
    · intro moment call stays met
      exact stays.step configured met
    · refine ⟨mem, ?_⟩
      rw [kept]
      exact started
  have clockedEvent : Clocked before (.processStripeWebhook delivery) :=
    (along_append.mp clocked).2.1
  rcases clockedEvent.between with ⟨-, between⟩
  have applied : delivery.times.appliedAt ∈
      (AccessCall.processStripeWebhook delivery).readings := by simp [AccessCall.readings]
  rcases subscriptionOfEvent_eq completes subscribes (UUID.str_ne_empty userId) retrieves with
    ⟨completed, about, -⟩
  rcases processStripeWebhook_stores verified about processed with ⟨change, asked, stores⟩
  have planMem := configured.ensureDefaultPlans stays.1 delivery.ids.toAccessIds
  rcases change_of_completes completes subscribes rfl retrieves planMem active priced nonempty
    asked with ⟨sameId, samePlan, isPlan, isStatus, provider, owner⟩
  have kept := (ensureDefaultPlans_extends settings before.db
    delivery.ids.toAccessIds).keepsAccess
  rcases row_columns change (planned settings before.db
    delivery.ids.toAccessIds).val.subscriptions with ⟨ofUser, ofPlan, ofProvider⟩
  refine ⟨_, ?_, ofProvider.trans provider, ofPlan.trans isPlan, ?_, ?_⟩
  · have stored := stores.subscriptions
    change _ ∈ (processStripeWebhook settings before.db delivery).1.val.subscriptions
    rw [stored]
    exact mem_upserted_iff.mpr (.inl rfl)
  · rw [ofUser, owner, planned, kept.subscriptions]
  · intro instant later
    rcases stores.entitlements with ⟨given, isGiven, grants⟩
    change (activeSpecs (processStripeWebhook settings before.db delivery).1.val.entitlements _
      instant).Perm _
    rw [ofUser, grants, ← samePlan, ← isStatus, ← isGiven]
    apply activeSpecs_granted
    · rw [entitlements_planned]
      exact stays.2.mono (between _ applied).1
    · exact (between _ applied).2.trans later

end Runs

section Samples

local instance checkoutUnicode : UnicodeData := .ascii

def sampleGateway (request : CheckoutRequest) : Except String CheckoutSessionRead :=
  if request.priceId = "price_pro" then .ok ⟨"cs_1", "https://checkout"⟩ else .error "No such price"

def samplePayload : CheckoutSessionCreate := ⟨"pro", "https://app/ok", "https://app/no"⟩

def sampleIds : AccessIds := ⟨100, 101, fun index => Fin.ofNat _ (1000 + index)⟩

/-- The user of the checkout makes another request, and another event comes first. -/
def sampleCalls : List AccessCall :=
  [.ensureUserAccessBaseline ⟨102, 103, fun index => Fin.ofNat _ (2000 + index)⟩ ⟨1, 1⟩ 1,
    .processStripeWebhook (sampleUpdate 2 "sub_b" "canceled")]

def sampleCompletion : List (String × Value) := [
  ("id", .str "evt_9"),
  ("type", .str "checkout.session.completed"),
  ("data", .dict [("object", .dict [
    ("client_reference_id", .str "00000000-0000-0000-0000-000000000001"),
    ("customer", .str "cus_1"),
    ("subscription", .str "sub_a")])])]

def checkoutSubscription : List (String × Value) := [
  ("id", .str "sub_a"),
  ("status", .str "active"),
  ("metadata", .dict []),
  ("items", .dict [("data", .list [.dict [("price", .dict [("id", .str "price_pro")])]])])]

def sampleDelivery : Delivery where
  verification := .event sampleCompletion
  retrieveSubscription _ := .ok checkoutSubscription
  ids := ⟨⟨104, 105, fun index => Fin.ofNat _ (3000 + index)⟩, 209, 309⟩
  times := ⟨3, 3, 3, 3⟩

def sampleCheckedOut : Moment :=
  ⟨(createCheckoutSession sampleSettings sampleDatabase sampleIds sampleGateway 1
    "ana@example.com" samplePayload).1, 0⟩

theorem checkout_reaches_user_sample :
    ∃ stored ∈ (run (accessStep sampleSettings) sampleCheckedOut
        (sampleCalls ++ [.processStripeWebhook sampleDelivery])).db.val.subscriptions,
      stored.providerSubscriptionId = some "sub_a" ∧ stored.userId = 1 := by
  have created : (createCheckoutSession sampleSettings sampleDatabase sampleIds sampleGateway 1
      "ana@example.com" samplePayload).2 = .ok ⟨"cs_1", "https://checkout"⟩ := by decide +kernel
  have started : StartedBy (Moment.mk sampleDatabase 0).clock
      (Moment.mk sampleDatabase 0).db.val.entitlements := by decide +kernel
  rcases checkout_reaches_user started created with ⟨plan, priceId, sent, -, -, reaches⟩
  have priced : priceId = "price_pro" := by
    by_contra other
    simp [sampleGateway, checkoutRequest, other] at sent
  have completes : Completes (checkoutRequest plan priceId 1 "ana@example.com" samplePayload)
      "sub_a" sampleCompletion :=
    ⟨by decide +kernel, _, _, rfl, rfl, rfl, rfl⟩
  have subscribes : SubscribesTo (checkoutRequest plan priceId 1 "ana@example.com" samplePayload)
      "sub_a" "active" checkoutSubscription := by
    subst priced
    refine ⟨by decide, rfl, rfl, ?_, _, _, _, _, rfl, rfl, rfl, rfl⟩
    rintro value ⟨⟩
    exact ⟨[], rfl⟩
  have clocked : Along (accessStep sampleSettings) Clocked sampleCheckedOut
      (sampleCalls ++ [.processStripeWebhook sampleDelivery]) := by
    refine ⟨?_, ?_, ?_, trivial⟩ <;> decide +kernel
  rcases reaches sampleCalls sampleDelivery sampleCompletion "sub_a" "active" checkoutSubscription
    clocked rfl completes rfl subscribes (by decide +kernel) with
    ⟨stored, mem, provider, -, user, -⟩
  refine ⟨stored, ?_, provider, ?_⟩
  · rw [run_append]
    exact mem
  · rw [user]
    decide +kernel

end Samples

end ImigrAI.Billing
