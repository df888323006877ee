import ImigrAI.Billing.WebhookEffects
import ImigrAI.Foundations.Runs

/-!
# Redelivered events

An event that has been processed or ignored is answered as a replay. The default plans are
written once more before that, which changes nothing, since it was done before the event was
recorded.
-/

namespace ImigrAI.Billing

open Python Runs Rows Fallible

/-- Both default plans are stored as the settings have them. -/
def DefaultsStored (settings : Settings) (tables : Tables) : Prop :=
  (∃ id, settings.freePlan id ∈ tables.plans) ∧ ∃ id, settings.proPlan id ∈ tables.plans

section Defaults

variable {settings : Settings} {db after : Database} {ids : AccessIds}

theorem getPlanByCode_of_mem {plan : Plan} (mem : plan ∈ db.val.plans) (active : plan.isActive) :
    getPlanByCode db.val plan.code = some plan := by
  cases found : getPlanByCode db.val plan.code with
  | none =>
      have missing := List.find?_eq_none.mp found plan mem
      simp [active] at missing
  | some other =>
      rcases getPlanByCode_eq_some found with ⟨otherMem, sameCode, -⟩
      rw [List.inj_on_of_nodup_map db.property.1.planCodes otherMem mem sameCode]

/-- A plan that is stored as it is to be is written without a change. -/
theorem getOrCreatePlan_of_mem {plan : Plan} {id : UUID}
    (mem : { plan with id := id } ∈ db.val.plans) (active : plan.isActive) :
    getOrCreatePlan db plan = .ok db := by
  have found : getPlanByCode db.val plan.code = some { plan with id := id } :=
    getPlanByCode_of_mem mem active
  have unchanged : replaceRow (·.id) { plan with id := id } db.val.plans = db.val.plans := by
    apply replaceRow_self
    intro old oldMem sameId
    exact List.inj_on_of_nodup_map db.property.1.planIds oldMem mem sameId
  unfold getOrCreatePlan
  rw [found]
  dsimp only
  rw [unchanged]
  exact ensure_eq_ok_iff.mpr rfl

theorem getOrCreatePlan_mem {plan : Plan} (done : getOrCreatePlan db plan = .ok after) :
    ∃ id, { plan with id := id } ∈ after.val.plans := by
  unfold getOrCreatePlan at done
  split at done
  · next existing found =>
      rw [ensure_eq_ok_iff.mp done]
      exact ⟨existing.id, self_mem_replaceRow _ _ (getPlanByCode_eq_some found).1 rfl⟩
  · rw [ensure_eq_ok_iff.mp done]
    exact ⟨plan.id, by simp⟩

/-- Writing another plan leaves a plan as it is. -/
theorem mem_plans_getOrCreatePlan {plan other : Plan} (mem : other ∈ db.val.plans)
    (different : other.code ≠ plan.code) (done : getOrCreatePlan db plan = .ok after) :
    other ∈ after.val.plans := by
  unfold getOrCreatePlan at done
  split at done
  · next existing found =>
      rcases getPlanByCode_eq_some found with ⟨existingMem, existingCode, -⟩
      rw [ensure_eq_ok_iff.mp done]
      apply mem_replaceRow_of_ne mem
      intro sameId
      have same := List.inj_on_of_nodup_map db.property.1.planIds mem existingMem sameId
      rw [same, existingCode] at different
      exact different rfl
  · rw [ensure_eq_ok_iff.mp done]
    exact List.mem_append_left _ mem

theorem ensureDefaultPlans_of_stored (stored : DefaultsStored settings db.val) (ids : AccessIds) :
    ensureDefaultPlans settings db ids = (db, .ok ()) := by
  rcases stored with ⟨⟨freeId, freeMem⟩, proId, proMem⟩
  have free : getOrCreatePlan db (settings.freePlan ids.freePlan) = .ok db :=
    getOrCreatePlan_of_mem freeMem rfl
  have pro : getOrCreatePlan db (settings.proPlan ids.proPlan) = .ok db :=
    getOrCreatePlan_of_mem proMem rfl
  simp [ensureDefaultPlans, free, pro]

theorem defaultsStored_of_ensureDefaultPlans
    (done : ensureDefaultPlans settings db ids = (after, .ok ())) :
    DefaultsStored settings after.val := by
  rcases ensureDefaultPlans_eq_ok done with ⟨withFree, storedFree, storedPro⟩
  refine ⟨?_, getOrCreatePlan_mem storedPro⟩
  rcases getOrCreatePlan_mem storedFree with ⟨freeId, freeMem⟩
  have different : (settings.freePlan freeId).code ≠ (settings.proPlan ids.proPlan).code :=
    settings.plansDiffer
  exact ⟨freeId, mem_plans_getOrCreatePlan freeMem different storedPro⟩

end Defaults

/-- Once an event has been recorded as processed or ignored, the default plans are in place. -/
def PlansBeforeEvents (settings : Settings) (db : Database) : Prop :=
  (∃ event ∈ db.val.billingEvents, event.status = .processed ∨ event.status = .ignored) →
    DefaultsStored settings db.val

section Runs

variable [UnicodeData]

section Steps

variable {settings : Settings} {db : Database} {delivery : Delivery}

theorem plans_processStripeWebhook (settings : Settings) (db : Database) (delivery : Delivery) :
    (processStripeWebhook settings db delivery).1.val.plans =
      (planned settings db delivery.ids.toAccessIds).val.plans := by
  rcases processStripeWebhook_cases settings db delivery with
    ⟨billingEvents, events⟩ | ⟨change, -, stores⟩
  · rw [events]
  · exact stores.plans

/-- Without the default plans a webhook stops, and no event has been recorded. -/
theorem plansBeforeEvents_processStripeWebhook (before : PlansBeforeEvents settings db)
    (delivery : Delivery) :
    PlansBeforeEvents settings (processStripeWebhook settings db delivery).1 := by
  rcases planning : ensureDefaultPlans settings db delivery.ids.toAccessIds with ⟨plans, result⟩
  cases result with
  | error error =>
      rintro ⟨event, eventMem, settled⟩
      have stopped : (processStripeWebhook settings db delivery).1 = plans := by
        simp [processStripeWebhook, planning]
      have extended := ensureDefaultPlans_extends settings db delivery.ids.toAccessIds
      rw [planning] at extended
      rcases extended with ⟨⟨rows, tables⟩, -⟩
      rw [stopped, tables] at eventMem
      have stored := before ⟨event, eventMem, settled⟩
      rw [ensureDefaultPlans_of_stored stored] at planning
      exact absurd (congrArg Prod.snd planning) (by simp)
  | ok done =>
      intro recorded
      have stored := defaultsStored_of_ensureDefaultPlans planning
      rw [DefaultsStored, plans_processStripeWebhook, planned, planning]
      exact stored

end Steps

/-- The delivery is an event whose id is recorded as processed or ignored. -/
def Redelivers (db : Database) (delivery : Delivery) : Prop :=
  ∃ event, delivery.verification = .event event ∧ Settled db.val event

/-- What a redelivery is answered: that it is one, unless its payload is not an event. -/
def replayAnswer (delivery : Delivery) : Except BillingError StripeWebhookAck :=
  match delivery.verification with
  | .event event =>
      if eventText event "id" = "" ∨ eventText event "type" = "" then
        .error (.http 400 "Invalid Stripe event payload")
      else .ok ⟨true, true⟩
  | .signatureError message => .error (.http 401 message)
  | .gatewayError message => .error (.http 503 message)

theorem processStripeWebhook_of_redelivers {settings : Settings} {db : Database}
    {delivery : Delivery} (before : PlansBeforeEvents settings db)
    (redelivers : Redelivers db delivery) :
    processStripeWebhook settings db delivery = (db, replayAnswer delivery) := by
  rcases redelivers with ⟨event, verified, existing, found, settled⟩
  have stored := before ⟨existing, List.mem_of_find?_eq_some found, settled⟩
  have replayed : getBillingEvent db.val (eventText event "id") = some existing := found
  simp only [processStripeWebhook, ensureDefaultPlans_of_stored stored, verified, replayAnswer,
    replayed, if_pos settled]
  split_ifs
  · rfl
  · rfl

/-- A delivery of a history, and whether it has been inserted as a redelivery. -/
structure Arrival where
  delivery : Delivery
  inserted : Bool

def arrivalStep (settings : Settings) (db : Database) (arrival : Arrival) : Database :=
  (processStripeWebhook settings db arrival.delivery).1

/-- Redeliveries inserted into a history leave its end as it is, and each one is answered as a
replay. -/
theorem run_of_redeliveries (settings : Settings) {initial : Database}
    (unrecorded : initial.val.billingEvents = []) {arrivals : List Arrival}
    (redeliveries : Along (arrivalStep settings)
      (fun db arrival => arrival.inserted → Redelivers db arrival.delivery) initial arrivals) :
    run (arrivalStep settings) initial arrivals =
        run (arrivalStep settings) initial (arrivals.filter fun arrival => !arrival.inserted) ∧
      Along (arrivalStep settings) (fun db arrival => arrival.inserted →
        (processStripeWebhook settings db arrival.delivery).2 = replayAnswer arrival.delivery)
        initial arrivals := by
  have start : PlansBeforeEvents settings initial := by
    rintro ⟨event, eventMem, -⟩
    rw [unrecorded] at eventMem
    exact absurd eventMem List.not_mem_nil
  have kept : ∀ db arrival, PlansBeforeEvents settings db →
      PlansBeforeEvents settings (arrivalStep settings db arrival) := by
    intro db arrival before
    exact plansBeforeEvents_processStripeWebhook before arrival.delivery
  have replayed : Along (arrivalStep settings) (fun db arrival => arrival.inserted →
      processStripeWebhook settings db arrival.delivery =
        (db, replayAnswer arrival.delivery)) initial arrivals := by
    refine redeliveries.sharpen (fun db arrival before _ => kept db arrival before) ?_ start
    intro db arrival before redelivers inserted
    exact processStripeWebhook_of_redelivers before (redelivers inserted)
  refine ⟨(run_filter_of_idle ?_).symm, ?_⟩
  · apply replayed.imp
    intro db arrival replays inserted
    rw [arrivalStep, replays inserted]
  · apply replayed.imp
    intro db arrival replays inserted
    rw [replays inserted]

end Runs

section Samples

local instance redeliveryUnicodeData : UnicodeData := UnicodeData.ascii

/-- An update, and its redelivery with another payload. -/
def sampleArrivals : List Arrival :=
  [⟨sampleUpdate 1 "sub_a" "active", false⟩,
    ⟨{ sampleUpdate 2 "sub_b" "canceled" with
      verification := .event [("id", .str "evt_1"), ("type", .str "invoice.paid")] }, true⟩]

theorem run_of_sampleArrivals :
    run (arrivalStep sampleSettings) sampleDatabase sampleArrivals =
        run (arrivalStep sampleSettings) sampleDatabase
          (sampleArrivals.filter fun arrival => !arrival.inserted) ∧
      Along (arrivalStep sampleSettings) (fun db arrival => arrival.inserted →
        (processStripeWebhook sampleSettings db arrival.delivery).2 =
          replayAnswer arrival.delivery) sampleDatabase sampleArrivals := by
  apply run_of_redeliveries sampleSettings
  · rfl
  · refine ⟨by simp, fun _ => ⟨_, rfl, ?_⟩, trivial⟩
    decide +kernel

/-- A redelivery without a type is refused as no event. -/
theorem typeless_redelivery_refused :
    let db := arrivalStep sampleSettings sampleDatabase ⟨sampleUpdate 1 "sub_a" "active", false⟩
    let delivery := { sampleUpdate 2 "sub_a" "active" with
      verification := .event [("id", .str "evt_1")] }
    Redelivers db delivery ∧
      (processStripeWebhook sampleSettings db delivery).2 =
        .error (.http 400 "Invalid Stripe event payload") := by
  refine ⟨⟨_, rfl, ?_⟩, ?_⟩
  · decide +kernel
  · rfl

end Samples

end ImigrAI.Billing
