import ImigrAI.Billing.WebhookEffects

/-!
# Active entitlements after a grant

What `_apply_plan_entitlements` leaves active from its clock reading on: the entitlements of
the plan for the user, and what was active before for everybody else.
-/

namespace ImigrAI.Billing

open Python Sorting

/-- What an entitlement was created from. -/
def Entitlement.spec (entitlement : Entitlement) : EntitlementSpec :=
  ⟨entitlement.featureKey, entitlement.limitValue, entitlement.usageWindow, entitlement.isEnabled⟩

/-- What the active entitlements of the user were created from. -/
def activeSpecs (entitlements : List Entitlement) (userId : UUID) (instant : Instant) :
    List EntitlementSpec :=
  (listActiveEntitlements entitlements userId instant).map Entitlement.spec

/-- All entitlements are valid from now or earlier on. -/
def StartedBy (now : Instant) (entitlements : List Entitlement) : Prop :=
  ∀ entitlement ∈ entitlements, entitlement.validFrom ≤ now

instance (now : Instant) : DecidablePred (StartedBy now) :=
  fun entitlements => inferInstanceAs (Decidable (∀ entitlement ∈ entitlements, _))

theorem StartedBy.mono {earlier later : Instant} {entitlements : List Entitlement}
    (started : StartedBy earlier entitlements) (le : earlier ≤ later) :
    StartedBy later entitlements :=
  fun entitlement entitlementMem => (started entitlement entitlementMem).trans le

theorem listActiveEntitlements_perm (entitlements : List Entitlement) (userId : UUID)
    (instant : Instant) :
    (listActiveEntitlements entitlements userId instant).Perm
      (entitlements.filter fun entitlement =>
        entitlement.userId = userId ∧ entitlement.ActiveAt instant) :=
  sortBy_perm _ _

section Granted

variable {settings : Settings} {entitlements : List Entitlement} {ids : ℕ → UUID}
  {userId : UUID} {plan : Plan} {subscriptionId : Option UUID} {now instant : Instant}

theorem mem_planEntitlements {entitlement : Entitlement}
    (mem : entitlement ∈ planEntitlements settings ids userId plan subscriptionId now) :
    entitlement.userId = userId ∧ entitlement.validFrom = now ∧ entitlement.validTo = none ∧
      entitlement.spec ∈ settings.entitlementsForPlan plan.code := by
  rcases List.mem_map.mp mem with ⟨⟨spec, index⟩, entryMem, rfl⟩
  refine ⟨rfl, rfl, rfl, ?_⟩
  exact List.fst_mem_of_mem_zipIdx entryMem

theorem map_spec_planEntitlements :
    (planEntitlements settings ids userId plan subscriptionId now).map Entitlement.spec =
      settings.entitlementsForPlan plan.code := by
  rw [planEntitlements, List.map_map]
  exact List.zipIdx_map_fst 0 _

theorem Settings.isEnabled_of_mem {spec : EntitlementSpec} {planCode : String}
    (mem : spec ∈ settings.entitlementsForPlan planCode) : spec.isEnabled = true := by
  unfold Settings.entitlementsForPlan at mem
  split at mem
  · simp only [Settings.proEntitlements, List.mem_cons, List.not_mem_nil, or_false] at mem
    rcases mem with rfl | rfl | rfl | rfl | rfl <;> rfl
  · simp only [Settings.freeEntitlements, List.mem_singleton] at mem
    subst mem
    rfl

theorem startedBy_granted (started : StartedBy now entitlements) :
    StartedBy now (granted settings entitlements ids userId plan subscriptionId now) := by
  intro entitlement mem
  rcases List.mem_append.mp mem with old | new
  · rcases List.mem_map.mp old with ⟨before, beforeMem, rfl⟩
    split_ifs
    · exact started before beforeMem
    · exact started before beforeMem
  · exact (mem_planEntitlements new).2.1.le

/-- What is deactivated now is not active later. -/
theorem not_activeAt_deactivated (started : StartedBy now entitlements) (le : now ≤ instant) :
    ∀ entitlement ∈ deactivated userId now entitlements, entitlement.userId = userId →
      ¬ entitlement.ActiveAt instant := by
  intro entitlement mem ofUser
  rcases List.mem_map.mp mem with ⟨before, beforeMem, rfl⟩
  split_ifs at ofUser ⊢ with active
  · rintro ⟨-, -, ends⟩
    exact absurd le (not_le.mpr ends)
  · rintro ⟨enabled, -, ends⟩
    -- An end after the later instant is one after now.
    refine active ⟨ofUser, enabled, started before beforeMem, ?_⟩
    cases validTo : before.validTo with
    | none => trivial
    | some stop =>
        rw [validTo] at ends
        exact le.trans_lt ends

/-- From the grant on, exactly the entitlements of the plan are active. -/
theorem activeSpecs_granted (started : StartedBy now entitlements) (le : now ≤ instant) :
    (activeSpecs (granted settings entitlements ids userId plan subscriptionId now) userId
      instant).Perm (settings.entitlementsForPlan plan.code) := by
  have ended : (deactivated userId now entitlements).filter (fun entitlement =>
      entitlement.userId = userId ∧ entitlement.ActiveAt instant) = [] := by
    rw [List.filter_eq_nil_iff]
    intro entitlement mem
    rw [decide_eq_true_eq]
    rintro ⟨ofUser, active⟩
    exact not_activeAt_deactivated started le entitlement mem ofUser active
  have begun : (planEntitlements settings ids userId plan subscriptionId now).filter
      (fun entitlement => entitlement.userId = userId ∧ entitlement.ActiveAt instant) =
        planEntitlements settings ids userId plan subscriptionId now := by
    rw [List.filter_eq_self]
    intro entitlement mem
    rcases mem_planEntitlements mem with ⟨ofUser, validFrom, validTo, spec⟩
    rw [decide_eq_true_eq]
    refine ⟨ofUser, Settings.isEnabled_of_mem spec, validFrom.le.trans le, ?_⟩
    rw [validTo]
    trivial
  have perm := (listActiveEntitlements_perm
    (granted settings entitlements ids userId plan subscriptionId now) userId instant).map
      Entitlement.spec
  rw [granted, List.filter_append, ended, begun, List.nil_append, map_spec_planEntitlements] at perm
  exact perm

/-- Granting a plan to one user leaves the others with what they have. -/
theorem listActiveEntitlements_granted_of_ne {other : UUID} (different : other ≠ userId) :
    listActiveEntitlements (granted settings entitlements ids userId plan subscriptionId now)
      other instant = listActiveEntitlements entitlements other instant := by
  unfold listActiveEntitlements
  congr 1
  have begun : (planEntitlements settings ids userId plan subscriptionId now).filter
      (fun entitlement => entitlement.userId = other ∧ entitlement.ActiveAt instant) = [] := by
    rw [List.filter_eq_nil_iff]
    intro entitlement mem
    simp [(mem_planEntitlements mem).1, different.symm]
  rw [granted, List.filter_append, begun, List.append_nil, deactivated, List.filter_map]
  induction entitlements with
  | nil => rfl
  | cons first rest ih =>
      by_cases ofUser : first.userId = userId
      · have out : first.userId ≠ other := fun same => different (same.symm.trans ofUser)
        rw [List.filter_cons_of_neg, List.filter_cons_of_neg, ih]
        · simp [out]
        · simp only [Function.comp_apply]
          split_ifs <;> simp [out]
      · have kept : (if first.userId = userId ∧ first.ActiveAt now then
            { first with validTo := some now } else first) = first :=
          if_neg fun active => ofUser active.1
        rw [List.filter_cons, List.filter_cons, Function.comp_apply, kept]
        split_ifs
        · rw [List.map_cons, kept, ih]
        · exact ih

end Granted

end ImigrAI.Billing
