import Nipxi.Orchestration.ExecutionPlan

/-!
# The planner and the ownership gate

`build_execution_plan` promises batches whose workers share no resource; `validate` rejects groups
that would. Both compare what the groups declare, with the same resource graph, but only the gate
looks at the sense-routing table as well. They agree on a configuration exactly when the planner's
colouring separates the workers that sense through one matrix.
-/

open Collections

namespace Nipxi

/-! ## Some workers of a configuration -/

section Requested

variable {routing : SenseRouting} {groups requested : Dict String BatteryGroup}
  {names : List String}

/-- Two workers sense through one matrix. -/
def SharesSense (routing : SenseRouting) (groups : Dict String BatteryGroup)
    (w₁ w₂ : WorkerPlan) : Prop :=
  ∃ m, SensesWith routing groups w₁ m ∧ SensesWith routing groups w₂ m

theorem exists_requestGroups (h : ∀ name ∈ names, ∃ grp, groups.get? name = some grp)
    (begun : Dict String BatteryGroup) :
    ∃ requested, requestGroups groups names begun = .ok requested := by
  induction names generalizing begun with
  | nil => exact ⟨begun, rfl⟩
  | cons name names ih =>
    obtain ⟨⟨grp, hgrp⟩, hnames⟩ := List.forall_mem_cons.mp h
    obtain ⟨requested, hrequested⟩ := ih hnames (begun.insert name grp)
    exact ⟨requested, by rw [requestGroups, hgrp]; exact hrequested⟩

/-- The names are those of all groups of the workers of some SMUs. -/
def AllGroupsOf (groups : Dict String BatteryGroup) (smus names : List String) : Prop :=
  ∀ name, name ∈ names ↔ ∃ w ∈ discoverWorkers groups, w.smuName ∈ smus ∧ name ∈ w.groups

variable {smus : List String}

/-- A group of the worker has a property. -/
def HasGroup (groups : Dict String BatteryGroup) (w : WorkerPlan) (p : BatteryGroup → Prop) :
    Prop :=
  ∃ name ∈ w.groups, ∃ grp, groups.get? name = some grp ∧ p grp

section

variable (hnames : AllGroupsOf groups smus names)
  (hreq : requestGroups groups names Dict.empty = .ok requested)
include hnames hreq

theorem get?_requested {w : WorkerPlan} (hw : w ∈ discoverWorkers groups)
    (hsmu : w.smuName ∈ smus) {name : String} (hname : name ∈ w.groups) :
    requested.get? name = groups.get? name := by
  rw [get?_requestGroups hreq, if_pos ((hnames name).mpr ⟨w, hw, hsmu, hname⟩)]

/-- A requested group is one of the configuration, on one of the SMUs. -/
theorem mem_smus_of_requested {name : String} {grp : BatteryGroup}
    (hgrp : requested.get? name = some grp) :
    groups.get? name = some grp ∧ ∃ smu ∈ smus, grp.smu = some smu := by
  rw [get?_requestGroups hreq] at hgrp
  split at hgrp
  · next hname =>
    obtain ⟨w, hw, hsmu, hmem⟩ := (hnames name).mp hname
    obtain ⟨grp', hgrp', -, hsmu'⟩ := (mem_groups_of_mem_discoverWorkers hw).mp hmem
    obtain rfl := Option.some.inj (hgrp.symm.trans hgrp')
    exact ⟨hgrp, w.smuName, hsmu, hsmu'⟩
  · cases hgrp

theorem hasGroup_requested_iff {w v : WorkerPlan} (hw : w ∈ discoverWorkers requested)
    (hv : v ∈ discoverWorkers groups) (hsame : w.smuName = v.smuName) (hsmu : v.smuName ∈ smus)
    {p : BatteryGroup → Prop} : HasGroup requested w p ↔ HasGroup groups v p := by
  constructor
  · rintro ⟨name, hname, grp, hgrp, hp⟩
    obtain ⟨grp', hgrp', henabled, hsmu'⟩ := (mem_groups_of_mem_discoverWorkers hw).mp hname
    obtain rfl := Option.some.inj (hgrp.symm.trans hgrp')
    have hget := (mem_smus_of_requested hnames hreq hgrp).1
    exact ⟨name, (mem_groups_of_mem_discoverWorkers hv).mpr ⟨grp, hget, henabled, hsame ▸ hsmu'⟩,
      grp, hget, hp⟩
  · rintro ⟨name, hname, grp, hgrp, hp⟩
    obtain ⟨grp', hgrp', henabled, hsmu'⟩ := (mem_groups_of_mem_discoverWorkers hv).mp hname
    obtain rfl := Option.some.inj (hgrp.symm.trans hgrp')
    have hget := (get?_requested hnames hreq hv hsmu hname).trans hgrp
    exact ⟨name, (mem_groups_of_mem_discoverWorkers hw).mpr
      ⟨grp, hget, henabled, hsame ▸ hsmu'⟩, grp, hget, hp⟩

theorem exists_worker_of_hasGroup {w : WorkerPlan} (hw : w ∈ discoverWorkers requested)
    {p : BatteryGroup → Prop} (h : HasGroup requested w p) :
    ∃ v ∈ discoverWorkers groups, v.smuName = w.smuName ∧ v.smuName ∈ smus ∧
      HasGroup groups v p := by
  have ⟨name, hname, _⟩ := h
  obtain ⟨grp, hgrp, henabled, hsmu⟩ := (mem_groups_of_mem_discoverWorkers hw).mp hname
  obtain ⟨hget, smu, hmem, hsmu'⟩ := mem_smus_of_requested hnames hreq hgrp
  obtain rfl := Option.some.inj (hsmu.symm.trans hsmu')
  obtain ⟨v, hv, hsame⟩ :=
    exists_mem_discoverWorkers (mem_workerEntries.mpr ⟨grp, hget, henabled, hsmu⟩)
  refine ⟨v, hv, hsame, hsame ▸ hmem, ?_⟩
  exact (hasGroup_requested_iff hnames hreq hw hv hsame.symm (hsame ▸ hmem)).mp h

theorem exists_requested_of_hasGroup {v : WorkerPlan} (hv : v ∈ discoverWorkers groups)
    (hsmu : v.smuName ∈ smus) {p : BatteryGroup → Prop} (h : HasGroup groups v p) :
    ∃ w ∈ discoverWorkers requested, w.smuName = v.smuName ∧ HasGroup requested w p := by
  have ⟨name, hname, _⟩ := h
  obtain ⟨grp, hgrp, henabled, hsmu'⟩ := (mem_groups_of_mem_discoverWorkers hv).mp hname
  have hget := (get?_requested hnames hreq hv hsmu hname).trans hgrp
  obtain ⟨w, hw, hsame⟩ :=
    exists_mem_discoverWorkers (mem_workerEntries.mpr ⟨grp, hget, henabled, hsmu'⟩)
  exact ⟨w, hw, hsame, (hasGroup_requested_iff hnames hreq hw hv hsame hsmu).mpr h⟩

/-- Two requested workers share something exactly when two of the SMUs' workers do. -/
theorem exists_shared_requested_iff {p : String → BatteryGroup → Prop} :
    (∃ w₁ ∈ discoverWorkers requested, ∃ w₂ ∈ discoverWorkers requested,
        w₁.smuName ≠ w₂.smuName ∧ ∃ m, HasGroup requested w₁ (p m) ∧ HasGroup requested w₂ (p m))
      ↔ ∃ v₁ ∈ discoverWorkers groups, ∃ v₂ ∈ discoverWorkers groups,
        (v₁.smuName ∈ smus ∧ v₂.smuName ∈ smus ∧ v₁.smuName ≠ v₂.smuName) ∧
          ∃ m, HasGroup groups v₁ (p m) ∧ HasGroup groups v₂ (p m) := by
  constructor
  · rintro ⟨w₁, hw₁, w₂, hw₂, hne, m, h₁, h₂⟩
    obtain ⟨v₁, hv₁, hsame₁, hsmu₁, hm₁⟩ := exists_worker_of_hasGroup hnames hreq hw₁ h₁
    obtain ⟨v₂, hv₂, hsame₂, hsmu₂, hm₂⟩ := exists_worker_of_hasGroup hnames hreq hw₂ h₂
    exact ⟨v₁, hv₁, v₂, hv₂, ⟨hsmu₁, hsmu₂, hsame₁ ▸ hsame₂ ▸ hne⟩, m, hm₁, hm₂⟩
  · rintro ⟨v₁, hv₁, v₂, hv₂, ⟨hsmu₁, hsmu₂, hne⟩, m, h₁, h₂⟩
    obtain ⟨w₁, hw₁, hsame₁, hm₁⟩ := exists_requested_of_hasGroup hnames hreq hv₁ hsmu₁ h₁
    obtain ⟨w₂, hw₂, hsame₂, hm₂⟩ := exists_requested_of_hasGroup hnames hreq hv₂ hsmu₂ h₂
    exact ⟨w₁, hw₁, w₂, hw₂, hsame₁ ▸ hsame₂ ▸ hne, m, hm₁, hm₂⟩

end

/-- **What the gate accepts of some workers.** No two of them share a declared resource or a sense
matrix. -/
theorem validate_ok_iff (routing : SenseRouting) (hnames : AllGroupsOf groups smus names) :
    (∃ report, validate routing names groups = .ok report)
      ↔ ∀ w₁ ∈ discoverWorkers groups, ∀ w₂ ∈ discoverWorkers groups, w₁.smuName ∈ smus →
        w₂.smuName ∈ smus → w₁.smuName ≠ w₂.smuName →
          ¬SharesResource groups w₁ w₂ ∧ ¬SharesSense routing groups w₁ w₂ := by
  have hfound : ∀ name ∈ names, ∃ grp, groups.get? name = some grp := by
    intro name hname
    obtain ⟨w, hw, -, hmem⟩ := (hnames name).mp hname
    obtain ⟨grp, hgrp, -⟩ := (mem_groups_of_mem_discoverWorkers hw).mp hmem
    exact ⟨grp, hgrp⟩
  obtain ⟨requested, hreq⟩ := exists_requestGroups hfound Dict.empty
  have hcheck : checkOwnership routing names groups = .ok (ownershipReport routing requested) := by
    rw [checkOwnership, hreq]
  have hok : (∃ report, validate routing names groups = .ok report)
      ↔ ¬SharesDependency requested ∧ ¬SharesSenseMatrix routing requested := by
    rw [← ownershipReport_ok_iff, validate, hcheck]
    split
    · next h => cases h
    · next report h =>
      obtain rfl := Except.ok.inj h
      split
      · next htrue => exact iff_of_true ⟨_, rfl⟩ htrue
      · next hfalse =>
        refine iff_of_false ?_ hfalse
        rintro ⟨report, h⟩
        cases h
  -- two requested SMUs share something exactly if two workers of theirs do
  have hdep := exists_shared_requested_iff hnames hreq (p := fun m grp ↦
    ∃ key ∈ grp.resources, key.role ≠ .smuName ∧ key.resourceName = m)
  have hsense := exists_shared_requested_iff hnames hreq (p := fun m grp ↦
    grp.senseMatrix routing = some m)
  rw [hok]
  constructor
  · rintro ⟨hnodep, hnosense⟩ w₁ hw₁ w₂ hw₂ hsmu₁ hsmu₂ hne
    exact ⟨fun h ↦ hnodep (hdep.mpr ⟨w₁, hw₁, w₂, hw₂, ⟨hsmu₁, hsmu₂, hne⟩, h⟩),
      fun h ↦ hnosense (hsense.mpr ⟨w₁, hw₁, w₂, hw₂, ⟨hsmu₁, hsmu₂, hne⟩, h⟩)⟩
  · intro h
    constructor
    · intro hshare
      obtain ⟨w₁, hw₁, w₂, hw₂, ⟨hsmu₁, hsmu₂, hne⟩, hm⟩ := hdep.mp hshare
      exact (h w₁ hw₁ w₂ hw₂ hsmu₁ hsmu₂ hne).1 hm
    · intro hshare
      obtain ⟨w₁, hw₁, w₂, hw₂, ⟨hsmu₁, hsmu₂, hne⟩, hm⟩ := hsense.mp hshare
      exact (h w₁ hw₁ w₂ hw₂ hsmu₁ hsmu₂ hne).2 hm

end Requested

/-! ## The planner -/

section Planner

variable {routing : SenseRouting} {groups : Dict String BatteryGroup} {plan : ExecutionPlan}

/-- All groups of the workers of a batch. -/
def batchGroups (plan : ExecutionPlan) (batch : List String) : List String :=
  (plan.steps.filter fun s ↦ decide (s.smuName ∈ batch)).flatMap ExecutionStep.groups

/-- The planner and the gate agree: the gate accepts the groups of each batch, and two workers
whose groups it rejects together are in different batches. -/
def PlannerAgrees (routing : SenseRouting) (groups : Dict String BatteryGroup) : Prop :=
  ∀ plan, buildExecutionPlan groups none = .ok plan →
    (∀ batch ∈ plan.parallelBatches,
      ∃ report, validate routing (batchGroups plan batch) groups = .ok report) ∧
    ∀ s₁ ∈ plan.steps, ∀ s₂ ∈ plan.steps, s₁.smuName ≠ s₂.smuName →
      (∃ e, validate routing (s₁.groups ++ s₂.groups) groups = .error e) →
        ∀ batch ∈ plan.parallelBatches, ¬(s₁.smuName ∈ batch ∧ s₂.smuName ∈ batch)

/-- In the order of discovery, each worker has the least colour that no earlier worker has it
shares a declared resource with. -/
def IsSchedule (groups : Dict String BatteryGroup) (colour : String → ℕ) : Prop :=
  ∀ earlier w later, discoverWorkers groups = earlier ++ w :: later →
    (∀ v ∈ earlier, colour v.smuName = colour w.smuName → ¬SharesResource groups w v) ∧
      ∀ k < colour w.smuName, ∃ v ∈ earlier, colour v.smuName = k ∧ SharesResource groups w v

theorem includedNames_none :
    includedNames groups none = (discoverWorkers groups).map WorkerPlan.smuName := by
  have hall : (discoverWorkers groups).filter (fun w ↦ isSelected none w.smuName)
      = discoverWorkers groups := List.filter_eq_self.mpr fun _ _ ↦ rfl
  rw [includedNames, hall]

theorem isSchedule_iff {colour : String → ℕ} : IsSchedule groups colour
    ↔ IsFirstFit (planConflicts groups none) colour (includedNames groups none) := by
  have hconflict {earlier later : List WorkerPlan} {w v : WorkerPlan}
      (hsplit : discoverWorkers groups = earlier ++ w :: later) (hv : v ∈ earlier) :
      planConflicts groups none w.smuName v.smuName = true ↔ SharesResource groups w v := by
    have hnodup := nodup_smuName_discoverWorkers groups
    rw [hsplit, List.map_append, List.nodup_append'] at hnodup
    refine planConflicts_iff (hsplit ▸ List.mem_append_right _ List.mem_cons_self)
      (hsplit ▸ List.mem_append_left _ hv) rfl rfl fun hsame ↦ ?_
    exact hnodup.2.2 (List.mem_map_of_mem hv) (hsame ▸ List.mem_cons_self)
  rw [includedNames_none]
  constructor
  · intro h earlier name later heq
    obtain ⟨front, back, hsplit, rfl, hback⟩ := List.map_eq_append_iff.mp heq
    obtain ⟨w, back, rfl, rfl, -⟩ := List.map_eq_cons_iff.mp hback
    obtain ⟨hdiff, htaken⟩ := h front w back hsplit
    refine ⟨fun b hb hsame ↦ ?_, fun k hk ↦ ?_⟩
    · obtain ⟨v, hv, rfl⟩ := List.mem_map.mp hb
      rw [← Bool.not_eq_true, hconflict hsplit hv]
      exact hdiff v hv hsame
    · obtain ⟨v, hv, hcolour, hshare⟩ := htaken k hk
      exact ⟨v.smuName, List.mem_map_of_mem hv, hcolour, (hconflict hsplit hv).mpr hshare⟩
  · intro h earlier w later hsplit
    obtain ⟨hdiff, htaken⟩ := h (earlier.map WorkerPlan.smuName) w.smuName
      (later.map WorkerPlan.smuName) (by rw [hsplit, List.map_append, List.map_cons])
    refine ⟨fun v hv hsame ↦ ?_, fun k hk ↦ ?_⟩
    · rw [← hconflict hsplit hv, Bool.not_eq_true]
      exact hdiff _ (List.mem_map_of_mem hv) hsame
    · obtain ⟨b, hb, hcolour, hshare⟩ := htaken k hk
      obtain ⟨v, hv, rfl⟩ := List.mem_map.mp hb
      exact ⟨v, hv, hcolour, (hconflict hsplit hv).mp hshare⟩

theorem allGroupsOf_batchGroups (hplan : IsPlan groups none plan) {batch : List String}
    (hbatch : batch ∈ plan.parallelBatches) :
    AllGroupsOf groups batch (batchGroups plan batch) := by
  intro name
  simp only [batchGroups, List.mem_flatMap, List.mem_filter, decide_eq_true_eq]
  constructor
  · rintro ⟨s, ⟨hs, hin⟩, hname⟩
    obtain ⟨w, hw, hsame, hgroups⟩ := hplan.own s hs
    exact ⟨w, hw, hsame ▸ hin, hgroups ▸ hname⟩
  · rintro ⟨w, hw, hin, hname⟩
    have hmem : w.smuName ∈ plan.steps.map ExecutionStep.smuName :=
      hplan.order ▸ List.mem_flatten.mpr ⟨batch, hbatch, hin⟩
    obtain ⟨s, hs, hsame⟩ := List.mem_map.mp hmem
    obtain ⟨v, hv, hsame', hgroups⟩ := hplan.own s hs
    obtain rfl := eq_of_smuName_eq hw hv (hsame.symm.trans hsame'.symm)
    exact ⟨s, ⟨hs, hsame ▸ hin⟩, hgroups ▸ hname⟩

theorem allGroupsOf_append (hplan : IsPlan groups none plan) {s₁ s₂ : ExecutionStep}
    (h₁ : s₁ ∈ plan.steps) (h₂ : s₂ ∈ plan.steps) :
    AllGroupsOf groups [s₁.smuName, s₂.smuName] (s₁.groups ++ s₂.groups) := by
  obtain ⟨w₁, hw₁, hsame₁, hgroups₁⟩ := hplan.own s₁ h₁
  obtain ⟨w₂, hw₂, hsame₂, hgroups₂⟩ := hplan.own s₂ h₂
  intro name
  rw [List.mem_append, hgroups₁, hgroups₂, ← hsame₁, ← hsame₂]
  constructor
  · rintro (hname | hname)
    · exact ⟨w₁, hw₁, List.mem_cons_self, hname⟩
    · exact ⟨w₂, hw₂, List.mem_cons_of_mem _ List.mem_cons_self, hname⟩
  · rintro ⟨w, hw, hin, hname⟩
    rcases List.mem_cons.mp hin with hin | hin
    · exact Or.inl (eq_of_smuName_eq hw hw₁ hin ▸ hname)
    · exact Or.inr (eq_of_smuName_eq hw hw₂ (List.mem_singleton.mp hin) ▸ hname)

/-- **The planner agrees exactly where the colours separate the sense matrices.** It colours the
workers by what their groups declare; two workers that sense through one matrix must get
different colours. -/
theorem plannerAgrees_iff (routing : SenseRouting) (groups : Dict String BatteryGroup) :
    PlannerAgrees routing groups ↔ ∀ colour, IsSchedule groups colour →
      ∀ w₁ ∈ discoverWorkers groups, ∀ w₂ ∈ discoverWorkers groups, w₁.smuName ≠ w₂.smuName →
        SharesSense routing groups w₁ w₂ → colour w₁.smuName ≠ colour w₂.smuName := by
  obtain ⟨plan, hplan, hbatches, hspec⟩ := exists_buildExecutionPlan groups none
  have hcolour {colour : String → ℕ} (h : IsSchedule groups colour) {w : WorkerPlan}
      (hw : w ∈ discoverWorkers groups) {k : ℕ} :
      InBatch plan.parallelBatches k w.smuName ↔ colour w.smuName = k := by
    rw [hbatches, planBatches, (isSchedule_iff.mp h).inBatch_iff, includedNames_none]
    exact and_iff_right (List.mem_map_of_mem hw)
  constructor
  · intro h colour hschedule w₁ hw₁ w₂ hw₂ hne hshare hsame
    obtain ⟨batch, hbatch, hin₁⟩ := (hcolour hschedule hw₁).mpr rfl
    obtain ⟨batch', hbatch', hin₂⟩ := (hcolour hschedule hw₂).mpr hsame.symm
    obtain rfl : batch = batch' := Option.some.inj (hbatch.symm.trans hbatch')
    have hmem := List.mem_of_getElem? hbatch
    have haccept := validate_ok_iff routing (allGroupsOf_batchGroups hspec hmem)
    exact (haccept.mp ((h plan hplan).1 batch hmem) w₁ hw₁ w₂ hw₂ hin₁ hin₂ hne).2 hshare
  · intro h plan' hplan'
    obtain rfl : plan = plan' := Except.ok.inj (hplan.symm.trans hplan')
    obtain ⟨colour, hfirst, -⟩ := exists_colour groups none
    have hschedule := isSchedule_iff.mpr hfirst
    -- two workers of a batch share neither a declared resource nor a sense matrix
    have hfree : ∀ batch ∈ plan.parallelBatches, ∀ w₁ ∈ discoverWorkers groups,
        ∀ w₂ ∈ discoverWorkers groups, w₁.smuName ∈ batch → w₂.smuName ∈ batch →
          w₁.smuName ≠ w₂.smuName →
            ¬SharesResource groups w₁ w₂ ∧ ¬SharesSense routing groups w₁ w₂ := by
      intro batch hbatch w₁ hw₁ w₂ hw₂ hin₁ hin₂ hne
      refine ⟨hspec.compatible batch hbatch w₁ hw₁ w₂ hw₂ hin₁ hin₂ hne, fun hshare ↦ ?_⟩
      obtain ⟨k, hk⟩ := List.mem_iff_getElem?.mp hbatch
      refine h colour hschedule w₁ hw₁ w₂ hw₂ hne hshare ?_
      rw [(hcolour hschedule hw₁).mp ⟨batch, hk, hin₁⟩,
        (hcolour hschedule hw₂).mp ⟨batch, hk, hin₂⟩]
    refine ⟨fun batch hbatch ↦ ?_, fun s₁ hs₁ s₂ hs₂ _ hreject batch hbatch hin ↦ ?_⟩
    · exact (validate_ok_iff routing (allGroupsOf_batchGroups hspec hbatch)).mpr
        (hfree batch hbatch)
    · have hsub : ∀ smu ∈ [s₁.smuName, s₂.smuName], smu ∈ batch :=
        List.forall_mem_cons.mpr ⟨hin.1, List.forall_mem_singleton.mpr hin.2⟩
      have haccept := validate_ok_iff routing (allGroupsOf_append hspec hs₁ hs₂)
      obtain ⟨report, hok⟩ := haccept.mpr fun w₁ hw₁ w₂ hw₂ hsmu₁ hsmu₂ hne ↦
        hfree batch hbatch w₁ hw₁ w₂ hw₂ (hsub _ hsmu₁) (hsub _ hsmu₂) hne
      obtain ⟨e, he⟩ := hreject
      cases hok.symm.trans he

/-- Two workers that declare nothing in common, and sense through one matrix. -/
def oneSenseMatrixGroups : Dict String BatteryGroup :=
  ⟨[("A1", ⟨"MATRIX_NUMATO_202", "PRIMARY_SMU", "AUX_DMM", "AUX_DAQ", none, true, some 1⟩),
    ("B1", ⟨"MATRIX_NUMATO_203", "AUX_SMU_1", "MAIN_DMM", "MAIN_DAQ", none, true, some 1⟩)],
    by decide⟩

theorem not_plannerAgrees_oneSenseMatrixGroups :
    ¬PlannerAgrees SENSE_ROUTING oneSenseMatrixGroups := by
  intro h
  let plan : ExecutionPlan :=
    ⟨[⟨"PRIMARY_SMU", ["A1"], []⟩, ⟨"AUX_SMU_1", ["B1"], []⟩], [["PRIMARY_SMU", "AUX_SMU_1"]], []⟩
  have hok : buildExecutionPlan oneSenseMatrixGroups none = .ok plan :=
    eq_ok_of_toOption (by decide +kernel)
  have hreject : (validate SENSE_ROUTING ["A1", "B1"] oneSenseMatrixGroups).isOk = false := by
    decide +kernel
  obtain ⟨report, haccept⟩ := (h plan hok).1 _ List.mem_cons_self
  have hgroups : batchGroups plan ["PRIMARY_SMU", "AUX_SMU_1"] = ["A1", "B1"] := by decide
  rw [hgroups] at haccept
  rw [haccept] at hreject
  cases hreject

end Planner

end Nipxi
