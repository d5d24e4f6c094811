import Nipxi.Collections.FirstFit
import Nipxi.Orchestration.Ownership

/-!
# The execution plan

`orchestration/execution_plan.py`: the discovered workers in batches of which each can run at
once, and in an order that respects their conflicts. The batches are first-fit ones over the
conflict graph, so a worker waits exactly for the earlier workers it conflicts with.
-/

open Collections

namespace Nipxi

/-! ## The plan -/

/-- `ExecutionStep`: one worker's turn. -/
structure ExecutionStep where
  smuName : String
  /-- The worker's own groups. -/
  groups : List String
  /-- The workers of earlier batches it conflicts with. -/
  dependsOn : List String
  deriving DecidableEq

/-- `ExecutionPlan`. -/
structure ExecutionPlan where
  steps : List ExecutionStep
  parallelBatches : List (List String)
  /-- The discovered workers that `enabled_workers` leaves out. -/
  excludedWorkers : List String
  deriving DecidableEq

/-- Whether the selection of workers includes one; no selection includes all. -/
def isSelected (enabledWorkers : Option (List String)) (smuName : String) : Bool :=
  match enabledWorkers with
  | some names => decide (smuName ∈ names)
  | none => true

/-- The conflicts of the graph with both workers included. -/
def conflictPairs (graph : ResourceGraph) (included : List WorkerPlan) : List (String × String) :=
  graph.conflicts.keys.filter fun pair ↦
    pair.1 ∈ included.map WorkerPlan.smuName ∧ pair.2 ∈ included.map WorkerPlan.smuName

/-- `frozenset((name, other)) in conflict_pairs`. -/
def inConflict (pairs : List (String × String)) (name other : String) : Bool :=
  decide ((name, other) ∈ pairs ∨ (other, name) ∈ pairs)

section Steps

variable (pairs : List (String × String)) (workersByName : Dict String WorkerPlan)

/-- One step, after the workers of the earlier batches. -/
def executionStep (scheduledBefore : List String) (name : String) :
    Except KeyError ExecutionStep :=
  match workersByName.get? name with
  | some w => .ok ⟨name, w.groups, scheduledBefore.filter (inConflict pairs name)⟩
  | none => .error ⟨name⟩

/-- The loop over the batches. -/
def planSteps : List String → List (List String) → Except KeyError (List ExecutionStep)
  | _, [] => .ok []
  | scheduledBefore, batch :: batches => do
    let steps ← batch.mapM (executionStep pairs workersByName scheduledBefore)
    let more ← planSteps (scheduledBefore ++ batch) batches
    .ok (steps ++ more)

end Steps

/-- `build_execution_plan`. -/
def buildExecutionPlan (groups : Dict String BatteryGroup)
    (enabledWorkers : Option (List String)) : Except KeyError ExecutionPlan := do
  let graph := buildResourceGraph groups
  let included := graph.workers.filter fun w ↦ isSelected enabledWorkers w.smuName
  let excluded := (graph.workers.filter fun w ↦ !isSelected enabledWorkers w.smuName).map
    WorkerPlan.smuName
  let pairs := conflictPairs graph included
  let batches := firstFit (inConflict pairs) (included.map WorkerPlan.smuName)
  let workersByName := Dict.assign (included.map fun w ↦ (w.smuName, w)) Dict.empty
  let steps ← planSteps pairs workersByName [] batches
  .ok ⟨steps, batches, excluded⟩

/-! ## Conflicts -/

/-- Two workers depend on a resource of one name, the SMU role left out. -/
def SharesResource (groups : Dict String BatteryGroup) (w₁ w₂ : WorkerPlan) : Prop :=
  ∃ m, DependsOn groups w₁ m ∧ DependsOn groups w₂ m

theorem SharesResource.symm {groups : Dict String BatteryGroup} {w₁ w₂ : WorkerPlan}
    (h : SharesResource groups w₁ w₂) : SharesResource groups w₂ w₁ := by
  obtain ⟨m, h₁, h₂⟩ := h
  exact ⟨m, h₂, h₁⟩

theorem combinations_map {α β : Type*} (f : α → β) (l : List α) :
    combinations (l.map f) = (combinations l).map fun p ↦ (f p.1, f p.2) := by
  induction l with
  | nil => rfl
  | cons a l ih => simp [combinations, ih]

section Conflicts

variable {groups : Dict String BatteryGroup} {enabledWorkers : Option (List String)}
  {w₁ w₂ : WorkerPlan}

theorem eq_of_smuName_eq (h₁ : w₁ ∈ discoverWorkers groups) (h₂ : w₂ ∈ discoverWorkers groups)
    (h : w₁.smuName = w₂.smuName) : w₁ = w₂ :=
  List.inj_on_of_nodup_map (nodup_smuName_discoverWorkers groups) h₁ h₂ h

theorem mem_keys_conflicts {a b : String} :
    (a, b) ∈ (buildResourceGraph groups).conflicts.keys
      ↔ ∃ p ∈ combinations (discoverWorkers groups),
        p.1.smuName = a ∧ p.2.smuName = b ∧ SharesResource groups p.1 p.2 := by
  rw [buildResourceGraph, Dict.mem_keys_assign, List.mem_map]
  constructor
  · rintro (⟨c, hc, hab⟩ | h)
    · obtain ⟨q, hq, hnames, hshared, m, hm⟩ := mem_overlaps.mp hc
      rw [combinations_map, List.mem_map] at hq
      obtain ⟨p, hp, rfl⟩ := hq
      obtain ⟨rfl, rfl⟩ := Prod.mk.inj (hnames.symm.trans hab)
      rw [hshared, Finset.mem_inter] at hm
      obtain ⟨hmem₁, hmem₂⟩ := mem_of_mem_combinations hp
      exact ⟨p, hp, rfl, rfl, m, (mem_sharedDependencies hmem₁).mp hm.1,
        (mem_sharedDependencies hmem₂).mp hm.2⟩
    · exact absurd h List.not_mem_nil
  · rintro ⟨p, hp, rfl, rfl, m, hm₁, hm₂⟩
    obtain ⟨hmem₁, hmem₂⟩ := mem_of_mem_combinations hp
    have hm : m ∈ sharedDependencies (discoverTopology groups) p.1 ∩
        sharedDependencies (discoverTopology groups) p.2 :=
      Finset.mem_inter.mpr ⟨(mem_sharedDependencies hmem₁).mpr hm₁,
        (mem_sharedDependencies hmem₂).mpr hm₂⟩
    have hfilled := combinations_map (fun w : WorkerPlan ↦ { w with
      sharedDependencies := sharedDependencies (discoverTopology groups) w }) _ ▸
        List.mem_map_of_mem hp
    exact Or.inl ⟨(_, _), mem_overlaps.mpr ⟨_, hfilled, rfl, rfl, m, hm⟩, rfl⟩

/-- The names of the included workers. -/
def includedNames (groups : Dict String BatteryGroup) (enabledWorkers : Option (List String)) :
    List String :=
  ((discoverWorkers groups).filter fun w ↦ isSelected enabledWorkers w.smuName).map
    WorkerPlan.smuName

theorem mem_includedNames {name : String} :
    name ∈ includedNames groups enabledWorkers
      ↔ ∃ w ∈ discoverWorkers groups, w.smuName = name ∧ isSelected enabledWorkers name = true := by
  rw [includedNames, List.mem_map]
  constructor
  · rintro ⟨w, hw, rfl⟩
    obtain ⟨hmem, hsel⟩ := List.mem_filter.mp hw
    exact ⟨w, hmem, rfl, hsel⟩
  · rintro ⟨w, hmem, rfl, hsel⟩
    exact ⟨w, List.mem_filter.mpr ⟨hmem, hsel⟩, rfl⟩

theorem nodup_includedNames : (includedNames groups enabledWorkers).Nodup :=
  (nodup_smuName_discoverWorkers groups).sublist (List.filter_sublist.map _)

/-- The workers of the graph that are included. -/
def includedWorkers (groups : Dict String BatteryGroup) (enabledWorkers : Option (List String)) :
    List WorkerPlan :=
  (buildResourceGraph groups).workers.filter fun w ↦ isSelected enabledWorkers w.smuName

/-- The graph only fills in the dependencies. -/
theorem map_smuName_includedWorkers :
    (includedWorkers groups enabledWorkers).map WorkerPlan.smuName
      = includedNames groups enabledWorkers := by
  rw [includedWorkers, includedNames, buildResourceGraph, List.filter_map, List.map_map]
  rfl

/-- The conflicts the plan is made with. -/
def planConflicts (groups : Dict String BatteryGroup) (enabledWorkers : Option (List String)) :
    String → String → Bool :=
  inConflict (conflictPairs (buildResourceGraph groups) (includedWorkers groups enabledWorkers))

theorem planConflicts_comm (a b : String) :
    planConflicts groups enabledWorkers a b = planConflicts groups enabledWorkers b a := by
  simp only [planConflicts, inConflict, or_comm]

/-- **Two included workers are in conflict exactly when they share a resource.** -/
theorem planConflicts_iff (h₁ : w₁ ∈ discoverWorkers groups) (h₂ : w₂ ∈ discoverWorkers groups)
    (hsel₁ : isSelected enabledWorkers w₁.smuName = true)
    (hsel₂ : isSelected enabledWorkers w₂.smuName = true) (hne : w₁.smuName ≠ w₂.smuName) :
    planConflicts groups enabledWorkers w₁.smuName w₂.smuName = true
      ↔ SharesResource groups w₁ w₂ := by
  have hmem₁ := mem_includedNames.mpr ⟨w₁, h₁, rfl, hsel₁⟩
  have hmem₂ := mem_includedNames.mpr ⟨w₂, h₂, rfl, hsel₂⟩
  have hpair (a b : WorkerPlan) (ha : a ∈ discoverWorkers groups)
      (hb : b ∈ discoverWorkers groups)
      (h : (a.smuName, b.smuName) ∈ (buildResourceGraph groups).conflicts.keys) :
      SharesResource groups a b := by
    obtain ⟨p, hp, hpa, hpb, hshare⟩ := mem_keys_conflicts.mp h
    obtain ⟨hp₁, hp₂⟩ := mem_of_mem_combinations hp
    rwa [eq_of_smuName_eq hp₁ ha hpa, eq_of_smuName_eq hp₂ hb hpb] at hshare
  simp only [planConflicts, inConflict, conflictPairs, decide_eq_true_eq, List.mem_filter,
    map_smuName_includedWorkers, hmem₁, hmem₂, and_true]
  constructor
  · rintro (h | h)
    · exact hpair w₁ w₂ h₁ h₂ h
    · exact (hpair w₂ w₁ h₂ h₁ h).symm
  · intro hshare
    have hneq : w₁ ≠ w₂ := fun h ↦ hne (congrArg _ h)
    rcases mem_combinations_of_ne h₁ h₂ hneq with hp | hp
    · exact Or.inl (mem_keys_conflicts.mpr ⟨_, hp, rfl, rfl, hshare⟩)
    · exact Or.inr (mem_keys_conflicts.mpr ⟨_, hp, rfl, rfl, hshare.symm⟩)

end Conflicts

/-! ## The steps -/

section Steps

variable {pairs : List (String × String)} {workersByName : Dict String WorkerPlan}

/-- What one step holds, where the workers before it are given. -/
def IsStep (pairs : List (String × String)) (workersByName : Dict String WorkerPlan)
    (scheduledBefore : List String) (s : ExecutionStep) : Prop :=
  (∃ w, workersByName.get? s.smuName = some w ∧ s.groups = w.groups) ∧
    s.dependsOn = scheduledBefore.filter (inConflict pairs s.smuName)

theorem mapM_executionStep (pairs : List (String × String)) (before : List String)
    {names : List String} (h : ∀ name ∈ names, ∃ w, workersByName.get? name = some w) :
    ∃ steps, names.mapM (executionStep pairs workersByName before) = .ok steps ∧
      steps.map ExecutionStep.smuName = names ∧
      ∀ s ∈ steps, IsStep pairs workersByName before s := by
  induction names with
  | nil => exact ⟨[], rfl, rfl, fun _ hs ↦ absurd hs List.not_mem_nil⟩
  | cons name names ih =>
    obtain ⟨⟨w, hw⟩, hnames⟩ := List.forall_mem_cons.mp h
    obtain ⟨steps, hsteps, hmap, hall⟩ := ih hnames
    refine ⟨⟨name, w.groups, before.filter (inConflict pairs name)⟩ :: steps, ?_, ?_, ?_⟩
    · rw [List.mapM_cons, hsteps, executionStep, hw]
      rfl
    · rw [List.map_cons, hmap]
    · exact List.forall_mem_cons.mpr ⟨⟨⟨w, hw, rfl⟩, rfl⟩, hall⟩

/-- **The steps follow the batches.** Each is made with the workers of the batches before its
own. -/
theorem planSteps_spec (pairs : List (String × String)) {batches : List (List String)}
    (h : ∀ name ∈ batches.flatten, ∃ w, workersByName.get? name = some w) (before : List String) :
    ∃ steps, planSteps pairs workersByName before batches = .ok steps ∧
      steps.map ExecutionStep.smuName = batches.flatten ∧
        ∀ s ∈ steps, ∃ k, InBatch batches k s.smuName ∧
          IsStep pairs workersByName (before ++ (batches.take k).flatten) s := by
  induction batches generalizing before with
  | nil => exact ⟨[], rfl, rfl, fun _ hs ↦ absurd hs List.not_mem_nil⟩
  | cons batch batches ih =>
    rw [List.flatten_cons] at h
    obtain ⟨steps, hsteps, hmap, hall⟩ := mapM_executionStep pairs before fun name hname ↦
      h name (List.mem_append_left _ hname)
    obtain ⟨more, hmore, hmap', hall'⟩ :=
      ih (fun name hname ↦ h name (List.mem_append_right _ hname)) (before ++ batch)
    refine ⟨steps ++ more, ?_, ?_, fun s hs ↦ ?_⟩
    · rw [planSteps, hsteps]
      exact congrArg (· >>= fun more ↦ Except.ok (steps ++ more)) hmore
    · rw [List.map_append, hmap, hmap', List.flatten_cons]
    · rcases List.mem_append.mp hs with hs | hs
      · have hname : s.smuName ∈ batch := hmap ▸ List.mem_map_of_mem hs
        exact ⟨0, inBatch_zero.mpr hname, by simpa using hall s hs⟩
      · obtain ⟨k, hk, hstep⟩ := hall' s hs
        exact ⟨k + 1, inBatch_succ.mpr hk, by simpa [List.append_assoc] using hstep⟩

end Steps

/-! ## What a plan is -/

/-- The plan of a selection of workers: batches that can run at once, each no earlier than the
conflicts of its workers force, and steps that wait for exactly these conflicts. -/
structure IsPlan (groups : Dict String BatteryGroup) (enabledWorkers : Option (List String))
    (plan : ExecutionPlan) : Prop where
  /-- The batches partition the included workers. -/
  partition : plan.parallelBatches.flatten.Perm (includedNames groups enabledWorkers)
  nonempty : ∀ batch ∈ plan.parallelBatches, batch ≠ []
  /-- No two workers of a batch share a resource. -/
  compatible : ∀ batch ∈ plan.parallelBatches, ∀ w₁ ∈ discoverWorkers groups,
    ∀ w₂ ∈ discoverWorkers groups, w₁.smuName ∈ batch → w₂.smuName ∈ batch →
      w₁.smuName ≠ w₂.smuName → ¬SharesResource groups w₁ w₂
  /-- Every worker shares a resource with one of each earlier batch. -/
  blocked : ∀ w ∈ discoverWorkers groups, ∀ k, InBatch plan.parallelBatches k w.smuName →
    ∀ j < k, ∃ v ∈ discoverWorkers groups, InBatch plan.parallelBatches j v.smuName ∧
      SharesResource groups w v
  /-- The steps are the workers of the batches in order, each once. -/
  order : plan.steps.map ExecutionStep.smuName = plan.parallelBatches.flatten
  once : (plan.steps.map ExecutionStep.smuName).Nodup
  /-- A step is a worker with its own groups. -/
  own : ∀ s ∈ plan.steps, ∃ w ∈ discoverWorkers groups, w.smuName = s.smuName ∧
    s.groups = w.groups
  /-- A step waits for exactly the workers of earlier batches it shares a resource with. -/
  waits : ∀ s ∈ plan.steps, ∀ w ∈ discoverWorkers groups, w.smuName = s.smuName →
    ∀ k, InBatch plan.parallelBatches k s.smuName → s.dependsOn.Nodup ∧
      ∀ other, other ∈ s.dependsOn ↔ ∃ v ∈ discoverWorkers groups, v.smuName = other ∧
        (∃ j < k, InBatch plan.parallelBatches j other) ∧ SharesResource groups w v
  /-- The included and the excluded workers are the discovered ones. -/
  complete : (plan.parallelBatches.flatten ++ plan.excludedWorkers).Perm
    ((discoverWorkers groups).map WorkerPlan.smuName)
  /-- Each enabled group with an SMU is in one worker, and there once. -/
  covered : ∀ name grp, groups.get? name = some grp → grp.enabled = true → grp.smu.isSome = true →
    ∃ w ∈ discoverWorkers groups, w.groups.count name = 1 ∧
      ∀ v ∈ discoverWorkers groups, name ∈ v.groups → v = w

theorem exists_worker_of_group {groups : Dict String BatteryGroup} {name : String}
    {grp : BatteryGroup} (hgrp : groups.get? name = some grp) (henabled : grp.enabled = true)
    (hsmu : grp.smu.isSome = true) :
    ∃ w ∈ discoverWorkers groups, w.groups.count name = 1 ∧
      ∀ v ∈ discoverWorkers groups, name ∈ v.groups → v = w := by
  obtain ⟨smu, hsmu⟩ := Option.isSome_iff_exists.mp hsmu
  obtain ⟨w, hw, rfl⟩ :=
    exists_mem_discoverWorkers (mem_workerEntries.mpr ⟨grp, hgrp, henabled, hsmu⟩)
  have hmem := (mem_groups_of_mem_discoverWorkers hw).mpr ⟨grp, hgrp, henabled, hsmu⟩
  refine ⟨w, hw, List.count_eq_one_of_mem (nodup_groups_of_mem_discoverWorkers hw) hmem,
    fun v hv hname ↦ eq_of_smuName_eq hv hw ?_⟩
  obtain ⟨grp', hgrp', -, hsmu'⟩ := (mem_groups_of_mem_discoverWorkers hv).mp hname
  obtain rfl := Option.some.inj (hgrp.symm.trans hgrp')
  exact Option.some.inj (hsmu'.symm.trans hsmu)

/-! ## The batches -/

section Batches

variable {groups : Dict String BatteryGroup} {enabledWorkers : Option (List String)}
  {w v : WorkerPlan} {j k : ℕ}

/-- The batches of the plan. -/
def planBatches (groups : Dict String BatteryGroup) (enabledWorkers : Option (List String)) :
    List (List String) :=
  firstFit (planConflicts groups enabledWorkers) (includedNames groups enabledWorkers)

theorem exists_colour (groups : Dict String BatteryGroup)
    (enabledWorkers : Option (List String)) :
    ∃ colour, IsFirstFit (planConflicts groups enabledWorkers) colour
        (includedNames groups enabledWorkers) ∧
      ∀ k name, InBatch (planBatches groups enabledWorkers) k name
        ↔ name ∈ includedNames groups enabledWorkers ∧ colour name = k := by
  have hnodup : (includedNames groups enabledWorkers).Nodup := nodup_includedNames
  obtain ⟨colour, hcolour⟩ := exists_isFirstFit (planConflicts groups enabledWorkers) hnodup
  exact ⟨colour, hcolour, fun _ _ ↦ hcolour.inBatch_iff⟩

theorem exists_of_inBatch {name : String}
    (h : InBatch (planBatches groups enabledWorkers) k name) :
    ∃ w ∈ discoverWorkers groups, w.smuName = name ∧ isSelected enabledWorkers name = true := by
  obtain ⟨colour, -, hin⟩ := exists_colour groups enabledWorkers
  exact mem_includedNames.mp ((hin k name).mp h).1

theorem inBatch_unique {name : String} (hj : InBatch (planBatches groups enabledWorkers) j name)
    (hk : InBatch (planBatches groups enabledWorkers) k name) : j = k := by
  obtain ⟨colour, -, hin⟩ := exists_colour groups enabledWorkers
  exact ((hin j name).mp hj).2.symm.trans ((hin k name).mp hk).2

theorem planConflicts_iff_of_inBatch (hw : w ∈ discoverWorkers groups)
    (hv : v ∈ discoverWorkers groups)
    (hk : InBatch (planBatches groups enabledWorkers) k w.smuName)
    (hj : InBatch (planBatches groups enabledWorkers) j v.smuName)
    (hne : w.smuName ≠ v.smuName) :
    planConflicts groups enabledWorkers w.smuName v.smuName = true ↔ SharesResource groups w v := by
  obtain ⟨-, -, -, hwsel⟩ := exists_of_inBatch hk
  obtain ⟨-, -, -, hvsel⟩ := exists_of_inBatch hj
  exact planConflicts_iff hw hv hwsel hvsel hne

/-- **Within a batch no resource is shared.** -/
theorem not_sharesResource_of_inBatch (hw : w ∈ discoverWorkers groups)
    (hv : v ∈ discoverWorkers groups)
    (hwk : InBatch (planBatches groups enabledWorkers) k w.smuName)
    (hvk : InBatch (planBatches groups enabledWorkers) k v.smuName)
    (hne : w.smuName ≠ v.smuName) : ¬SharesResource groups w v := by
  obtain ⟨colour, hcolour, hin⟩ := exists_colour groups enabledWorkers
  obtain ⟨hwname, hwcolour⟩ := (hin _ _).mp hwk
  obtain ⟨hvname, hvcolour⟩ := (hin _ _).mp hvk
  have hfree := hcolour.eq_false planConflicts_comm hwname hvname hne
    (hwcolour.trans hvcolour.symm)
  intro hshare
  rw [(planConflicts_iff_of_inBatch hw hv hwk hvk hne).mpr hshare] at hfree
  exact Bool.noConfusion hfree

/-- **No worker could be in an earlier batch.** Each of these has one it shares a resource
with. -/
theorem exists_sharesResource_of_lt (hw : w ∈ discoverWorkers groups)
    (hk : InBatch (planBatches groups enabledWorkers) k w.smuName) (hj : j < k) :
    ∃ v ∈ discoverWorkers groups, InBatch (planBatches groups enabledWorkers) j v.smuName ∧
      SharesResource groups w v := by
  obtain ⟨colour, hcolour, hin⟩ := exists_colour groups enabledWorkers
  obtain ⟨hwname, rfl⟩ := (hin _ _).mp hk
  obtain ⟨name, hname, rfl, hconflict⟩ := hcolour.exists_conflict hwname hj
  have hjv := (hin _ _).mpr ⟨hname, rfl⟩
  obtain ⟨v, hv, rfl, -⟩ := exists_of_inBatch hjv
  refine ⟨v, hv, hjv, (planConflicts_iff_of_inBatch hw hv hk hjv fun hsame ↦ ?_).mp hconflict⟩
  rw [hsame] at hj
  exact absurd hj (Nat.lt_irrefl _)

/-- **What a worker waits for.** -/
theorem mem_filter_planConflicts (hw : w ∈ discoverWorkers groups)
    (hk : InBatch (planBatches groups enabledWorkers) k w.smuName) {other : String} :
    other ∈ ((planBatches groups enabledWorkers).take k).flatten.filter
        (planConflicts groups enabledWorkers w.smuName)
      ↔ ∃ v ∈ discoverWorkers groups, v.smuName = other ∧
        (∃ j < k, InBatch (planBatches groups enabledWorkers) j other) ∧
          SharesResource groups w v := by
  have hconflict {v : WorkerPlan} (hv : v ∈ discoverWorkers groups) {j : ℕ} (hj : j < k)
      (hin : InBatch (planBatches groups enabledWorkers) j v.smuName) :
      planConflicts groups enabledWorkers w.smuName v.smuName = true
        ↔ SharesResource groups w v := by
    refine planConflicts_iff_of_inBatch hw hv hk hin fun hsame ↦ ?_
    rw [← hsame] at hin
    exact absurd (inBatch_unique hin hk) (Nat.ne_of_lt hj)
  rw [List.mem_filter, mem_flatten_take]
  constructor
  · rintro ⟨⟨j, hj, hin⟩, hother⟩
    obtain ⟨v, hv, rfl, -⟩ := exists_of_inBatch hin
    exact ⟨v, hv, rfl, ⟨j, hj, hin⟩, (hconflict hv hj hin).mp hother⟩
  · rintro ⟨v, hv, rfl, ⟨j, hj, hin⟩, hshare⟩
    exact ⟨⟨j, hj, hin⟩, (hconflict hv hj hin).mpr hshare⟩

/-! ## The plan -/

/-- The workers that are left out. -/
def excludedNames (groups : Dict String BatteryGroup) (enabledWorkers : Option (List String)) :
    List String :=
  ((buildResourceGraph groups).workers.filter fun w ↦
    !isSelected enabledWorkers w.smuName).map WorkerPlan.smuName

theorem perm_excludedNames : (includedNames groups enabledWorkers ++
    excludedNames groups enabledWorkers).Perm
      ((discoverWorkers groups).map WorkerPlan.smuName) := by
  rw [includedNames, excludedNames, buildResourceGraph, List.filter_map, List.map_map,
    Function.comp_def, Function.comp_def, ← List.map_append]
  exact (List.filter_append_perm _ _).map _

/-- The included workers by their name. -/
def workersByName (groups : Dict String BatteryGroup) (enabledWorkers : Option (List String)) :
    Dict String WorkerPlan :=
  Dict.assign ((includedWorkers groups enabledWorkers).map fun w ↦ (w.smuName, w)) Dict.empty

theorem get?_workersByName {name : String} (h : name ∈ includedNames groups enabledWorkers) :
    ∃ w, (workersByName groups enabledWorkers).get? name = some w ∧
      ∃ v ∈ discoverWorkers groups, v.smuName = name ∧ w.groups = v.groups := by
  rw [← map_smuName_includedWorkers] at h
  obtain ⟨w, hw, rfl⟩ := List.mem_map.mp h
  have hnodup : ((includedWorkers groups enabledWorkers).map WorkerPlan.smuName).Nodup :=
    map_smuName_includedWorkers ▸ nodup_includedNames
  refine ⟨w, Dict.get?_assign (List.mem_map_of_mem hw) fun w' hw' ↦ ?_, ?_⟩
  · obtain ⟨u, hu, heq⟩ := List.mem_map.mp hw'
    obtain ⟨hname, rfl⟩ := Prod.mk.inj heq
    exact List.inj_on_of_nodup_map hnodup hu hw hname
  · obtain ⟨v, hv, rfl⟩ := List.mem_map.mp (List.mem_filter.mp hw).1
    exact ⟨v, hv, rfl, rfl⟩

theorem buildExecutionPlan_eq : buildExecutionPlan groups enabledWorkers =
    planSteps (conflictPairs (buildResourceGraph groups) (includedWorkers groups enabledWorkers))
        (workersByName groups enabledWorkers) [] (planBatches groups enabledWorkers) >>=
      fun steps ↦ .ok
        ⟨steps, planBatches groups enabledWorkers, excludedNames groups enabledWorkers⟩ := by
  rw [planBatches, ← map_smuName_includedWorkers]
  rfl

end Batches

theorem exists_buildExecutionPlan (groups : Dict String BatteryGroup)
    (enabledWorkers : Option (List String)) :
    ∃ plan, buildExecutionPlan groups enabledWorkers = .ok plan ∧
      plan.parallelBatches = planBatches groups enabledWorkers ∧
        IsPlan groups enabledWorkers plan := by
  have hperm : (planBatches groups enabledWorkers).flatten.Perm
      (includedNames groups enabledWorkers) := flatten_firstFit _ _
  obtain ⟨steps, hsteps, horder, hall⟩ := planSteps_spec
    (conflictPairs (buildResourceGraph groups) (includedWorkers groups enabledWorkers))
    (fun name hname ↦ (get?_workersByName (hperm.mem_iff.mp hname)).imp fun _ h ↦ h.1) []
  refine ⟨⟨steps, planBatches groups enabledWorkers, excludedNames groups enabledWorkers⟩, ?_, rfl,
    ?_⟩
  · rw [buildExecutionPlan_eq, hsteps]
    rfl
  -- the batches are those of the first fit, the steps are one for each name in them
  · exact {
      partition := hperm
      nonempty := fun batch hbatch ↦ ne_nil_of_mem_firstFit hbatch
      compatible := fun batch hbatch w hw v hv hwin hvin hne ↦ by
        obtain ⟨k, hk⟩ := List.mem_iff_getElem?.mp hbatch
        exact not_sharesResource_of_inBatch hw hv ⟨batch, hk, hwin⟩ ⟨batch, hk, hvin⟩ hne
      blocked := fun w hw k hk j hj ↦ exists_sharesResource_of_lt hw hk hj
      order := horder
      once := horder ▸ hperm.nodup_iff.mpr nodup_includedNames
      own := fun s hs ↦ by
        obtain ⟨k, hk, ⟨w, hget, hgroups⟩, -⟩ := hall s hs
        have hname := hperm.mem_iff.mp (exists_inBatch_iff.mp ⟨k, hk⟩)
        obtain ⟨w', hget', v, hv, hsame, hown⟩ := get?_workersByName hname
        obtain rfl := Option.some.inj (hget.symm.trans hget')
        exact ⟨v, hv, hsame, hgroups.trans hown⟩
      waits := fun s hs w hw hsame k hk ↦ by
        obtain ⟨i, hi, -, hdepends⟩ := hall s hs
        obtain rfl := inBatch_unique hi hk
        rw [hdepends, ← hsame]
        rw [← hsame] at hi
        refine ⟨List.Nodup.filter _ ?_, fun other ↦ mem_filter_planConflicts hw hi⟩
        have hnodup := hperm.nodup_iff.mpr nodup_includedNames
        rw [← List.take_append_drop i (planBatches groups enabledWorkers),
          List.flatten_append] at hnodup
        exact hnodup.of_append_left
      complete := (hperm.append_right _).trans perm_excludedNames
      covered := fun _ _ hgrp henabled hsmu ↦ exists_worker_of_group hgrp henabled hsmu }

/-- **The plan of every configuration and selection.** -/
theorem buildExecutionPlan_isPlan (groups : Dict String BatteryGroup)
    (enabledWorkers : Option (List String)) :
    ∃ plan, buildExecutionPlan groups enabledWorkers = .ok plan ∧
      IsPlan groups enabledWorkers plan := by
  obtain ⟨plan, hplan, -, hspec⟩ := exists_buildExecutionPlan groups enabledWorkers
  exact ⟨plan, hplan, hspec⟩

end Nipxi
