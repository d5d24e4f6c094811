import Nipxi.Orchestration.Discovery

/-!
# Resource ownership

`orchestration/resource_ownership.py`: the startup gate that rejects a set of groups if running
them concurrently would make two workers share a physical resource. A whole relay matrix is the
unit of ownership.

The check has two independent mechanisms. The resource graph compares what the groups *declare*
(position matrix, DMM, DAQs); a second loop compares the sense-routing matrices, which a group
reaches through its sense channel and the routing table. `ownershipReport_ok_iff` says exactly
what the two reject, and `acceptsOnlyOneOwner_iff` what that leaves open: a matrix that is
declared by one worker and reached through the routing table by another is seen by neither.
-/

open Collections

namespace Nipxi

theorem eq_ok_of_toOption {ε α : Type*} {x : Except ε α} {a : α} (h : x.toOption = some a) :
    x = .ok a := by
  cases x with
  | error e => cases h
  | ok b => exact congrArg _ (Option.some.inj h)

theorem exists_of_except_bind_eq_ok {ε α β : Type} {x : Except ε α} {f : α → Except ε β} {b : β}
    (h : (x >>= f) = .ok b) : ∃ a, x = .ok a ∧ f a = .ok b := by
  cases x with
  | error e => cases h
  | ok a => exact ⟨a, rfl, h⟩

/-! ## The check -/

/-- One entry of `SENSE_ROUTING`. -/
structure SenseRoute where
  /-- `route["relay_matrix"]`. -/
  relayMatrix : String
  /-- `route["relay"]`. -/
  relay : ℕ
  deriving DecidableEq, Repr

/-- `SENSE_ROUTING`, by sense channel. -/
abbrev SenseRouting := Dict ℤ SenseRoute

/-- A requested name that is not in the configuration. -/
structure KeyError where
  /-- The missing key. -/
  key : String
  deriving DecidableEq, Repr

/-- `{name: groups[name] for name in group_names}`, onto a dictionary already begun. -/
def requestGroups (groups : Dict String BatteryGroup) :
    List String → Dict String BatteryGroup → Except KeyError (Dict String BatteryGroup)
  | [], requested => .ok requested
  | name :: names, requested =>
    match groups.get? name with
    | some grp => requestGroups groups names (requested.insert name grp)
    | none => .error ⟨name⟩

theorem get?_requestGroups {groups : Dict String BatteryGroup} {names : List String}
    {begun requested : Dict String BatteryGroup}
    (h : requestGroups groups names begun = .ok requested) {name : String} :
    requested.get? name = if name ∈ names then groups.get? name else begun.get? name := by
  induction names generalizing begun with
  | nil =>
    obtain rfl := Except.ok.inj h
    simp
  | cons first names ih =>
    rw [requestGroups] at h
    split at h
    · next grp hgrp =>
      rw [ih h, Dict.get?_insert]
      by_cases hmem : name ∈ names
      · simp [hmem]
      · by_cases hname : name = first
        · simp [hname, hgrp]
        · simp [hmem, hname]
    · cases h

/-- The matrix a group's sense channel is routed through. -/
def BatteryGroup.senseMatrix (routing : SenseRouting) (grp : BatteryGroup) : Option String :=
  grp.senseChannel.bind fun channel ↦ (routing.get? channel).map SenseRoute.relayMatrix

/-- The entries of `_sense_routing_usage`. -/
def senseRoutingEntries (routing : SenseRouting) (requested : Dict String BatteryGroup) :
    List (ResourceKey × String) :=
  requested.items.filterMap fun g ↦
    (g.2.senseMatrix routing).map fun m ↦ (⟨.senseRelayMatrixName, m⟩, g.1)

/-- `_sense_routing_usage`. Unlike topology discovery it does not ask whether a group is
enabled. -/
def senseRoutingUsage (routing : SenseRouting) (requested : Dict String BatteryGroup) : Usage :=
  addUsers (senseRoutingEntries routing requested) Dict.empty

/-- The loop `usage.setdefault(key, set()).update(names)`. -/
def updateUsers (l : List (ResourceKey × Finset String)) (usage : Usage) : Usage :=
  Dict.collect ∅ (fun names more ↦ names ∪ more) l usage

theorem mem_users_updateUsers {l : List (ResourceKey × Finset String)} {usage : Usage}
    {key : ResourceKey} {name : String} :
    name ∈ users (updateUsers l usage) key
      ↔ (∃ names, (key, names) ∈ l ∧ name ∈ names) ∨ name ∈ users usage key :=
  Dict.mem_collect_union l usage key name

/-- The combined usage map of the check: declared resources and sense-routing matrices. -/
def ownershipUsage (routing : SenseRouting) (requested : Dict String BatteryGroup) : Usage :=
  updateUsers (senseRoutingUsage routing requested).items (discoverTopology requested)

/-- The conflicts taken over from the resource graph: for each name two workers share, every
non-SMU resource of that name. A Python set is iterated in no particular order; here it is
iterated in increasing order. -/
def graphConflicts (usage : Usage) (graph : ResourceGraph) :
    List (ResourceKey × Finset String) :=
  graph.conflicts.items.flatMap fun c ↦
    (c.2.sort (· ≤ ·)).flatMap fun m ↦
      usage.items.filter fun u ↦ u.1.resourceName = m ∧ u.1.role ≠ .smuName

/-- The sense-routing matrices of a worker's own groups. -/
def senseMatrices (usage : Usage) (w : WorkerPlan) : Finset String :=
  ((usage.items.filter fun u ↦
    u.1.role = .senseRelayMatrixName ∧ (u.2 ∩ w.groups.toFinset).Nonempty).map
      (·.1.resourceName)).toFinset

/-- `sense_by_worker`, as the pairs of a worker's SMU and its sense-routing matrices; no SMU
anchors two workers. -/
def senseByWorker (usage : Usage) (workers : List WorkerPlan) : List (String × Finset String) :=
  workers.map fun w ↦ (w.smuName, senseMatrices usage w)

/-- The conflicts of the second mechanism: the sense-routing matrices two workers share. -/
def senseConflicts (usage : Usage) (byWorker : List (String × Finset String)) :
    List (ResourceKey × Finset String) :=
  (combinations byWorker).flatMap fun p ↦
    ((p.1.2 ∩ p.2.2).sort (· ≤ ·)).map fun m ↦
      (⟨.senseRelayMatrixName, m⟩, users usage ⟨.senseRelayMatrixName, m⟩)

/-- `ResourceOwnershipReport`. -/
structure ResourceOwnershipReport where
  /-- Who uses which resource. -/
  usage : Usage
  /-- The resources shared across two workers, with every group that uses them. -/
  conflicts : Usage

/-- `ResourceOwnershipReport.ok`: no conflicts. -/
def ResourceOwnershipReport.ok (report : ResourceOwnershipReport) : Bool :=
  report.conflicts.items.isEmpty

/-- The report on an already resolved set of groups. -/
def ownershipReport (routing : SenseRouting) (requested : Dict String BatteryGroup) :
    ResourceOwnershipReport :=
  let usage := ownershipUsage routing requested
  let graph := buildResourceGraph requested
  let conflicts := updateUsers (graphConflicts usage graph) Dict.empty
  let byWorker := senseByWorker usage (discoverWorkers requested)
  ⟨usage, updateUsers (senseConflicts usage byWorker) conflicts⟩

/-- `check_ownership`. -/
def checkOwnership (routing : SenseRouting) (groupNames : List String)
    (groups : Dict String BatteryGroup) : Except KeyError ResourceOwnershipReport :=
  match requestGroups groups groupNames Dict.empty with
  | .ok requested => .ok (ownershipReport routing requested)
  | .error e => .error e

/-- What `ResourceOwnershipValidator.validate` can raise. -/
inductive OwnershipError where
  | keyError (e : KeyError)
  | resourceOwnershipConflict (conflicts : Usage)

/-- `ResourceOwnershipValidator.validate`. -/
def validate (routing : SenseRouting) (groupNames : List String)
    (groups : Dict String BatteryGroup) : Except OwnershipError ResourceOwnershipReport :=
  match checkOwnership routing groupNames groups with
  | .error e => .error (.keyError e)
  | .ok report =>
    if report.ok then .ok report else .error (.resourceOwnershipConflict report.conflicts)

/-! ## What the two mechanisms reject -/

section Requested

variable {routing : SenseRouting} {requested : Dict String BatteryGroup}

/-- A group of worker `w` has `m` as its position-control matrix. -/
def ControlsWith (requested : Dict String BatteryGroup) (w : WorkerPlan) (m : String) : Prop :=
  ∃ name ∈ w.groups, ∃ grp, requested.get? name = some grp ∧ grp.relayMatrix = some m

/-- A group of worker `w` has its sense channel routed through `m`. -/
def SensesWith (routing : SenseRouting) (requested : Dict String BatteryGroup) (w : WorkerPlan)
    (m : String) : Prop :=
  ∃ name ∈ w.groups, ∃ grp, requested.get? name = some grp ∧ grp.senseMatrix routing = some m

/-- Two different workers sense through one matrix. -/
def SharesSenseMatrix (routing : SenseRouting) (requested : Dict String BatteryGroup) : Prop :=
  ∃ w₁ ∈ discoverWorkers requested, ∃ w₂ ∈ discoverWorkers requested,
    w₁.smuName ≠ w₂.smuName ∧ ∃ m, SensesWith routing requested w₁ m ∧
      SensesWith routing requested w₂ m

/-- A position-control matrix is among the dependencies the graph compares. -/
theorem ControlsWith.dependsOn {w : WorkerPlan} {m : String} (h : ControlsWith requested w m) :
    DependsOn requested w m := by
  obtain ⟨name, hname, grp, hget, hm⟩ := h
  exact ⟨name, hname, grp, hget, ⟨.relayMatrixName, m⟩,
    BatteryGroup.relayMatrix_mem_resources hm, nofun, rfl⟩

theorem mem_senseRoutingUsage {key : ResourceKey} {name : String} :
    name ∈ users (senseRoutingUsage routing requested) key
      ↔ key.role = .senseRelayMatrixName ∧
        ∃ grp, requested.get? name = some grp ∧
          grp.senseMatrix routing = some key.resourceName := by
  rw [senseRoutingUsage, mem_users_addUsers, senseRoutingEntries, List.mem_filterMap]
  constructor
  · rintro (⟨⟨n, grp⟩, hg, hmap⟩ | hempty)
    · obtain ⟨m, hm, heq⟩ := Option.map_eq_some_iff.mp hmap
      obtain ⟨rfl, rfl⟩ := Prod.mk.injEq .. ▸ heq
      exact ⟨rfl, grp, Dict.mem_items_iff.mp hg, hm⟩
    · simp [users] at hempty
  · rintro ⟨hrole, grp, hget, hm⟩
    refine Or.inl ⟨(name, grp), Dict.mem_items_iff.mpr hget, ?_⟩
    rw [hm, Option.map_some, ← hrole]

theorem mem_ownershipUsage {key : ResourceKey} {name : String} :
    name ∈ users (ownershipUsage routing requested) key
      ↔ name ∈ users (senseRoutingUsage routing requested) key ∨
        name ∈ users (discoverTopology requested) key := by
  rw [ownershipUsage, mem_users_updateUsers]
  refine or_congr_left ⟨?_, fun h ↦ ?_⟩
  · rintro ⟨names, hn, hmem⟩
    rw [users, Dict.mem_items_iff.mp hn]
    exact hmem
  · cases hg : (senseRoutingUsage routing requested).get? key with
    | none => simp [users, hg] at h
    | some names => exact ⟨names, Dict.mem_items_iff.mpr hg, by simpa [users, hg] using h⟩

/-- Under the sense role only the routing table counts: no group declares that role. -/
theorem mem_ownershipUsage_sense {m name : String} :
    name ∈ users (ownershipUsage routing requested) ⟨.senseRelayMatrixName, m⟩
      ↔ ∃ grp, requested.get? name = some grp ∧ grp.senseMatrix routing = some m := by
  rw [mem_ownershipUsage, mem_senseRoutingUsage, mem_discoverTopology]
  constructor
  · rintro (⟨-, h⟩ | ⟨grp, -, -, hkey⟩)
    · exact h
    · exact absurd rfl (BatteryGroup.role_ne_sense hkey)
  · exact fun h ↦ Or.inl ⟨rfl, h⟩

/-- **The sense matrices of a worker are those its groups are routed through.** -/
theorem mem_senseMatrices {w : WorkerPlan} {m : String} :
    m ∈ senseMatrices (ownershipUsage routing requested) w ↔ SensesWith routing requested w m := by
  rw [senseMatrices, List.mem_toFinset, List.mem_map]
  constructor
  · rintro ⟨⟨⟨role, m'⟩, names⟩, hu, rfl⟩
    obtain ⟨hitem, hrole, name, hname⟩ := by simpa using hu
    obtain rfl : role = .senseRelayMatrixName := hrole
    have huse : name ∈ users (ownershipUsage routing requested) ⟨.senseRelayMatrixName, m'⟩ := by
      rw [users, Dict.mem_items_iff.mp hitem]
      exact (Finset.mem_inter.mp hname).1
    obtain ⟨grp, hget, hm⟩ := mem_ownershipUsage_sense.mp huse
    exact ⟨name, List.mem_toFinset.mp (Finset.mem_inter.mp hname).2, grp, hget, hm⟩
  · rintro ⟨name, hname, grp, hget, hm⟩
    have huse := mem_ownershipUsage_sense.mpr ⟨grp, hget, hm⟩
    cases hg : (ownershipUsage routing requested).get? ⟨.senseRelayMatrixName, m⟩ with
    | none => simp [users, hg] at huse
    | some names =>
      have hin : name ∈ names ∩ w.groups.toFinset :=
        Finset.mem_inter.mpr ⟨by simpa [users, hg] using huse, List.mem_toFinset.mpr hname⟩
      refine ⟨(_, names), List.mem_filter.mpr ⟨Dict.mem_items_iff.mpr hg, ?_⟩, rfl⟩
      exact decide_eq_true ⟨rfl, name, hin⟩

theorem mem_graphConflicts {usage : Usage} {graph : ResourceGraph}
    {u : ResourceKey × Finset String} :
    u ∈ graphConflicts usage graph
      ↔ (∃ c ∈ graph.conflicts.items, u.1.resourceName ∈ c.2) ∧ u ∈ usage.items ∧
        u.1.role ≠ .smuName := by
  simp only [graphConflicts, List.mem_flatMap, Finset.mem_sort, List.mem_filter,
    decide_eq_true_eq]
  constructor
  · rintro ⟨c, hc, m, hm, hu, rfl, hrole⟩
    exact ⟨⟨c, hc, hm⟩, hu, hrole⟩
  · rintro ⟨⟨c, hc, hm⟩, hu, hrole⟩
    exact ⟨c, hc, _, hm, hu, rfl, hrole⟩

/-- The graph's part of the conflicts is empty exactly when no two workers depend on resources
of one name. -/
theorem graphConflicts_eq_nil_iff :
    graphConflicts (ownershipUsage routing requested) (buildResourceGraph requested) = []
      ↔ ¬SharesDependency requested := by
  rw [List.eq_nil_iff_forall_not_mem]
  constructor
  · rintro hnil ⟨w₁, hw₁, w₂, hw₂, hne, m, h₁, h₂⟩
    obtain ⟨c, hc, hm⟩ := exists_mem_conflicts hw₁ hw₂ hne h₁ h₂
    obtain ⟨name, hname, grp, hget, key, hkey, hrole, rfl⟩ := h₁
    obtain ⟨grp', hget', henabled, -⟩ := (mem_groups_of_mem_discoverWorkers hw₁).mp hname
    obtain rfl : grp' = grp := Option.some.inj (hget'.symm.trans hget)
    have huse : name ∈ users (ownershipUsage routing requested) key :=
      mem_ownershipUsage.mpr (Or.inr (mem_discoverTopology.mpr ⟨grp', hget, henabled, hkey⟩))
    cases hg : (ownershipUsage routing requested).get? key with
    | none => simp [users, hg] at huse
    | some names =>
      exact hnil _ (mem_graphConflicts.mpr ⟨⟨c, hc, hm⟩, Dict.mem_items_iff.mpr hg, hrole⟩)
  · intro hno u hu
    obtain ⟨⟨c, hc, hm⟩, -, -⟩ := mem_graphConflicts.mp hu
    obtain ⟨-, w₁, hw₁, w₂, hw₂, hne, hdep⟩ := dependsOn_of_mem_conflicts hc
    exact hno ⟨w₁, hw₁, w₂, hw₂, hne, _, hdep _ hm⟩

/-- The second mechanism lists every matrix two workers sense through, with all its users. -/
theorem mem_senseConflicts {u : ResourceKey × Finset String} :
    u ∈ senseConflicts (ownershipUsage routing requested)
        (senseByWorker (ownershipUsage routing requested) (discoverWorkers requested))
      ↔ ∃ w₁ ∈ discoverWorkers requested, ∃ w₂ ∈ discoverWorkers requested,
        w₁.smuName ≠ w₂.smuName ∧ ∃ m, SensesWith routing requested w₁ m ∧
          SensesWith routing requested w₂ m ∧ (⟨.senseRelayMatrixName, m⟩,
            users (ownershipUsage routing requested) ⟨.senseRelayMatrixName, m⟩) = u := by
  set usage := ownershipUsage routing requested with husage
  have hnd : ((senseByWorker usage (discoverWorkers requested)).map Prod.fst).Nodup := by
    rw [senseByWorker, List.map_map]
    exact nodup_smuName_discoverWorkers requested
  have hentry : u ∈ senseConflicts usage (senseByWorker usage (discoverWorkers requested))
      ↔ ∃ p ∈ combinations (senseByWorker usage (discoverWorkers requested)),
        ∃ m ∈ p.1.2 ∩ p.2.2, (⟨.senseRelayMatrixName, m⟩,
          users usage ⟨.senseRelayMatrixName, m⟩) = u := by
    simp only [senseConflicts, List.mem_flatMap, List.mem_map, Finset.mem_sort]
  rw [hentry]
  constructor
  · rintro ⟨p, hp, m, hm, hu⟩
    have hne := ne_of_mem_combinations hnd hp
    obtain ⟨w₁, hw₁, he₁⟩ := List.mem_map.mp (mem_of_mem_combinations hp).1
    obtain ⟨w₂, hw₂, he₂⟩ := List.mem_map.mp (mem_of_mem_combinations hp).2
    rw [← he₁, ← he₂] at hne hm
    exact ⟨w₁, hw₁, w₂, hw₂, hne, m, mem_senseMatrices.mp (Finset.mem_inter.mp hm).1,
      mem_senseMatrices.mp (Finset.mem_inter.mp hm).2, hu⟩
  · rintro ⟨w₁, hw₁, w₂, hw₂, hne, m, h₁, h₂, hu⟩
    have hm₁ : m ∈ senseMatrices usage w₁ := mem_senseMatrices.mpr h₁
    have hm₂ : m ∈ senseMatrices usage w₂ := mem_senseMatrices.mpr h₂
    have hb : ∀ w ∈ discoverWorkers requested, (w.smuName, senseMatrices usage w)
        ∈ senseByWorker usage (discoverWorkers requested) := fun w hw ↦ List.mem_map_of_mem hw
    rcases mem_combinations_of_ne (hb w₁ hw₁) (hb w₂ hw₂)
        (fun h ↦ hne (congrArg Prod.fst h)) with hp | hp
    · exact ⟨_, hp, m, Finset.mem_inter.mpr ⟨hm₁, hm₂⟩, hu⟩
    · exact ⟨_, hp, m, Finset.mem_inter.mpr ⟨hm₂, hm₁⟩, hu⟩

/-- The second mechanism finds nothing exactly when no two workers sense through one matrix. -/
theorem senseConflicts_eq_nil_iff :
    senseConflicts (ownershipUsage routing requested)
        (senseByWorker (ownershipUsage routing requested) (discoverWorkers requested)) = []
      ↔ ¬SharesSenseMatrix routing requested := by
  rw [List.eq_nil_iff_forall_not_mem]
  constructor
  · rintro hnil ⟨w₁, hw₁, w₂, hw₂, hne, m, h₁, h₂⟩
    exact hnil _ (mem_senseConflicts.mpr ⟨w₁, hw₁, w₂, hw₂, hne, m, h₁, h₂, rfl⟩)
  · intro hno u hu
    obtain ⟨w₁, hw₁, w₂, hw₂, hne, m, h₁, h₂, -⟩ := mem_senseConflicts.mp hu
    exact hno ⟨w₁, hw₁, w₂, hw₂, hne, m, h₁, h₂⟩

theorem items_updateUsers_eq_nil_iff {l : List (ResourceKey × Finset String)} {usage : Usage} :
    (updateUsers l usage).items = [] ↔ l = [] ∧ usage.items = [] := by
  simp only [Dict.items_eq_nil_iff, updateUsers, Dict.mem_keys_collect, not_or, forall_and]
  rw [← List.eq_nil_iff_forall_not_mem, List.map_eq_nil_iff]

/-- **What the check accepts.** No name is declared by two workers outside the SMU role, and no
matrix is a sense-routing matrix of two workers. -/
theorem ownershipReport_ok_iff :
    (ownershipReport routing requested).ok = true
      ↔ ¬SharesDependency requested ∧ ¬SharesSenseMatrix routing requested := by
  rw [ResourceOwnershipReport.ok, List.isEmpty_iff, ownershipReport,
    items_updateUsers_eq_nil_iff, items_updateUsers_eq_nil_iff, senseConflicts_eq_nil_iff,
    graphConflicts_eq_nil_iff]
  simp [and_comm]

/-! ## One owner per matrix -/

/-- Worker `w` uses matrix `m`, for position control or for sense routing. -/
def UsesMatrix (routing : SenseRouting) (requested : Dict String BatteryGroup) (w : WorkerPlan)
    (m : String) : Prop :=
  ControlsWith requested w m ∨ SensesWith routing requested w m

/-- No matrix is used by two different workers. -/
def OneOwner (routing : SenseRouting) (requested : Dict String BatteryGroup) : Prop :=
  ∀ w₁ ∈ discoverWorkers requested, ∀ w₂ ∈ discoverWorkers requested,
    w₁.smuName ≠ w₂.smuName → ∀ m, ¬(UsesMatrix routing requested w₁ m ∧
      UsesMatrix routing requested w₂ m)

/-- The position-control matrix of one worker is the sense-routing matrix of another. -/
def SharesAcrossRoles (routing : SenseRouting) (requested : Dict String BatteryGroup) : Prop :=
  ∃ w₁ ∈ discoverWorkers requested, ∃ w₂ ∈ discoverWorkers requested,
    w₁.smuName ≠ w₂.smuName ∧ ∃ m, ControlsWith requested w₁ m ∧ SensesWith routing requested w₂ m

theorem oneOwner_iff_not_sharesAcrossRoles (hdep : ¬SharesDependency requested)
    (hsense : ¬SharesSenseMatrix routing requested) :
    OneOwner routing requested ↔ ¬SharesAcrossRoles routing requested := by
  constructor
  · rintro hone ⟨w₁, hw₁, w₂, hw₂, hne, m, h₁, h₂⟩
    exact hone w₁ hw₁ w₂ hw₂ hne m ⟨Or.inl h₁, Or.inr h₂⟩
  · rintro hcross w₁ hw₁ w₂ hw₂ hne m ⟨h₁ | h₁, h₂ | h₂⟩
    · exact hdep ⟨w₁, hw₁, w₂, hw₂, hne, m, h₁.dependsOn, h₂.dependsOn⟩
    · exact hcross ⟨w₁, hw₁, w₂, hw₂, hne, m, h₁, h₂⟩
    · exact hcross ⟨w₂, hw₂, w₁, hw₁, hne.symm, m, h₂, h₁⟩
    · exact hsense ⟨w₁, hw₁, w₂, hw₂, hne, m, h₁, h₂⟩

end Requested

/-- What the gate is for: an accepted request leaves every matrix with one owner. -/
def AcceptsOnlyOneOwner (routing : SenseRouting) (groupNames : List String)
    (groups : Dict String BatteryGroup) : Prop :=
  ∀ requested, requestGroups groups groupNames Dict.empty = .ok requested →
    ∀ report, checkOwnership routing groupNames groups = .ok report → report.ok = true →
      OneOwner routing requested

/-- **The gate and cross-role sharing.** The gate keeps its promise on a configuration exactly
when two workers already collide within one mechanism, so that it rejects, or no worker's
position-control matrix is another's sense-routing matrix. -/
theorem acceptsOnlyOneOwner_iff (routing : SenseRouting) (groupNames : List String)
    (groups : Dict String BatteryGroup) :
    AcceptsOnlyOneOwner routing groupNames groups
      ↔ ∀ requested, requestGroups groups groupNames Dict.empty = .ok requested →
        SharesDependency requested ∨ SharesSenseMatrix routing requested ∨
          ¬SharesAcrossRoles routing requested := by
  refine forall_congr' fun requested ↦ forall_congr' fun hreq ↦ ?_
  have hcheck : checkOwnership routing groupNames groups
      = .ok (ownershipReport routing requested) := by rw [checkOwnership, hreq]
  rw [hcheck]
  constructor
  · intro h
    by_cases hdep : SharesDependency requested
    · exact Or.inl hdep
    by_cases hsense : SharesSenseMatrix routing requested
    · exact Or.inr (Or.inl hsense)
    have hone := h _ rfl (ownershipReport_ok_iff.mpr ⟨hdep, hsense⟩)
    exact Or.inr (Or.inr ((oneOwner_iff_not_sharesAcrossRoles hdep hsense).mp hone))
  · rintro h report hreport hok
    obtain rfl := Except.ok.inj hreport
    obtain ⟨hdep, hsense⟩ := ownershipReport_ok_iff.mp hok
    have hcross := (h.resolve_left hdep).resolve_left hsense
    exact (oneOwner_iff_not_sharesAcrossRoles hdep hsense).mpr hcross

/-- Group A1 on the matrix B1 senses through: each group has its own SMU, DMM and DAQ, and the
routing table sends sense channel 1 through A1's position-control matrix. -/
def crossRoleGroups : Dict String BatteryGroup :=
  ⟨[("A1", ⟨"MATRIX_NUMATO_201", "PRIMARY_SMU", "AUX_DMM", "AUX_DAQ", none, true, none⟩),
    ("B1", ⟨"MATRIX_NUMATO_202", "AUX_SMU_1", "MAIN_DMM", "MAIN_DAQ", none, true, some 1⟩)],
    by decide⟩

/-- The `SENSE_ROUTING` table of the configuration. -/
def SENSE_ROUTING : SenseRouting := ⟨[(1, ⟨"MATRIX_NUMATO_201", 1⟩)], by decide⟩

theorem not_acceptsOnlyOneOwner_crossRoleGroups :
    ¬AcceptsOnlyOneOwner SENSE_ROUTING ["A1", "B1"] crossRoleGroups := by
  intro h
  have hok : (ownershipReport SENSE_ROUTING crossRoleGroups).ok = true := by decide +kernel
  have hworkers : discoverWorkers crossRoleGroups
      = [⟨"PRIMARY_SMU", ["A1"], ∅⟩, ⟨"AUX_SMU_1", ["B1"], ∅⟩] := by decide
  have hone := h crossRoleGroups rfl _ rfl hok
  refine hone ⟨"PRIMARY_SMU", ["A1"], ∅⟩ (by simp [hworkers]) ⟨"AUX_SMU_1", ["B1"], ∅⟩
    (by simp [hworkers]) (by decide) "MATRIX_NUMATO_201" ⟨Or.inl ?_, Or.inr ?_⟩
  · exact ⟨"A1", List.mem_singleton_self _, _, rfl, rfl⟩
  · exact ⟨"B1", List.mem_singleton_self _, _, rfl, rfl⟩

end Nipxi
