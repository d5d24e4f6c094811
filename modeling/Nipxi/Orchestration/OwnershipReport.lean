import Nipxi.Orchestration.Ownership

/-!
# The report of the ownership check

What `check_ownership` reports, not only whether it reports anything. No shared resource is
missed, and each reported one comes with all its users. But the resource graph compares bare
names, and each name two workers share is put back into every role it is used in; so the report is
exact if and only if such a name is shared in each of its roles (`reportsSharing_iff`).
-/

open Collections

namespace Nipxi

section Requested

variable {routing : SenseRouting} {requested : Dict String BatteryGroup} {key : ResourceKey}
  {name : String}

/-- The group uses the resource in its role: an enabled group declares it, or the routing table
leads the sense channel of a group to it. -/
def UsesIn (routing : SenseRouting) (requested : Dict String BatteryGroup) (name : String)
    (key : ResourceKey) : Prop :=
  ∃ grp, requested.get? name = some grp ∧ (grp.enabled = true ∧ key ∈ grp.resources ∨
    key.role = .senseRelayMatrixName ∧ grp.senseMatrix routing = some key.resourceName)

/-- A group of the worker uses the resource in its role. -/
def WorkerUses (routing : SenseRouting) (requested : Dict String BatteryGroup) (w : WorkerPlan)
    (key : ResourceKey) : Prop :=
  ∃ name ∈ w.groups, UsesIn routing requested name key

/-- Groups of two different workers use the resource in its role, which is not that of the SMU. -/
def SharedInRole (routing : SenseRouting) (requested : Dict String BatteryGroup)
    (key : ResourceKey) : Prop :=
  key.role ≠ .smuName ∧ ∃ w₁ ∈ discoverWorkers requested, ∃ w₂ ∈ discoverWorkers requested,
    w₁.smuName ≠ w₂.smuName ∧ WorkerUses routing requested w₁ key ∧
      WorkerUses routing requested w₂ key

/-- The conflicts are the resources shared in a role, each with the groups that use it in that
role. -/
def ReportsSharing (routing : SenseRouting) (requested : Dict String BatteryGroup)
    (conflicts : Usage) : Prop :=
  (∀ key, key ∈ conflicts.keys ↔ SharedInRole routing requested key) ∧
    ∀ key ∈ conflicts.keys, ∀ name, name ∈ users conflicts key ↔ UsesIn routing requested name key

/-- The usage map of the check says who uses what. -/
theorem mem_ownershipUsage_iff :
    name ∈ users (ownershipUsage routing requested) key ↔ UsesIn routing requested name key := by
  rw [mem_ownershipUsage, mem_senseRoutingUsage, mem_discoverTopology]
  constructor
  · rintro (⟨hrole, grp, hget, hm⟩ | ⟨grp, hget, henabled, hkey⟩)
    · exact ⟨grp, hget, .inr ⟨hrole, hm⟩⟩
    · exact ⟨grp, hget, .inl ⟨henabled, hkey⟩⟩
  · rintro ⟨grp, hget, ⟨henabled, hkey⟩ | ⟨hrole, hm⟩⟩
    · exact .inr ⟨grp, hget, henabled, hkey⟩
    · exact .inl ⟨hrole, grp, hget, hm⟩

/-- A resource that is used is among the keys of the usage map. -/
theorem UsesIn.mem_items (h : UsesIn routing requested name key) :
    (key, users (ownershipUsage routing requested) key) ∈
      (ownershipUsage routing requested).items := by
  have huse := mem_ownershipUsage_iff.mpr h
  rw [Dict.mem_items_iff]
  cases hget : (ownershipUsage routing requested).get? key with
  | none => simp [users, hget] at huse
  | some names => rw [users, hget, Option.getD_some]

theorem workerUses_sense_iff {w : WorkerPlan} {m : String} :
    WorkerUses routing requested w ⟨.senseRelayMatrixName, m⟩ ↔
      SensesWith routing requested w m := by
  constructor
  · rintro ⟨name, hname, grp, hget, ⟨-, hkey⟩ | ⟨-, hm⟩⟩
    · exact absurd rfl (BatteryGroup.role_ne_sense hkey)
    · exact ⟨name, hname, grp, hget, hm⟩
  · rintro ⟨name, hname, grp, hget, hm⟩
    exact ⟨name, hname, grp, hget, .inr ⟨rfl, hm⟩⟩

theorem WorkerUses.dependsOn {w : WorkerPlan} (h : WorkerUses routing requested w key)
    (hsmu : key.role ≠ .smuName) (hsense : key.role ≠ .senseRelayMatrixName) :
    DependsOn requested w key.resourceName := by
  obtain ⟨name, hname, grp, hget, ⟨-, hkey⟩ | ⟨hrole, -⟩⟩ := h
  · exact ⟨name, hname, grp, hget, key, hkey, hsmu, rfl⟩
  · exact absurd hrole hsense

/-! ## What is reported -/

/-- The two workers depend on the name, in whatever role. -/
def NamedByTwo (requested : Dict String BatteryGroup) (m : String) : Prop :=
  ∃ w₁ ∈ discoverWorkers requested, ∃ w₂ ∈ discoverWorkers requested, w₁.smuName ≠ w₂.smuName ∧
    DependsOn requested w₁ m ∧ DependsOn requested w₂ m

/-- The graph's part: the names two workers depend on, in every role they are used in. -/
theorem mem_graphConflicts_iff {u : ResourceKey × Finset String} :
    u ∈ graphConflicts (ownershipUsage routing requested) (buildResourceGraph requested) ↔
      NamedByTwo requested u.1.resourceName ∧ u ∈ (ownershipUsage routing requested).items ∧
        u.1.role ≠ .smuName := by
  rw [mem_graphConflicts]
  refine and_congr_left fun _ ↦ ?_
  constructor
  · rintro ⟨c, hc, hm⟩
    obtain ⟨-, w₁, hw₁, w₂, hw₂, hne, hdep⟩ := dependsOn_of_mem_conflicts hc
    exact ⟨w₁, hw₁, w₂, hw₂, hne, hdep _ hm⟩
  · rintro ⟨w₁, hw₁, w₂, hw₂, hne, h₁, h₂⟩
    exact exists_mem_conflicts hw₁ hw₂ hne h₁ h₂

/-- A resource has an entry in the usage map exactly if a group uses it. -/
theorem mem_keys_ownershipUsage :
    key ∈ (ownershipUsage routing requested).keys ↔ ∃ name, UsesIn routing requested name key := by
  have hentries : ∀ l : List (ResourceKey × String), key ∈ (addUsers l Dict.empty).keys →
      ∃ name, name ∈ users (addUsers l Dict.empty) key := by
    intro l hkey
    obtain ⟨p, hp, rfl⟩ := List.mem_map.mp
      ((Dict.mem_keys_collect.mp hkey).resolve_right List.not_mem_nil)
    exact ⟨p.2, mem_users_addUsers.mpr (.inl hp)⟩
  constructor
  · intro hkey
    rcases Dict.mem_keys_collect.mp hkey with hsense | htopology
    · obtain ⟨name, hname⟩ := hentries _ hsense
      exact ⟨name, mem_ownershipUsage_iff.mp (mem_ownershipUsage.mpr (.inl hname))⟩
    · obtain ⟨name, hname⟩ := hentries _ htopology
      exact ⟨name, mem_ownershipUsage_iff.mp (mem_ownershipUsage.mpr (.inr hname))⟩
  · rintro ⟨name, huse⟩
    exact List.mem_map_of_mem huse.mem_items

theorem mem_keys_report :
    key ∈ (ownershipReport routing requested).conflicts.keys ↔
      (key.role ≠ .smuName ∧ NamedByTwo requested key.resourceName ∧
        ∃ name, UsesIn routing requested name key) ∨
      (key.role = .senseRelayMatrixName ∧ SharedInRole routing requested key) := by
  rw [ownershipReport, updateUsers, Dict.mem_keys_collect, updateUsers, Dict.mem_keys_collect,
    Dict.keys_empty, or_iff_left List.not_mem_nil, List.mem_map, List.mem_map, or_comm]
  refine or_congr ?_ ?_
  · constructor
    · rintro ⟨u, hu, rfl⟩
      obtain ⟨hnamed, hitem, hrole⟩ := mem_graphConflicts_iff.mp hu
      exact ⟨hrole, hnamed, mem_keys_ownershipUsage.mp (List.mem_map_of_mem hitem)⟩
    · rintro ⟨hrole, hnamed, name, huse⟩
      exact ⟨_, mem_graphConflicts_iff.mpr ⟨hnamed, huse.mem_items, hrole⟩, rfl⟩
  · constructor
    · rintro ⟨u, hu, rfl⟩
      obtain ⟨w₁, hw₁, w₂, hw₂, hne, m, h₁, h₂, rfl⟩ := mem_senseConflicts.mp hu
      have hrole : Role.senseRelayMatrixName ≠ .smuName := by decide
      exact ⟨rfl, hrole, w₁, hw₁, w₂, hw₂, hne, workerUses_sense_iff.mpr h₁,
        workerUses_sense_iff.mpr h₂⟩
    · obtain ⟨role, m⟩ := key
      rintro ⟨rfl, -, w₁, hw₁, w₂, hw₂, hne, h₁, h₂⟩
      exact ⟨_, mem_senseConflicts.mpr ⟨w₁, hw₁, w₂, hw₂, hne, m, workerUses_sense_iff.mp h₁,
        workerUses_sense_iff.mp h₂, rfl⟩, rfl⟩

/-- A reported resource comes with all the groups that use it in its role. -/
theorem mem_users_conflicts (hkey : key ∈ (ownershipReport routing requested).conflicts.keys) :
    name ∈ users (ownershipReport routing requested).conflicts key ↔
      UsesIn routing requested name key := by
  have hgraph : ∀ u ∈ graphConflicts (ownershipUsage routing requested)
      (buildResourceGraph requested), u.2 = users (ownershipUsage routing requested) u.1 := by
    intro u hu
    obtain ⟨-, hitem, -⟩ := mem_graphConflicts_iff.mp hu
    rw [users, Dict.mem_items_iff.mp hitem, Option.getD_some]
  have hsense : ∀ u ∈ senseConflicts (ownershipUsage routing requested)
      (senseByWorker (ownershipUsage routing requested) (discoverWorkers requested)),
      u.2 = users (ownershipUsage routing requested) u.1 := by
    intro u hu
    obtain ⟨-, -, -, -, -, -, -, -, rfl⟩ := mem_senseConflicts.mp hu
    rfl
  rw [← mem_ownershipUsage_iff]
  constructor
  · intro hname
    rcases mem_users_updateUsers.mp hname with ⟨names, hu, hmem⟩ | hname
    · exact hsense _ hu ▸ hmem
    · rcases mem_users_updateUsers.mp hname with ⟨names, hu, hmem⟩ | hempty
      · exact hgraph _ hu ▸ hmem
      · simp [users] at hempty
  · intro hname
    rcases Dict.mem_keys_collect.mp hkey with hkey | hkey
    · obtain ⟨u, hu, rfl⟩ := List.mem_map.mp hkey
      exact mem_users_updateUsers.mpr (.inl ⟨u.2, hu, hsense u hu ▸ hname⟩)
    · obtain ⟨u, hu, rfl⟩ :=
        List.mem_map.mp ((Dict.mem_keys_collect.mp hkey).resolve_right List.not_mem_nil)
      exact mem_users_updateUsers.mpr
        (.inr (mem_users_updateUsers.mpr (.inl ⟨u.2, hu, hgraph u hu ▸ hname⟩)))

theorem SharedInRole.mem_keys_conflicts (h : SharedInRole routing requested key) :
    key ∈ (ownershipReport routing requested).conflicts.keys := by
  by_cases hsense : key.role = .senseRelayMatrixName
  · exact mem_keys_report.mpr (.inr ⟨hsense, h⟩)
  · obtain ⟨hrole, w₁, hw₁, w₂, hw₂, hne, h₁, h₂⟩ := h
    have hnamed : NamedByTwo requested key.resourceName :=
      ⟨w₁, hw₁, w₂, hw₂, hne, h₁.dependsOn hrole hsense, h₂.dependsOn hrole hsense⟩
    obtain ⟨name, -, huse⟩ := h₁
    exact mem_keys_report.mpr (.inl ⟨hrole, hnamed, name, huse⟩)

/-- Each name that two workers depend on is shared in each role it is used in. -/
def NamesSharedInRoles (routing : SenseRouting) (requested : Dict String BatteryGroup) : Prop :=
  ∀ key, key.role ≠ .smuName → NamedByTwo requested key.resourceName →
    (∃ name, UsesIn routing requested name key) → SharedInRole routing requested key

/-- The report is exact if and only if each name that two workers depend on is shared in each role
it is used in. -/
theorem reportsSharing_iff :
    ReportsSharing routing requested (ownershipReport routing requested).conflicts ↔
      NamesSharedInRoles routing requested := by
  constructor
  · rintro ⟨hkeys, -⟩ key hrole hnamed huse
    exact (hkeys key).mp (mem_keys_report.mpr (.inl ⟨hrole, hnamed, huse⟩))
  · intro hnames
    refine ⟨fun key ↦ ⟨fun hkey ↦ ?_, SharedInRole.mem_keys_conflicts⟩, fun key hkey name ↦
      mem_users_conflicts hkey⟩
    rcases mem_keys_report.mp hkey with ⟨hrole, hnamed, huse⟩ | ⟨-, hshared⟩
    · exact hnames key hrole hnamed huse
    · exact hshared

end Requested

/-! ## The check -/

/-- What `check_ownership` reports on a request is what is shared. -/
def ReportsExactly (routing : SenseRouting) (groupNames : List String)
    (groups : Dict String BatteryGroup) : Prop :=
  ∀ requested, requestGroups groups groupNames Dict.empty = .ok requested →
    ∀ report, checkOwnership routing groupNames groups = .ok report →
      ReportsSharing routing requested report.conflicts

/-- **The report and names used in several roles.** `check_ownership` reports what is shared if and
only if no name that two workers depend on is used in a role in which it is not shared. -/
theorem reportsExactly_iff (routing : SenseRouting) (groupNames : List String)
    (groups : Dict String BatteryGroup) : ReportsExactly routing groupNames groups ↔
      ∀ requested, requestGroups groups groupNames Dict.empty = .ok requested →
        NamesSharedInRoles routing requested := by
  refine forall_congr' fun requested ↦ forall_congr' fun hreq ↦ ?_
  have hcheck : checkOwnership routing groupNames groups
      = .ok (ownershipReport routing requested) := by rw [checkOwnership, hreq]
  rw [← reportsSharing_iff, hcheck]
  constructor
  · exact fun h ↦ h _ rfl
  · intro h report hreport
    obtain rfl := Except.ok.inj hreport
    exact h

/-- B1 reads its NTC through the DAQ of A1, which A1 reads its NTC through as well. -/
def borrowedDaqGroups : Dict String BatteryGroup :=
  ⟨[("A1", ⟨"MATRIX_NUMATO_201", "PRIMARY_SMU", "AUX_DMM", "MAIN_DAQ", none, true, none⟩),
    ("B1", ⟨"MATRIX_NUMATO_202", "AUX_SMU_1", "MAIN_DMM", "AUX_DAQ", "MAIN_DAQ", true, none⟩)],
    by decide⟩

theorem not_reportsExactly_borrowedDaqGroups :
    ¬ReportsExactly SENSE_ROUTING ["A1", "B1"] borrowedDaqGroups := by
  intro h
  obtain ⟨hkeys, -⟩ := h borrowedDaqGroups rfl _ rfl
  have hreported : (⟨.daqName, "MAIN_DAQ"⟩ : ResourceKey) ∈
      (ownershipReport SENSE_ROUTING borrowedDaqGroups).conflicts.keys := by decide +kernel
  obtain ⟨-, w₁, hw₁, w₂, hw₂, hne, h₁, h₂⟩ := (hkeys _).mp hreported
  have husers : users (ownershipUsage SENSE_ROUTING borrowedDaqGroups) ⟨.daqName, "MAIN_DAQ"⟩
      = {"A1"} := by decide +kernel
  have hsmu : ∀ w ∈ discoverWorkers borrowedDaqGroups,
      WorkerUses SENSE_ROUTING borrowedDaqGroups w ⟨.daqName, "MAIN_DAQ"⟩ →
        w.smuName = "PRIMARY_SMU" := by
    rintro w hw ⟨name, hname, huse⟩
    have hmem := mem_ownershipUsage_iff.mpr huse
    rw [husers, Finset.mem_singleton] at hmem
    subst hmem
    obtain ⟨grp, hget, -, hgrp⟩ := (mem_groups_of_mem_discoverWorkers hw).mp hname
    obtain rfl := Option.some.inj hget
    exact (Option.some.inj hgrp).symm
  exact hne ((hsmu w₁ hw₁ h₁).trans (hsmu w₂ hw₂ h₂).symm)

end Nipxi
