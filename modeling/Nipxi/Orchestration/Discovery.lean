import Mathlib.Data.Finset.Sort
import Mathlib.Data.String.Basic
import Nipxi.Collections.Dict

/-!
# Topology, workers and the resource graph

`orchestration/topology.py`, `workers.py` and `resource_graph.py`: which enabled battery group
uses which physical resource, how the groups are partitioned into workers by the SMU they own,
and which pairs of workers depend on a resource in common.

A group is the part of a `BATTERY_GROUPS` entry these modules read. A resource is identified by
its role together with its name, and the graph's conflicts forget the role again: two workers
conflict as soon as one *name* occurs among both their dependencies, in whatever roles.
-/

open Collections

namespace Nipxi

/-! ## Groups and resources -/

/-- The roles a resource can have: `RESOURCE_ROLES`, and `SENSE_ROUTING_ROLE` of the ownership
check. -/
inductive Role where
  | relayMatrixName
  | smuName
  | dmmName
  | daqName
  | ntcDaqName
  | senseRelayMatrixName
  deriving DecidableEq, Repr

/-- One physical resource, identified by role and name. -/
structure ResourceKey where
  /-- In which role it is used. -/
  role : Role
  /-- Its device name in the configuration. -/
  resourceName : String
  deriving DecidableEq, Repr

/-- What discovery and the ownership check read of a `BATTERY_GROUPS` entry. -/
structure BatteryGroup where
  /-- `grp.get("relay_matrix")`, the position-control matrix. -/
  relayMatrix : Option String
  /-- `grp.get("smu")`. -/
  smu : Option String
  /-- `grp.get("dmm")`. -/
  dmm : Option String
  /-- `grp.get("daq")`. -/
  daq : Option String
  /-- `grp.get("ntc_daq")`. -/
  ntcDaq : Option String
  /-- `grp.get("enabled")`. -/
  enabled : Bool
  /-- `grp.get("sense_channel")`, a key of `SENSE_ROUTING`. -/
  senseChannel : Option ℤ
  deriving DecidableEq, Repr

/-- Python's `a or b` on optional names: the empty string counts as absent. -/
def nameOr (a b : Option String) : Option String :=
  match a with
  | some name => if name = "" then b else some name
  | none => b

/-- The `roles` table of one group in `discover_topology`; the NTC DAQ falls back to the
DAQ. -/
def BatteryGroup.roles (grp : BatteryGroup) : List (Role × Option String) :=
  [(.relayMatrixName, grp.relayMatrix), (.smuName, grp.smu), (.dmmName, grp.dmm),
    (.daqName, grp.daq), (.ntcDaqName, nameOr grp.ntcDaq grp.daq)]

/-- The resources a group declares: its roles whose name is not `None`. -/
def BatteryGroup.resources (grp : BatteryGroup) : List ResourceKey :=
  grp.roles.filterMap fun r ↦ r.2.map fun name ↦ ⟨r.1, name⟩

theorem BatteryGroup.relayMatrix_mem_resources {grp : BatteryGroup} {m : String}
    (h : grp.relayMatrix = some m) : ⟨.relayMatrixName, m⟩ ∈ grp.resources :=
  List.mem_filterMap.mpr ⟨(.relayMatrixName, grp.relayMatrix), by simp [roles], by simp [h]⟩

/-- The sense role is never declared by a group's own fields. -/
theorem BatteryGroup.role_ne_sense {grp : BatteryGroup} {key : ResourceKey}
    (h : key ∈ grp.resources) : key.role ≠ .senseRelayMatrixName := by
  obtain ⟨⟨role, name⟩, hr, hk⟩ := List.mem_filterMap.mp h
  obtain ⟨m, -, rfl⟩ := Option.map_eq_some_iff.mp hk
  rintro rfl
  simp [roles] at hr

/-! ## Topology discovery -/

/-- A usage map: which groups use a resource. -/
abbrev Usage := Dict ResourceKey (Finset String)

/-- `usage[key]`, empty where the resource is not listed. -/
def users (usage : Usage) (key : ResourceKey) : Finset String := (usage.get? key).getD ∅

/-- The loop `usage.setdefault(key, set()).add(name)` over pairs of a resource and a group. -/
def addUsers (l : List (ResourceKey × String)) (usage : Usage) : Usage :=
  Dict.collect ∅ (fun names name ↦ insert name names) l usage

theorem mem_users_addUsers {l : List (ResourceKey × String)} {usage : Usage}
    {key : ResourceKey} {name : String} :
    name ∈ users (addUsers l usage) key ↔ (key, name) ∈ l ∨ name ∈ users usage key :=
  Dict.mem_collect_insert l usage key name

/-- The entries of `discover_topology`: each enabled group with each resource it declares. -/
def topologyEntries (groups : Dict String BatteryGroup) : List (ResourceKey × String) :=
  groups.items.flatMap fun g ↦ if g.2.enabled then g.2.resources.map (·, g.1) else []

/-- `discover_topology`: which enabled groups use which resource. -/
def discoverTopology (groups : Dict String BatteryGroup) : Usage :=
  addUsers (topologyEntries groups) Dict.empty

theorem mem_topologyEntries {groups : Dict String BatteryGroup} {key : ResourceKey}
    {name : String} :
    (key, name) ∈ topologyEntries groups
      ↔ ∃ grp, groups.get? name = some grp ∧ grp.enabled = true ∧ key ∈ grp.resources := by
  rw [topologyEntries, List.mem_flatMap]
  constructor
  · rintro ⟨⟨n, grp⟩, hg, hmem⟩
    by_cases he : grp.enabled = true
    · rw [if_pos he, List.mem_map] at hmem
      obtain ⟨k, hk, heq⟩ := hmem
      obtain ⟨rfl, rfl⟩ := Prod.mk.injEq .. ▸ heq
      exact ⟨grp, Dict.mem_items_iff.mp hg, he, hk⟩
    · rw [if_neg he] at hmem
      simp at hmem
  · rintro ⟨grp, hg, he, hk⟩
    refine ⟨(name, grp), Dict.mem_items_iff.mpr hg, ?_⟩
    rw [if_pos he]
    exact List.mem_map_of_mem hk

/-- A group is listed under a resource exactly when it is enabled and declares it. -/
theorem mem_discoverTopology {groups : Dict String BatteryGroup} {key : ResourceKey}
    {name : String} :
    name ∈ users (discoverTopology groups) key
      ↔ ∃ grp, groups.get? name = some grp ∧ grp.enabled = true ∧ key ∈ grp.resources := by
  rw [discoverTopology, mem_users_addUsers, mem_topologyEntries]
  simp [users]

/-! ## Workers -/

/-- One SMU-anchored worker candidate. -/
structure WorkerPlan where
  /-- The SMU the worker owns. -/
  smuName : String
  /-- The enabled groups declared for this SMU, in configuration order. -/
  groups : List String
  /-- Filled by the resource graph; empty after discovery. -/
  sharedDependencies : Finset String
  deriving DecidableEq

/-- The entries of `discover_workers`: each enabled group that has an SMU, under it. -/
def workerEntries (groups : Dict String BatteryGroup) : List (String × String) :=
  groups.items.filterMap fun g ↦ if g.2.enabled then g.2.smu.map (·, g.1) else none

/-- `discover_workers`: the enabled groups, partitioned by their SMU. -/
def discoverWorkers (groups : Dict String BatteryGroup) : List WorkerPlan :=
  (Dict.collect [] (fun names name ↦ names ++ [name]) (workerEntries groups)
    Dict.empty).items.map fun w ↦ ⟨w.1, w.2, ∅⟩

theorem mem_workerEntries {groups : Dict String BatteryGroup} {smu name : String} :
    (smu, name) ∈ workerEntries groups
      ↔ ∃ grp, groups.get? name = some grp ∧ grp.enabled = true ∧ grp.smu = some smu := by
  rw [workerEntries, List.mem_filterMap]
  constructor
  · rintro ⟨⟨n, grp⟩, hg, hmem⟩
    by_cases he : grp.enabled = true
    · rw [if_pos he] at hmem
      obtain ⟨s, hs, heq⟩ := Option.map_eq_some_iff.mp hmem
      obtain ⟨rfl, rfl⟩ := Prod.mk.injEq .. ▸ heq
      exact ⟨grp, Dict.mem_items_iff.mp hg, he, hs⟩
    · rw [if_neg he] at hmem
      simp at hmem
  · rintro ⟨grp, hg, he, hs⟩
    exact ⟨(name, grp), Dict.mem_items_iff.mpr hg, by simp [he, hs]⟩

theorem groups_of_mem_discoverWorkers {groups : Dict String BatteryGroup} {w : WorkerPlan}
    (hw : w ∈ discoverWorkers groups) :
    w.groups = ((workerEntries groups).filter (·.1 = w.smuName)).map Prod.snd := by
  obtain ⟨⟨smu, names⟩, hp, rfl⟩ := List.mem_map.mp hw
  have hget := Dict.mem_items_iff.mp hp
  rw [Dict.get?_collect_append] at hget
  split at hget
  · exact (Option.some.inj hget).symm
  · exact absurd hget nofun

/-- **What a worker is.** Its groups are the enabled groups of the dictionary that declare its
SMU. -/
theorem mem_groups_of_mem_discoverWorkers {groups : Dict String BatteryGroup} {w : WorkerPlan}
    (hw : w ∈ discoverWorkers groups) {name : String} :
    name ∈ w.groups
      ↔ ∃ grp, groups.get? name = some grp ∧ grp.enabled = true ∧ grp.smu = some w.smuName := by
  rw [groups_of_mem_discoverWorkers hw, ← mem_workerEntries]
  simp

theorem nodup_smuName_discoverWorkers (groups : Dict String BatteryGroup) :
    ((discoverWorkers groups).map WorkerPlan.smuName).Nodup := by
  rw [discoverWorkers, List.map_map]
  exact Dict.nodup_keys _

theorem exists_mem_discoverWorkers {groups : Dict String BatteryGroup} {name smu : String}
    (h : (smu, name) ∈ workerEntries groups) : ∃ w ∈ discoverWorkers groups, w.smuName = smu := by
  have hkey : smu ∈ (workerEntries groups).map Prod.fst := List.mem_map_of_mem h
  have hget := Dict.get?_collect_append (workerEntries groups) smu
  rw [if_pos hkey] at hget
  exact ⟨_, List.mem_map.mpr ⟨_, Dict.mem_items_iff.mpr hget, rfl⟩, rfl⟩

theorem nodup_groups_of_mem_discoverWorkers {groups : Dict String BatteryGroup} {w : WorkerPlan}
    (hw : w ∈ discoverWorkers groups) : w.groups.Nodup := by
  have hsub : ∀ l : List (String × BatteryGroup),
      ((l.filterMap fun g ↦ if g.2.enabled then g.2.smu.map (·, g.1) else none).map
        Prod.snd).Sublist (l.map Prod.fst) := by
    intro l
    induction l with
    | nil => exact List.Sublist.refl _
    | cons g l ih =>
      rw [List.filterMap_cons, List.map_cons]
      split
      · exact ih.cons _
      · next entry hentry =>
        obtain ⟨-, smu, -, rfl⟩ : g.2.enabled = true ∧ ∃ smu, g.2.smu = some smu ∧
            (smu, g.1) = entry := by simpa using hentry
        exact ih.cons_cons _
  rw [groups_of_mem_discoverWorkers hw]
  have hnodup : ((workerEntries groups).map Prod.snd).Nodup :=
    (hsub groups.items).nodup (Dict.nodup_keys groups)
  exact hnodup.sublist (List.filter_sublist.map Prod.snd)

/-! ## The resource graph -/

/-- `itertools.combinations(l, 2)`: the pairs of two entries, the earlier one first. -/
def combinations {α : Type*} : List α → List (α × α)
  | [] => []
  | a :: t => t.map (a, ·) ++ combinations t

theorem mem_of_mem_combinations {α : Type*} {l : List α} {p : α × α}
    (h : p ∈ combinations l) : p.1 ∈ l ∧ p.2 ∈ l := by
  induction l with
  | nil => simp [combinations] at h
  | cons a t ih =>
    rw [combinations, List.mem_append, List.mem_map] at h
    rcases h with ⟨b, hb, rfl⟩ | h
    · exact ⟨List.mem_cons_self, List.mem_cons_of_mem _ hb⟩
    · exact ⟨List.mem_cons_of_mem _ (ih h).1, List.mem_cons_of_mem _ (ih h).2⟩

/-- Two different entries meet in one of the pairs, in one of the two orders. -/
theorem mem_combinations_of_ne {α : Type*} {l : List α} {a b : α} (ha : a ∈ l) (hb : b ∈ l)
    (hne : a ≠ b) : (a, b) ∈ combinations l ∨ (b, a) ∈ combinations l := by
  induction l with
  | nil => simp at ha
  | cons c t ih =>
    simp only [combinations, List.mem_append, List.mem_map]
    rcases List.mem_cons.mp ha with rfl | ha' <;> rcases List.mem_cons.mp hb with rfl | hb'
    · exact absurd rfl hne
    · exact Or.inl (Or.inl ⟨b, hb', rfl⟩)
    · exact Or.inr (Or.inl ⟨a, ha', rfl⟩)
    · exact (ih ha' hb').imp Or.inr Or.inr

/-- In a list whose images under `f` are distinct, the two members of a pair have distinct
images. -/
theorem ne_of_mem_combinations {α β : Type*} {f : α → β} {l : List α}
    (hl : (l.map f).Nodup) {p : α × α} (h : p ∈ combinations l) : f p.1 ≠ f p.2 := by
  induction l with
  | nil => simp [combinations] at h
  | cons a t ih =>
    rw [List.map_cons, List.nodup_cons] at hl
    rw [combinations, List.mem_append, List.mem_map] at h
    rcases h with ⟨b, hb, rfl⟩ | h
    · exact fun heq ↦ hl.1 (List.mem_map.mpr ⟨b, hb, heq.symm⟩)
    · exact ih hl.2 h

/-- The workers with their dependencies, and the pairs of workers that share one. -/
structure ResourceGraph where
  /-- Every worker, with `sharedDependencies` filled in. -/
  workers : List WorkerPlan
  /-- The shared resource names of each pair of workers that has any. -/
  conflicts : Dict (String × String) (Finset String)

/-- Every resource name a worker's own groups use, the SMU role left out. -/
def sharedDependencies (usage : Usage) (w : WorkerPlan) : Finset String :=
  ((usage.items.filter fun u ↦
    u.1.role ≠ .smuName ∧ (u.2 ∩ w.groups.toFinset).Nonempty).map (·.1.resourceName)).toFinset

/-- The pairs of workers with a common dependency, each with the names they have in common. -/
def overlaps (workers : List WorkerPlan) : List ((String × String) × Finset String) :=
  (combinations workers).filterMap fun p ↦
    let overlap := p.1.sharedDependencies ∩ p.2.sharedDependencies
    if overlap.Nonempty then some ((p.1.smuName, p.2.smuName), overlap) else none

/-- `build_resource_graph`. -/
def buildResourceGraph (groups : Dict String BatteryGroup) : ResourceGraph :=
  let usage := discoverTopology groups
  let workers := (discoverWorkers groups).map fun w ↦
    { w with sharedDependencies := sharedDependencies usage w }
  ⟨workers, Dict.assign (overlaps workers) Dict.empty⟩

/-- A group of worker `w` declares a resource named `m`, in a role other than the SMU's. -/
def DependsOn (groups : Dict String BatteryGroup) (w : WorkerPlan) (m : String) : Prop :=
  ∃ name ∈ w.groups, ∃ grp, groups.get? name = some grp ∧
    ∃ key ∈ grp.resources, key.role ≠ .smuName ∧ key.resourceName = m

/-- **Shared dependencies are the declared ones.** -/
theorem mem_sharedDependencies {groups : Dict String BatteryGroup} {w : WorkerPlan}
    (hw : w ∈ discoverWorkers groups) {m : String} :
    m ∈ sharedDependencies (discoverTopology groups) w ↔ DependsOn groups w m := by
  rw [sharedDependencies, List.mem_toFinset, List.mem_map]
  constructor
  · rintro ⟨⟨key, names⟩, hu, rfl⟩
    obtain ⟨hitem, hrole, name, hname⟩ := by simpa using hu
    have huse : name ∈ users (discoverTopology groups) key := by
      rw [users, Dict.mem_items_iff.mp hitem]
      exact (Finset.mem_inter.mp hname).1
    obtain ⟨grp, hget, -, hkey⟩ := mem_discoverTopology.mp huse
    exact ⟨name, List.mem_toFinset.mp (Finset.mem_inter.mp hname).2, grp, hget, key, hkey,
      hrole, rfl⟩
  · rintro ⟨name, hname, grp, hget, key, hkey, hrole, rfl⟩
    obtain ⟨grp', hget', henabled, -⟩ := (mem_groups_of_mem_discoverWorkers hw).mp hname
    obtain rfl : grp' = grp := Option.some.inj (hget'.symm.trans hget)
    have huse : name ∈ users (discoverTopology groups) key :=
      mem_discoverTopology.mpr ⟨grp', hget, henabled, hkey⟩
    cases hg : (discoverTopology groups).get? key with
    | none => simp [users, hg] at huse
    | some names =>
      have hin : name ∈ names ∩ w.groups.toFinset :=
        Finset.mem_inter.mpr ⟨by simpa [users, hg] using huse, List.mem_toFinset.mpr hname⟩
      refine ⟨(key, names), List.mem_filter.mpr ⟨Dict.mem_items_iff.mpr hg, ?_⟩, rfl⟩
      exact decide_eq_true ⟨hrole, name, hin⟩

/-- Two different workers depend on a resource of one name. -/
def SharesDependency (groups : Dict String BatteryGroup) : Prop :=
  ∃ w₁ ∈ discoverWorkers groups, ∃ w₂ ∈ discoverWorkers groups, w₁.smuName ≠ w₂.smuName ∧
    ∃ m, DependsOn groups w₁ m ∧ DependsOn groups w₂ m

theorem mem_overlaps {workers : List WorkerPlan} {c : (String × String) × Finset String} :
    c ∈ overlaps workers ↔ ∃ p ∈ combinations workers,
      c.1 = (p.1.smuName, p.2.smuName) ∧
        c.2 = p.1.sharedDependencies ∩ p.2.sharedDependencies ∧ c.2.Nonempty := by
  rw [overlaps, List.mem_filterMap]
  constructor
  · rintro ⟨p, hp, hc⟩
    simp only at hc
    split at hc
    · rename_i hne
      obtain rfl := Option.some.inj hc
      exact ⟨p, hp, rfl, rfl, hne⟩
    · simp at hc
  · rintro ⟨p, hp, h1, h2, hne⟩
    refine ⟨p, hp, ?_⟩
    rw [h2] at hne
    simp only [if_pos hne]
    rw [← h1, ← h2]

/-- Two workers have one entry among the overlaps. -/
theorem eq_of_mem_overlaps {workers : List WorkerPlan}
    (hnd : (workers.map WorkerPlan.smuName).Nodup) {k : String × String} {a b : Finset String}
    (ha : (k, a) ∈ overlaps workers) (hb : (k, b) ∈ overlaps workers) : a = b := by
  obtain ⟨p, hp, hkp, ha, -⟩ := mem_overlaps.mp ha
  obtain ⟨q, hq, hkq, hb, -⟩ := mem_overlaps.mp hb
  obtain ⟨hfst, hsnd⟩ := Prod.mk.inj (hkp.symm.trans hkq)
  have hp₁ : p.1 = q.1 := List.inj_on_of_nodup_map hnd (mem_of_mem_combinations hp).1
    (mem_of_mem_combinations hq).1 hfst
  have hp₂ : p.2 = q.2 := List.inj_on_of_nodup_map hnd (mem_of_mem_combinations hp).2
    (mem_of_mem_combinations hq).2 hsnd
  dsimp only at ha hb
  rw [ha, hb, hp₁, hp₂]

/-- The names of the SMUs of the filled-in workers are those of the workers. -/
theorem nodup_smuName_filled (groups : Dict String BatteryGroup) :
    (((discoverWorkers groups).map fun w ↦
      { w with sharedDependencies := sharedDependencies (discoverTopology groups) w }).map
        WorkerPlan.smuName).Nodup := by
  rw [List.map_map]
  exact nodup_smuName_discoverWorkers groups

theorem dependsOn_of_mem_conflicts {groups : Dict String BatteryGroup}
    {c : (String × String) × Finset String}
    (hc : c ∈ (buildResourceGraph groups).conflicts.items) :
    c.2.Nonempty ∧ ∃ w₁ ∈ discoverWorkers groups, ∃ w₂ ∈ discoverWorkers groups,
      w₁.smuName ≠ w₂.smuName ∧ ∀ m ∈ c.2, DependsOn groups w₁ m ∧ DependsOn groups w₂ m := by
  rcases Dict.mem_of_mem_assign hc with hc | hc
  · obtain ⟨p, hp, -, h2, hne⟩ := mem_overlaps.mp hc
    have hsmu := ne_of_mem_combinations (nodup_smuName_filled groups) hp
    obtain ⟨w₁, hw₁, he₁⟩ := List.mem_map.mp (mem_of_mem_combinations hp).1
    obtain ⟨w₂, hw₂, he₂⟩ := List.mem_map.mp (mem_of_mem_combinations hp).2
    rw [← he₁, ← he₂] at hsmu h2
    refine ⟨hne, w₁, hw₁, w₂, hw₂, hsmu, fun m hm ↦ ?_⟩
    rw [h2] at hm
    exact ⟨(mem_sharedDependencies hw₁).mp (Finset.mem_inter.mp hm).1,
      (mem_sharedDependencies hw₂).mp (Finset.mem_inter.mp hm).2⟩
  · simp at hc

theorem exists_mem_conflicts {groups : Dict String BatteryGroup} {w₁ w₂ : WorkerPlan}
    (hw₁ : w₁ ∈ discoverWorkers groups) (hw₂ : w₂ ∈ discoverWorkers groups)
    (hne : w₁.smuName ≠ w₂.smuName) {m : String} (h₁ : DependsOn groups w₁ m)
    (h₂ : DependsOn groups w₂ m) :
    ∃ c ∈ (buildResourceGraph groups).conflicts.items, m ∈ c.2 := by
  let fill : WorkerPlan → WorkerPlan := fun w ↦
    { w with sharedDependencies := sharedDependencies (discoverTopology groups) w }
  have hfill : fill w₁ ≠ fill w₂ := by
    intro h
    have hsmu : (fill w₁).smuName = (fill w₂).smuName := by rw [h]
    exact hne hsmu
  have hkey : ∀ p ∈ combinations ((discoverWorkers groups).map fill),
      m ∈ p.1.sharedDependencies ∩ p.2.sharedDependencies →
        ∃ c ∈ (buildResourceGraph groups).conflicts.items, m ∈ c.2 := by
    intro p hp hm
    have hov : ((p.1.smuName, p.2.smuName), p.1.sharedDependencies ∩ p.2.sharedDependencies)
        ∈ overlaps ((discoverWorkers groups).map fill) :=
      mem_overlaps.mpr ⟨p, hp, rfl, rfl, ⟨m, hm⟩⟩
    have hget : (buildResourceGraph groups).conflicts.get? (p.1.smuName, p.2.smuName) =
        some (p.1.sharedDependencies ∩ p.2.sharedDependencies) :=
      Dict.get?_assign hov fun _ hother ↦
        eq_of_mem_overlaps (nodup_smuName_filled groups) hother hov
    exact ⟨_, Dict.mem_items_iff.mpr hget, hm⟩
  have hd₁ := (mem_sharedDependencies hw₁).mpr h₁
  have hd₂ := (mem_sharedDependencies hw₂).mpr h₂
  rcases mem_combinations_of_ne (List.mem_map_of_mem hw₁) (List.mem_map_of_mem hw₂) hfill
    with hp | hp
  · exact hkey _ hp (Finset.mem_inter.mpr ⟨hd₁, hd₂⟩)
  · exact hkey _ hp (Finset.mem_inter.mpr ⟨hd₂, hd₁⟩)

end Nipxi
