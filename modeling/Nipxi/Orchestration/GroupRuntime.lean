import Nipxi.Config.Devices
import Nipxi.Orchestration.Coverage

/-!
# The hardware of a worker

`hardware_for_group` resolves a group's devices from the configuration; `GroupRuntime.__init__`
does so for the first group of its worker, and `ConcurrentSupervisor` hands that one runtime to
`run_group` for every group of the worker. Workers are formed by SMU alone, so nothing makes the
groups of a worker agree in their other devices: a group runs on its own hardware exactly when it
resolves to the same devices as the first (`runtime_drives_first_group`).
-/

open Collections

namespace Nipxi

/-! ## Drivers -/

/-- What constructing a worker's runtime can raise. -/
inductive RuntimeError where
  /-- `IndexError`: a worker without groups. -/
  | noGroup
  | keyError (e : KeyError)
  /-- `StopIteration`: no SMU is configured at all. -/
  | noSmu
  /-- `AttributeError`: `None.get` on a relay matrix that is not configured. -/
  | noRelayCfg
  | validation (message : String)
  | daq (message : String)
  deriving DecidableEq

/-- `DAQ.__init__`. -/
def makeDaq (cfg : DeviceCfg) : Except RuntimeError DeviceCfg :=
  if cfg.terminalConfig ∈ ["DEFAULT", "DIFF", "NRSE", "PSEUDO_DIFF", "RSE"] then .ok cfg
  else .error (.daq (s!"DAQ '{cfg.resource}': invalid terminal_config '{cfg.terminalConfig}' -- " ++
    "must be one of ['DEFAULT', 'DIFF', 'NRSE', 'PSEUDO_DIFF', 'RSE']"))

/-- `RelayFactory.create`, with the constructor it dispatches to. -/
def createRelay : Option DeviceCfg → Except RuntimeError DeviceCfg
  | none => .error .noRelayCfg
  | some cfg =>
    match cfg.type.toLower with
    | "serial" =>
      if cfg.port = some "" then
        .error (.validation "RELAY_CONFIG missing 'port' for serial relay")
      else .ok cfg
    | "ethernet" =>
      if cfg.ip = "" then
        .error (.validation
          s!"NUMATO_RELAY_MATRIX_CONFIG missing 'ip' for Numato relay matrix '{cfg.name}'")
      else .ok cfg
    | relayType => .error (.validation
        (s!"Unknown relay type: '{relayType}'.  Supported: " ++ "['ethernet', 'serial']"))

/-- The drivers of a `HardwareManager`, each as the configuration it was made from. -/
structure Drivers where
  smu : DeviceCfg
  daq : DeviceCfg
  relay : DeviceCfg
  dmm : Option DeviceCfg
  ntcDaq : Option DeviceCfg
  deriving DecidableEq

/-- `smu_cfg or next(iter(dev_cfg.SMU_ASSIGNMENTS.values()))`. -/
def smuOrFirst (tables : DeviceTables) (cfg : Option DeviceCfg) : Except RuntimeError DeviceCfg :=
  match cfg.or (tables.smuAssignments.items.head?.map Prod.snd) with
  | some cfg => .ok cfg
  | none => .error .noSmu

/-- `HardwareManager.__init__`, up to the construction of its drivers: the first SMU and the
default DAQ where none is given. The NTC DAQ shares the driver of the DAQ where both have one
configuration. -/
def makeDrivers (tables : DeviceTables) (hw : GroupHardware) : Except RuntimeError Drivers := do
  let smu ← smuOrFirst tables hw.smuCfg
  let daq ← makeDaq (hw.daqCfg.getD tables.daqConfig)
  let relay ← createRelay hw.relayMatrixCfg
  match hw.ntcDaqCfg with
  | none => .ok ⟨smu, daq, relay, hw.dmmCfg, none⟩
  | some cfg =>
    let ntcDaq ← makeDaq cfg
    .ok ⟨smu, daq, relay, hw.dmmCfg, some ntcDaq⟩

/-! ## Runtimes -/

/-- A `GroupRuntime`: its worker, the group its hardware was resolved for, and its drivers. -/
structure GroupRuntime where
  workerPlan : WorkerPlan
  primaryGroup : String
  hardware : Drivers
  deriving DecidableEq

/-- `GroupRuntime.__init__`. -/
def makeRuntime (tables : DeviceTables) (plan : WorkerPlan) : Except RuntimeError GroupRuntime :=
  match plan.groups with
  | [] => .error .noGroup
  | primary :: _ =>
    match hardwareForGroup tables primary with
    | .error e => .error (.keyError e)
    | .ok hw => return ⟨plan, primary, ← makeDrivers tables hw⟩

/-- What constructing a `ConcurrentSupervisor` can raise. -/
inductive SupervisorError where
  | workers (e : ConstructError)
  | runtime (e : RuntimeError)

/-- `ConcurrentSupervisor.__init__`: the runtimes it makes. -/
def constructSupervisor (tables : DeviceTables) (routing : SenseRouting) (groupNames : List String)
    (batteryGroups : Option (Dict String BatteryGroup)) :
    Except SupervisorError (List GroupRuntime) :=
  match constructWorkers routing groupNames (batteryGroups.getD tables.batteryGroups) with
  | .error e => .error (.workers e)
  | .ok plans =>
    match plans.mapM (makeRuntime tables) with
    | .error e => .error (.runtime e)
    | .ok runtimes => .ok runtimes

/-! ## Whose hardware a group runs on -/

section Hardware

variable {tables : DeviceTables} {routing : SenseRouting} {groupNames : List String}
  {batteryGroups : Option (Dict String BatteryGroup)} {runtimes : List GroupRuntime}
  {r : GroupRuntime}

/-- The relay matrix, the DMM and the DAQ of the runtime are the group's own. -/
def DrivesOwnHardware (tables : DeviceTables) (r : GroupRuntime) (group : String) : Prop :=
  ∃ hw, hardwareForGroup tables group = .ok hw ∧ hw.relayMatrixCfg = some r.hardware.relay ∧
    hw.dmmCfg = r.hardware.dmm ∧ hw.daqCfg = some r.hardware.daq

/-- Every group of every worker runs on its own hardware. -/
def RunsOnOwnHardware (tables : DeviceTables) (routing : SenseRouting) (groupNames : List String)
    (batteryGroups : Option (Dict String BatteryGroup)) : Prop :=
  ∀ runtimes, constructSupervisor tables routing groupNames batteryGroups = .ok runtimes →
    ∀ r ∈ runtimes, ∀ group ∈ r.workerPlan.groups, DrivesOwnHardware tables r group

/-- Two groups resolve to one relay matrix, one DMM and one DAQ. -/
def SameHardware (a b : GroupHardware) : Prop :=
  a.relayMatrixCfg = b.relayMatrixCfg ∧ a.dmmCfg = b.dmmCfg ∧ a.daqCfg = b.daqCfg

theorem makeDaq_eq_ok {cfg daq : DeviceCfg} (h : makeDaq cfg = .ok daq) : daq = cfg := by
  rw [makeDaq] at h
  split at h
  · exact (Except.ok.inj h).symm
  · cases h

theorem createRelay_eq_ok {cfg : Option DeviceCfg} {relay : DeviceCfg}
    (h : createRelay cfg = .ok relay) : cfg = some relay := by
  cases cfg with
  | none => cases h
  | some cfg =>
    simp only [createRelay] at h
    split at h
    · split at h
      · cases h
      · exact congrArg some (Except.ok.inj h)
    · split at h
      · cases h
      · exact congrArg some (Except.ok.inj h)
    · cases h

/-- What a `HardwareManager` is made from. -/
theorem makeDrivers_eq_ok {hw : GroupHardware} {drivers : Drivers}
    (h : makeDrivers tables hw = .ok drivers) : hw.relayMatrixCfg = some drivers.relay ∧
      hw.dmmCfg = drivers.dmm ∧ drivers.daq = hw.daqCfg.getD tables.daqConfig := by
  obtain ⟨smu, -, h⟩ := exists_of_except_bind_eq_ok h
  obtain ⟨daq, hdaq, h⟩ := exists_of_except_bind_eq_ok h
  obtain ⟨relay, hrelay, h⟩ := exists_of_except_bind_eq_ok h
  cases hntc : hw.ntcDaqCfg with
  | none =>
    rw [hntc] at h
    obtain rfl := Except.ok.inj h
    exact ⟨createRelay_eq_ok hrelay, rfl, makeDaq_eq_ok hdaq⟩
  | some cfg =>
    rw [hntc] at h
    obtain ⟨ntcDaq, -, h⟩ := exists_of_except_bind_eq_ok h
    obtain rfl := Except.ok.inj h
    exact ⟨createRelay_eq_ok hrelay, rfl, makeDaq_eq_ok hdaq⟩

theorem makeRuntime_eq_ok {plan : WorkerPlan} (h : makeRuntime tables plan = .ok r) :
    r.workerPlan = plan ∧ plan.groups.head? = some r.primaryGroup ∧
      ∃ hw, hardwareForGroup tables r.primaryGroup = .ok hw ∧
        makeDrivers tables hw = .ok r.hardware := by
  rw [makeRuntime] at h
  split at h
  · cases h
  · next primary rest hgroups =>
    split at h
    · cases h
    · next hw hhw =>
      obtain ⟨drivers, hdrivers, h⟩ := exists_of_except_bind_eq_ok h
      obtain rfl := Except.ok.inj h
      exact ⟨rfl, by rw [hgroups]; rfl, hw, hhw, hdrivers⟩

theorem exists_of_mem_mapM {ε α β : Type} {f : α → Except ε β} {l : List α} {l' : List β} {b : β}
    (h : l.mapM f = .ok l') (hb : b ∈ l') : ∃ a ∈ l, f a = .ok b := by
  induction l generalizing l' with
  | nil =>
    obtain rfl := Except.ok.inj h
    exact absurd hb List.not_mem_nil
  | cons a l ih =>
    rw [List.mapM_cons] at h
    obtain ⟨c, hc, h⟩ := exists_of_except_bind_eq_ok h
    obtain ⟨rest, hrest, h⟩ := exists_of_except_bind_eq_ok h
    obtain rfl := Except.ok.inj h
    rcases List.mem_cons.mp hb with rfl | hb
    · exact ⟨a, List.mem_cons_self, hc⟩
    · obtain ⟨a', ha', hfa⟩ := ih hrest hb
      exact ⟨a', List.mem_cons_of_mem _ ha', hfa⟩

theorem exists_makeRuntime
    (h : constructSupervisor tables routing groupNames batteryGroups = .ok runtimes)
    (hr : r ∈ runtimes) : ∃ plan, makeRuntime tables plan = .ok r := by
  rw [constructSupervisor] at h
  split at h
  · cases h
  · next plans hplans =>
    split at h
    · cases h
    · next made hmade =>
      obtain rfl := Except.ok.inj h
      obtain ⟨plan, -, hplan⟩ := exists_of_mem_mapM hmade hr
      exact ⟨plan, hplan⟩

/-- **A worker runs on the hardware of its first group.** Its relay matrix, DMM and, where the
first group has one, DAQ are those of that group, and they are another group's own exactly when
that group resolves to the same ones. -/
theorem runtime_drives_first_group
    (h : constructSupervisor tables routing groupNames batteryGroups = .ok runtimes)
    (hr : r ∈ runtimes) : r.workerPlan.groups.head? = some r.primaryGroup ∧
      ∃ first, hardwareForGroup tables r.primaryGroup = .ok first ∧
        first.relayMatrixCfg = some r.hardware.relay ∧ first.dmmCfg = r.hardware.dmm ∧
          (first.daqCfg.isSome = true → first.daqCfg = some r.hardware.daq ∧
            ∀ group ∈ r.workerPlan.groups, DrivesOwnHardware tables r group ↔
              ∃ hw, hardwareForGroup tables group = .ok hw ∧ SameHardware hw first) := by
  obtain ⟨plan, hplan⟩ := exists_makeRuntime h hr
  obtain ⟨rfl, hhead, first, hfirst, hdrivers⟩ := makeRuntime_eq_ok hplan
  obtain ⟨hrelay, hdmm, hdaq⟩ := makeDrivers_eq_ok hdrivers
  refine ⟨hhead, first, hfirst, hrelay, hdmm, fun hsome ↦ ?_⟩
  obtain ⟨cfg, hcfg⟩ := Option.isSome_iff_exists.mp hsome
  have hown : first.daqCfg = some r.hardware.daq := by rw [hdaq, hcfg, Option.getD_some]
  refine ⟨hown, fun group _ ↦ ⟨?_, ?_⟩⟩
  · rintro ⟨hw, hhw, hr₁, hr₂, hr₃⟩
    exact ⟨hw, hhw, hr₁.trans hrelay.symm, hr₂.trans hdmm.symm, hr₃.trans hown.symm⟩
  · rintro ⟨hw, hhw, hs₁, hs₂, hs₃⟩
    exact ⟨hw, hhw, hs₁.trans hrelay, hs₂.trans hdmm, hs₃.trans hown⟩

end Hardware

/-! ## Two groups on one SMU -/

/-- Groups B1 and B2 on one SMU, with their positions on different relay matrices. -/
def twoMatricesTables : DeviceTables where
  ethernetDevices := ⟨[
    ("MATRIX_NUMATO_202",
      ⟨"ethernet", "MATRIX_NUMATO_202", "", "169.254.1.202", none, "RSE", none⟩),
    ("MATRIX_NUMATO_203",
      ⟨"ethernet", "MATRIX_NUMATO_203", "", "169.254.1.203", none, "RSE", none⟩)],
    by decide⟩
  smuAssignments := ⟨[("AUX_SMU_1", ⟨"PXIe", "", "PXI1Slot4", "", none, "RSE", none⟩)], by decide⟩
  dmmConfigs := ⟨[("MAIN_DMM", ⟨"PXIe", "", "PXI1Slot9", "", none, "RSE", none⟩)], by decide⟩
  daqConfigs := ⟨[("MAIN_DAQ", ⟨"PXIe", "", "PXI1Slot8", "", none, "RSE", none⟩)], by decide⟩
  allDaqConfigs := ⟨[("MAIN_DAQ", ⟨"PXIe", "", "PXI1Slot8", "", none, "RSE", none⟩)], by decide⟩
  daqConfig := ⟨"PXIe", "", "PXI1Slot8", "", none, "RSE", none⟩
  batteryGroups := ⟨[
    ("B1", ⟨"MATRIX_NUMATO_202", "AUX_SMU_1", "MAIN_DMM", "MAIN_DAQ", none, true, some 1⟩),
    ("B2", ⟨"MATRIX_NUMATO_203", "AUX_SMU_1", "MAIN_DMM", "MAIN_DAQ", none, true, none⟩)],
    by decide⟩

/-- The runtime of both groups: the hardware of B1. -/
def twoMatricesRuntime : GroupRuntime where
  workerPlan := ⟨"AUX_SMU_1", ["B1", "B2"], ∅⟩
  primaryGroup := "B1"
  hardware := ⟨⟨"PXIe", "", "PXI1Slot4", "", none, "RSE", none⟩,
    ⟨"PXIe", "", "PXI1Slot8", "", none, "RSE", none⟩,
    ⟨"ethernet", "MATRIX_NUMATO_202", "", "169.254.1.202", none, "RSE", none⟩,
    some ⟨"PXIe", "", "PXI1Slot9", "", none, "RSE", none⟩,
    some ⟨"PXIe", "", "PXI1Slot8", "", none, "RSE", none⟩⟩

theorem construct_twoMatrices :
    constructSupervisor twoMatricesTables SENSE_ROUTING ["B1", "B2"] none
      = .ok [twoMatricesRuntime] :=
  eq_ok_of_toOption (by decide +kernel)

theorem not_runsOnOwnHardware_twoMatrices :
    ¬RunsOnOwnHardware twoMatricesTables SENSE_ROUTING ["B1", "B2"] none := by
  intro h
  have hgroup : "B2" ∈ twoMatricesRuntime.workerPlan.groups := by decide
  obtain ⟨hw, hhw, hrelay, -⟩ := h _ construct_twoMatrices _ List.mem_cons_self "B2" hgroup
  have hmatrix : ((hardwareForGroup twoMatricesTables "B2").toOption.bind
      GroupHardware.relayMatrixCfg).map DeviceCfg.name = some "MATRIX_NUMATO_203" := by decide
  rw [hhw] at hmatrix
  exact absurd ((congrArg (Option.map DeviceCfg.name) hrelay).symm.trans hmatrix) (by decide)

theorem runtime_drives_first_group_twoMatrices :
    DrivesOwnHardware twoMatricesTables twoMatricesRuntime "B1" := by
  obtain ⟨-, first, hfirst, -, -, howns⟩ :=
    runtime_drives_first_group construct_twoMatrices List.mem_cons_self
  have hdaq : first.daqCfg.isSome = true := by
    obtain rfl := Except.ok.inj hfirst
    rfl
  exact ((howns hdaq).2 "B1" (by decide)).mpr ⟨first, hfirst, rfl, rfl, rfl⟩

end Nipxi
