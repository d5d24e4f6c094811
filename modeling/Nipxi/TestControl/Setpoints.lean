import Mathlib.Algebra.Order.Group.Abs
import Mathlib.Algebra.Order.Ring.Rat
import Nipxi.TestControl.Traversal
import Nipxi.Utils.Validators

/-!
# What an accepted recipe makes the SMU do

The setpoints `validate_group_test_config` accepts, through `ChargeSequence.run` and
`DischargeSequence.run`, to the attributes `_configure_current_source` writes. The validator bounds
a current from above, the driver takes the absolute value of a discharge current and leaves a
charge current as it is, so what is commanded is safe exactly if the recipe is also bounded from
below: `acceptedSetpointsSafe_iff`. Setpoints are numbers here, and `nan` is none: it would pass the
validator, and the clamp of the cutoff too.
-/

open Collections Effect

namespace Nipxi

/-! ## The driver -/

/-- The attributes `_configure_current_source` writes, of a session that sources current. -/
structure CurrentSource where
  currentLevelRange : ℚ
  currentLevel : ℚ
  voltageLimitRange : ℚ
  voltageLimit : ℚ
  deriving DecidableEq

/-- `_configure_current_source`. -/
def configureCurrentSource (currentA voltageLimitV : ℚ) : CurrentSource where
  currentLevelRange := |currentA|
  currentLevel := currentA
  voltageLimitRange := |voltageLimitV|
  voltageLimit := voltageLimitV

/-- `set_charge_mode`. -/
def setChargeMode (currentA voltageLimitV : ℚ) : CurrentSource :=
  configureCurrentSource currentA voltageLimitV

/-- `set_discharge_mode`. -/
def setDischargeMode (currentA voltageLimitV : ℚ) : CurrentSource :=
  configureCurrentSource (-|currentA|) voltageLimitV

/-! ## Safety -/

/-- A charge within the limits of the battery and of the SMU. -/
def SafeCharge (battery : BatteryCfg) (smuMaxA : Option ℚ) (c : CurrentSource) : Prop :=
  0 < c.currentLevel ∧ c.currentLevel ≤ battery.maxChargeCurrentA ∧
    (∀ limit ∈ smuMaxA, c.currentLevel ≤ limit) ∧
    0 < c.voltageLimit ∧ c.voltageLimit ≤ battery.voltageMaxV

/-- A discharge within the limits of the battery and of the SMU. -/
def SafeDischarge (battery : BatteryCfg) (smuMaxA : Option ℚ) (c : CurrentSource) : Prop :=
  |c.currentLevel| ≤ battery.maxDischargeCurrentA ∧ ∀ limit ∈ smuMaxA, |c.currentLevel| ≤ limit

/-- A call that commands the SMU does so safely. -/
def SafeCall (battery : BatteryCfg) (smuMaxA : Option ℚ) : StationCall → Prop
  | .call (.setMode mode currentA voltageLimitV) _ =>
    if mode = "charge" then SafeCharge battery smuMaxA (setChargeMode currentA voltageLimitV)
    else SafeDischarge battery smuMaxA (setDischargeMode currentA voltageLimitV)
  | _ => True

/-- A call that does not command the SMU. -/
def StationCall.Uncommanding : StationCall → Prop
  | .call (.setMode _ _ _) _ => False
  | _ => True

/-- `max(target_v, floor_v)`. -/
def clampCutoffV (targetV floorV : ℚ) : ℚ := max targetV floorV

/-- `cutoff_v` of a discharge. -/
def effectiveCutoffV {X : Type} (r : SequenceRun X) : ℚ :=
  clampCutoffV r.dischargeCutoffV r.voltageMinV

/-! ## What a sequence asks for -/

section Performs

variable {X : Type}

/-- Only calls with `K` were added to the trace. -/
def Only (K : StationCall → Prop) : StationSession X → StationSession X → Prop :=
  Added StationSession.trace fun new ↦ ∀ c ∈ new, K c

theorem Only.refl (K : StationCall → Prop) (s : StationSession X) : Only K s s := by
  refine ⟨[], rfl, fun c hc ↦ ?_⟩
  exact absurd hc List.not_mem_nil

theorem Only.trans {K : StationCall → Prop} {s t u : StationSession X} (h : Only K s t)
    (h' : Only K t u) : Only K s u := by
  refine Added.append h h' fun old new hold hnew c hc ↦ ?_
  rcases List.mem_append.mp hc with hc | hc
  · exact hnew c hc
  · exact hold c hc

instance (K : StationCall → Prop) : IsPreorder (StationSession X) (Only K) where
  refl s := Only.refl K s
  trans _ _ _ h h' := h.trans h'

/-- Every run of `x` ends, and asks only for what satisfies `K`. -/
abbrev Performs {α : Type} (K : StationCall → Prop) (x : StationProg X α) : Prop :=
  Ends (Only K) x

theorem only_after {K : StationCall → Prop} {c : StationCall} (hc : K c) (s : StationSession X)
    (world : X) : Only K s (s.after c world) := by
  refine ⟨[c], rfl, fun d hd ↦ ?_⟩
  rw [List.mem_singleton.mp hd]
  exact hc

variable {st : Station X} {r : SequenceRun X} {K : StationCall → Prop}

/-- Calls that do not command the SMU are asked for freely. -/
theorem traverses_only (hK : ∀ c : StationCall, c.Uncommanding → K c) :
    Traverses st (Only K) where
  call op hop := by
    refine ends_call fun s ↦ only_after (hK _ ?_) s _
    cases op <;> trivial
  read reading _ := ends_read fun s ↦ only_after (hK (.read reading _) trivial) s _
  emergencyOutputOff reason s := ⟨_, rfl, only_after (hK (.outputOff reason _) trivial) s _⟩
  note c hc s := by
    refine ⟨_, rfl, only_after (hK c ?_) s s.world⟩
    cases c with
    | emergencyStop e => trivial
    | safeCancelShutdown e => trivial
    | call op raised => cases hc
    | read reading result => cases hc
    | outputOff reason verified => cases hc
    | extraFields raised => cases hc
    | sequence ended finished => cases hc

theorem ends_only_fields (hK : ∀ c : StationCall, c.Uncommanding → K c) (g : GuardedRun X) :
    Ends (Only K) (extraRunSummaryFields g) :=
  ends_extraRunSummaryFields fun s raised ↦ only_after (hK (.extraFields raised) trivial) s _

/-- **What a sequence asks the SMU for.** A charge and a discharge, with the settings of each. -/
theorem spans_only (hK : ∀ c : StationCall, c.Uncommanding → K c)
    (hcharge : ∀ raised, K (.call (.setMode "charge" r.chargeCurrentA r.chargeVoltageV) raised))
    (hdischarge : ∀ raised,
      K (.call (.setMode "discharge" r.dischargeCurrentA r.voltageMaxV) raised)) :
    Spans st r (Only K) where
  toTraverses := traverses_only hK
  finalVoltage := ends_read fun s ↦ only_after (hK (.read .finalVoltage _) trivial) s _
  charge := ends_call fun s ↦ only_after (hcharge _) s _
  discharge := ends_call fun s ↦ only_after (hdischarge _) s _
  chargeFields := ends_only_fields hK _
  dischargeFields := ends_only_fields hK _
  cycleFields := ends_only_fields hK _
  senseConnect route _ := ends_call fun s ↦
    only_after (hK (.call (.senseConnect route.channel) _) trivial) s _
  senseDisconnect route _ := ends_call fun s ↦
    only_after (hK (.call (.senseDisconnect route.channel) _) trivial) s _

/-! ## A run that commands the SMU -/

/-- The SMU was commanded as the phase has it. -/
def Commanded (ph : Phase X) (t : StationSession X) : Prop :=
  .call (.setMode ph.name ph.currentA ph.voltageLimitV) none ∈ t.trace

/-- What was asked for stays asked for. -/
theorem commanded_of_ends {α : Type} {ph : Phase X} {x : StationProg X α}
    (hx : Ends (Only fun _ ↦ True) x) : Within (Kept (Commanded ph)) x :=
  hx.within.mono fun s t ⟨new, htrace, _⟩ hmem ↦ by
    unfold Commanded
    rw [htrace]
    exact List.mem_append_right new hmem

/-- A station that does all it is asked, with a charged battery. -/
def obligingStation : Station Unit :=
  { healthyStation with read := fun _ x ↦ (.ok 4, x) }

/-- Without a sense channel, and with a station that does all it is asked, a phase commands the
SMU. -/
theorem post_runPhase_obligingStation {r : SequenceRun Unit} {ph : Phase Unit}
    (hsense : r.sense = none) (s : StationSession Unit) :
    Post (runPhase obligingStation r ph) (fun _ t ↦ Commanded ph t) (fun _ t ↦ Commanded ph t)
      s := by
  have hR : Traverses obligingStation (Only fun _ ↦ True) := traverses_only fun _ _ ↦ trivial
  have := hR.toIsPreorder
  have hfields : Ends (Only fun _ ↦ True) (extraRunSummaryFields ph.guarded) :=
    ends_only_fields (fun _ _ ↦ trivial) _
  have henergize : ∀ s, Post (energize obligingStation r ph) (fun _ t ↦ Commanded ph t)
      (fun _ t ↦ Commanded ph t) s := by
    intro s
    have hpolarity : checkBatteryPolarity obligingStation r ph 4 = pure ⟨⟩ :=
      if_neg (by decide +kernel)
    refine (post_bind _).mpr ((post_of_ok rfl).mpr ?_)
    rw [hpolarity]
    refine (post_bind _).mpr ((post_pure _).mpr ?_)
    refine (post_bind _).mpr ((post_of_ok rfl).mpr ?_)
    exact within_kept_iff.mp (commanded_of_ends hR.dwells.afterSetMode) _ List.mem_cons_self
  have hbody : ∀ s, Post (phaseBody obligingStation r ph) (fun _ t ↦ Commanded ph t)
      (fun _ t ↦ Commanded ph t) s := by
    intro s
    refine (post_bind _).mpr ((post_of_ok rfl).mpr ?_)
    refine (post_bind _).mpr ((post_of_ok rfl).mpr ?_)
    refine (post_bind _).mpr ((post_of_ok rfl).mpr ?_)
    refine (post_bind _).mpr ((post_of_ok rfl).mpr ?_)
    refine (post_bind _).mpr ((post_of_ok rfl).mpr ?_)
    have hconnect : connectSense obligingStation r ph = pure ⟨⟩ := by rw [connectSense, hsense]
    rw [hconnect]
    refine (post_bind _).mpr ((post_pure _).mpr ((post_ensuring _).mpr ?_))
    have hdisconnect : disconnectSense obligingStation r ph = pure ⟨⟩ := by
      rw [disconnectSense, hsense]
    rw [hdisconnect]
    exact (henergize _).mono (fun _ t ht ↦ ht) fun _ t ht ↦ ht
  have hcomplete : ∀ t, Commanded ph t → Post (complete obligingStation ph.guarded ph.completed)
      (fun _ u ↦ Commanded ph u) (fun _ u ↦ Commanded ph u) t := within_kept_iff.mp
    (commanded_of_ends (hR.dwells.complete hfields ph.completed))
  refine (post_bind _).mpr ((post_of_ok rfl).mpr ((post_bind _).mpr ((post_handle _).mpr ?_)))
  refine (hbody _).mono (fun _ t ht ↦ hcomplete t ht) fun e t ht ↦ ?_
  have hhandler : Ends (Only fun _ ↦ True) (do
      recordFailure obligingStation ph.guarded (exceptClause ph.guarded e)
      shutDown obligingStation ph.guarded (exceptClause ph.guarded e) e
      (Prog.raise e : StationProg Unit PUnit)) :=
    .bind (hR.dwells.recordFailure hfields (ends_read fun s ↦ only_after trivial s _) _) fun _ ↦
      .bind (hR.dwells.shutDown _ _) fun _ ↦ .raise _
  exact (within_kept_iff.mp (commanded_of_ends hhandler) t ht).mono
    (fun _ u hu ↦ hcomplete u hu) fun _ u hu ↦ hu

end Performs

/-! ## What an accepted recipe commands -/

/-- A sequence is run with a recipe, on a battery. -/
def RunsRecipe {X : Type} (setpoints : Setpoints ℚ) (battery : BatteryCfg) (r : SequenceRun X) :
    Prop :=
  ReadsAs (numberAt setpoints)
      ⟨r.chargeCurrentA, r.chargeVoltageV, r.dischargeCurrentA, r.dischargeCutoffV⟩ ∧
    r.voltageMinV = battery.voltageMinV ∧ r.voltageMaxV = battery.voltageMaxV

/-- If the recipe of a group is accepted, every run with it commands the SMU safely, whatever the
station does, and discharges no further than the floor. -/
def AcceptedSetpointsSafe (cfg : ValidatorConfig ℚ) (group : String) : Prop :=
  ∀ accepted, validateGroupTestConfig cfg group = .ok accepted →
    ∀ battery ∈ cfg.battery group, ∀ (X : Type) (r : SequenceRun X),
      RunsRecipe accepted.testSetpoints battery r →
        battery.voltageMinV ≤ effectiveCutoffV r ∧ ∀ (st : Station X) (cls : SequenceClass),
          Performs (SafeCall battery (cfg.smuMaxA group)) (cls.run st r)

/-- The setpoints of a group are bounded from below: the charge is positive, and the discharge
current no more negative than the limits of the battery and of the SMU. -/
def BoundedBelow (cfg : ValidatorConfig ℚ) (group : String) : Prop :=
  (∀ x ∈ cfg.number group "charge_current_a", 0 < x) ∧
    (∀ x ∈ cfg.number group "charge_voltage_v", 0 < x) ∧
      ∀ x ∈ cfg.number group "discharge_current_a",
        (∀ battery ∈ cfg.battery group, -battery.maxDischargeCurrentA ≤ x) ∧
          ∀ limit ∈ cfg.smuMaxA group, -limit ≤ x

theorem safeDischarge_iff {battery : BatteryCfg} {smuMaxA : Option ℚ} {a v : ℚ} :
    SafeDischarge battery smuMaxA (setDischargeMode a v)
      ↔ (-battery.maxDischargeCurrentA ≤ a ∧ a ≤ battery.maxDischargeCurrentA) ∧
        ∀ limit ∈ smuMaxA, -limit ≤ a ∧ a ≤ limit := by
  have habs : |(setDischargeMode a v).currentLevel| = |a| := by
    change |(-|a|)| = |a|
    rw [abs_neg, abs_abs]
  rw [SafeDischarge, habs]
  simp only [abs_le]

section Run

variable {cfg : ValidatorConfig ℚ} {group : String} {accepted : AcceptedRecipe ℚ}

theorem acceptedSetpointsSafe_of_boundedBelow (h : BoundedBelow cfg group) :
    AcceptedSetpointsSafe cfg group := by
  intro accepted haccepted battery hbattery X r ⟨hr, hmin, hmax⟩
  obtain ⟨hcharge, hvoltage, hdischarge⟩ := h
  obtain ⟨_, p, hbattery', hp, hp', hlimits⟩ := exists_of_validateGroupTestConfig haccepted
  obtain rfl := Option.some.inj (hbattery'.symm.trans hbattery)
  have hcc := Option.some.inj (hp'.chargeCurrentA.symm.trans hr.chargeCurrentA)
  have hcv := Option.some.inj (hp'.chargeVoltageV.symm.trans hr.chargeVoltageV)
  have hdc := Option.some.inj (hp'.dischargeCurrentA.symm.trans hr.dischargeCurrentA)
  dsimp only at hcc hcv hdc
  obtain ⟨hfloor, hsmu⟩ := hdischarge _ hp.dischargeCurrentA
  refine ⟨?_, fun st cls ↦ (spans_only (fun c hc ↦ ?_) (fun _ ↦ ?_) fun _ ↦ ?_).run cls⟩
  · rw [← hmin]
    exact le_max_right _ _
  · unfold SafeCall
    split
    · exact hc.elim
    · trivial
  · change SafeCharge _ _ (setChargeMode r.chargeCurrentA r.chargeVoltageV)
    rw [← hcc, ← hcv]
    exact ⟨hcharge _ hp.chargeCurrentA, hlimits.chargeCurrentA, hlimits.charges,
      hvoltage _ hp.chargeVoltageV, hlimits.chargeVoltageV⟩
  · change SafeDischarge _ _ (setDischargeMode r.dischargeCurrentA r.voltageMaxV)
    rw [← hdc, safeDischarge_iff]
    exact ⟨⟨hfloor _ hbattery, hlimits.dischargeCurrentA⟩, fun limit hlimit ↦
      ⟨hsmu limit hlimit, hlimits.discharges limit hlimit⟩⟩

/-- A run with a recipe, on a battery. -/
def recipeRun (battery : BatteryCfg) (p : OperatingPoint) : SequenceRun Unit where
  channel := 1
  relayAddress := 0
  relayMatrixName := "MATRIX_A"
  smuModel := "PXI-4130"
  smuResource := "PXI1Slot7"
  sense := none
  chargeCurrentA := p.chargeCurrentA
  chargeVoltageV := p.chargeVoltageV
  dischargeCurrentA := p.dischargeCurrentA
  dischargeCutoffV := p.dischargeCutoffV
  voltageMinV := battery.voltageMinV
  voltageMaxV := battery.voltageMaxV
  chargeFields := fun x ↦ (.ok Dict.empty, x)
  dischargeFields := fun x ↦ (.ok Dict.empty, x)
  verificationResult := fun _ ↦ "DISABLED"
  cycleCount := 1
  cycleRestS := 0

theorem safeCall_of_performs {battery : BatteryCfg} {smuMaxA : Option ℚ} {r : SequenceRun Unit}
    {ph : Phase Unit} (hsense : r.sense = none)
    (h : Performs (SafeCall battery smuMaxA) (runPhase obligingStation r ph)) :
    SafeCall battery smuMaxA
      (.call (.setMode ph.name ph.currentA ph.voltageLimitV) none) := by
  obtain ⟨t, hlast, new, htrace, hnew⟩ := h ⟨(), []⟩
  have hmem : Commanded ph t :=
    of_post_of_last (post_runPhase_obligingStation hsense ⟨(), []⟩) hlast
  unfold Commanded at hmem
  rw [htrace, List.append_nil] at hmem
  exact hnew _ hmem

theorem AcceptedSetpointsSafe.boundedBelow (h : AcceptedSetpointsSafe cfg group)
    (haccepted : validateGroupTestConfig cfg group = .ok accepted) :
    BoundedBelow cfg group := by
  obtain ⟨battery, p, hbattery, hp, hp', -⟩ := exists_of_validateGroupTestConfig haccepted
  obtain ⟨-, hsafe⟩ := h accepted haccepted battery hbattery Unit (recipeRun battery p)
    ⟨hp', rfl, rfl⟩
  have hcharge : SafeCharge battery (cfg.smuMaxA group)
      (setChargeMode p.chargeCurrentA p.chargeVoltageV) :=
    safeCall_of_performs rfl (hsafe obligingStation .charge)
  have hdischarge : SafeDischarge battery (cfg.smuMaxA group)
      (setDischargeMode p.dischargeCurrentA battery.voltageMaxV) :=
    safeCall_of_performs rfl (hsafe obligingStation .discharge)
  obtain ⟨hpos, -, -, hvoltage, -⟩ := hcharge
  obtain ⟨hfloor, hsmu⟩ := safeDischarge_iff.mp hdischarge
  refine ⟨fun x hx ↦ ?_, fun x hx ↦ ?_, fun x hx ↦ ⟨fun b hb ↦ ?_, fun limit hlimit ↦ ?_⟩⟩
  · rw [← Option.some.inj (hp.chargeCurrentA.symm.trans hx)]
    exact hpos
  · rw [← Option.some.inj (hp.chargeVoltageV.symm.trans hx)]
    exact hvoltage
  · obtain rfl := Option.some.inj (hbattery.symm.trans hb)
    rw [← Option.some.inj (hp.dischargeCurrentA.symm.trans hx)]
    exact hfloor.1
  · rw [← Option.some.inj (hp.dischargeCurrentA.symm.trans hx)]
    exact (hsmu limit hlimit).1

/-- **Exactly which recipes are commanded safely.** The validator bounds them from above; they
are safe if they are bounded from below as well. -/
theorem acceptedSetpointsSafe_iff
    (haccepted : validateGroupTestConfig cfg group = .ok accepted) :
    AcceptedSetpointsSafe cfg group ↔ BoundedBelow cfg group :=
  ⟨fun h ↦ h.boundedBelow haccepted, acceptedSetpointsSafe_of_boundedBelow⟩

/-! ## A group with one battery -/

section Example

/-- A device of which only the rated current matters here. -/
def ratedDevice (maxCurrentA : Option ℚ) : DeviceCfg :=
  ⟨"ethernet", "NUMATO_RELAY_MATRIX", "PXI1Slot7", "192.168.1.10", none, "RSE", maxCurrentA⟩

/-- `BATTERY_GROUPS` with the one group `B1`, and this charge current. -/
def groupB1 (chargeCurrentA : SetpointValue ℚ) : ValidatorConfig ℚ where
  tables :=
    { ethernetDevices := Dict.empty.insert "MATRIX_A" (ratedDevice none)
      smuAssignments := Dict.empty.insert "AUX_SMU_1" (ratedDevice (some 1))
      dmmConfigs := Dict.empty.insert "DMM_1" (ratedDevice none)
      daqConfigs := Dict.empty
      allDaqConfigs := Dict.empty
      daqConfig := ratedDevice none
      batteryGroups := Dict.empty.insert "B1" {
        relayMatrix := some "MATRIX_A"
        smu := some "AUX_SMU_1"
        dmm := some "DMM_1"
        daq := none
        ntcDaq := none
        enabled := true
        senseChannel := none } }
  recipes := Dict.empty.insert "B1" {
    batteryType := some "HUB"
    testSetpoints := some (Dict.assign [("charge_current_a", chargeCurrentA),
      ("charge_voltage_v", .number (21 / 5) "4.2"),
      ("discharge_current_a", .number 1 "1.0"),
      ("discharge_cutoff_v", .number 3 "3.0")] Dict.empty) }
  batteryConfigs := Dict.empty.insert "HUB" ⟨2, 21 / 5, 2, 11 / 4⟩
  systemMode := .development

theorem exists_accepted_of_toOption {N : Type} [ConfigNumber N] [DecidableEq N]
    {cfg : ValidatorConfig N} {group : String}
    (h : (validateGroupTestConfig cfg group).toOption.isSome = true) :
    ∃ accepted, validateGroupTestConfig cfg group = .ok accepted := by
  obtain ⟨accepted, haccepted⟩ := Option.isSome_iff_exists.mp h
  exact ⟨accepted, eq_ok_of_toOption haccepted⟩

/-- A charge current of 1 A is commanded safely. -/
theorem acceptedSetpointsSafe_groupB1 :
    AcceptedSetpointsSafe (groupB1 (.number 1 "1.0")) "B1" := by
  obtain ⟨_, haccepted⟩ : ∃ accepted,
      validateGroupTestConfig (groupB1 (.number 1 "1.0")) "B1" = .ok accepted :=
    exists_accepted_of_toOption (by decide +kernel)
  refine (acceptedSetpointsSafe_iff haccepted).mpr ?_
  unfold BoundedBelow
  decide +kernel

/-- A charge current of -5 A is accepted: the battery is then discharged at more than it bears,
by an SMU rated at 1 A. -/
theorem not_acceptedSetpointsSafe_reversed :
    ¬∀ cfg group, AcceptedSetpointsSafe cfg group := by
  intro h
  obtain ⟨_, haccepted⟩ : ∃ accepted,
      validateGroupTestConfig (groupB1 (.number (-5) "-5.0")) "B1" = .ok accepted :=
    exists_accepted_of_toOption (by decide +kernel)
  have hnumber : (groupB1 (.number (-5) "-5.0")).number "B1" "charge_current_a" = some (-5) := by
    decide +kernel
  exact absurd (((h _ _).boundedBelow haccepted).1 (-5) hnumber) (by decide +kernel)

end Example

end Run

end Nipxi
