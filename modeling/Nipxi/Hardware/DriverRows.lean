import Nipxi.Hardware.Relay.Comms
import Nipxi.Hardware.Relay.RelayRows
import Nipxi.Hardware.SmuRows

/-!
# One row for each call of a driver

Which external calls of the audited drivers hand over exactly one row (`oneRow_iff`). The wrappers
are set on the object, so a method that calls another public method of its object hands over a row
for it too: `SmuRequest.Alone`, `NumatoRequest.Alone` and `SerialRequest.Alone` list the calls that
make no other.
-/

open Effect

namespace Nipxi.Audit

variable {R W V : Type}

/-- The calls of an instrumented driver that hand over exactly one row are those whose request is
`alone` in the world of the call. Measurements are not among the requests. -/
def OneRowExactly (I : Interface R W V) (alone : R → W → Prop) : Prop :=
  ∀ (P : Type) (a : Auditor P V) (c : MethodCall V) (r : R) (depth : ℕ) (s t : Bench W P V),
    a.settings.enableRawHardwareLogging = true → I.Asks c r →
    ((instrumentHardwareInstance a.settings I.driver.plain).invoke a depth c s).last = some t →
    (rowCount t = rowCount s + 1 ↔ alone r s.world)

theorem oneRowExactly_of_calls {I : Interface R W V} {alone : R → W → Prop}
    (h : ∀ r w, (I.code r).calls w = false ↔ alone r w) : OneRowExactly I alone :=
  fun _ _ _ r _ s _ henabled hc hends ↦ (Interface.rows_iff henabled hc hends).trans (h r s.world)

/-- **One row for each call**: exactly for the calls that make no other. -/
theorem oneRow_iff {V W W' : Type} (smuCfg : SmuConfig) (smuLib : Smu.SmuLibrary V)
    (maxAttempts : ℕ) (relayCfg : RelayConfig) (net : Net W) (serialCfg : Relay.SerialConfig)
    (serialLib : Relay.SerialLibrary W') :
    OneRowExactly (Smu.smuInterface smuCfg smuLib maxAttempts)
      (Smu.SmuRequest.Alone smuCfg smuLib maxAttempts) ∧
    OneRowExactly (Relay.numatoInterface relayCfg net)
      (Relay.NumatoRequest.Alone relayCfg net) ∧
    OneRowExactly (Relay.serialInterface serialCfg serialLib)
      (Relay.SerialRequest.Alone serialCfg serialLib) :=
  ⟨oneRowExactly_of_calls Smu.calls_code_iff,
    oneRowExactly_of_calls Relay.NumatoRequest.calls_code_iff,
    oneRowExactly_of_calls Relay.SerialRequest.calls_code_iff⟩

/-- An instrument that refuses nothing. -/
def idleLibrary : Smu.SmuLibrary ℕ where
  toSourcingSession := Smu.refusingSession none none
  selfTest w := (none, w)
  instrumentModel w := (.ok "PXIe-4139", w)
  setDcCurrent w := (none, w)
  setCurrentLevelRange _ w := (none, w)
  setVoltageLimitRange _ w := (none, w)
  interruptibleSleep _ _ w := (none, w)
  repr _ := ""

/-- A port on which nothing is sent. -/
def idlePort : Relay.SerialLibrary Unit where
  open_ w := (.opened, w)
  isOpen w := (true, w)
  write _ w := (.done, w)
  readline w := (.done, "", w)
  close w := w
  normalized text := text

def idleSerial : Relay.SerialConfig :=
  ⟨"RELAY_COM3", "COM3", 4, fun _ ↦ "OPEN", fun _ ↦ "CLOSE", fun _ ↦ "QUERY", 1⟩

/-- An auditor whose database always works, on an SMU. -/
def smuAuditor : Auditor Unit (Smu.SmuValue ℕ) where
  settings := ⟨true, false, 1⟩
  deviceType := "SMU"
  name := some "SMU_PXI1Slot2"
  resource := some "PXI1Slot2"
  asInt _ := none
  runIdProvider p := (none, p)
  connect p := (none, p)
  insert _ p := (none, p)

/-- A connected SMU on which nothing was called yet. -/
def idleBench : Bench (Smu ℕ) Unit (Smu.SmuValue ℕ) :=
  .start ⟨true, true, 0, []⟩ false false ()

/-- A call of a method of the SMU, without arguments. -/
def idleCall (depth : ℕ) (name : String) : Prog Raised (Bench (Smu ℕ) Unit (Smu.SmuValue ℕ))
    (Smu.SmuValue ℕ) :=
  (instrumentHardwareInstance smuAuditor.settings
    (Smu.smuInterface ⟨"PXI1Slot2", "0"⟩ idleLibrary 3).driver.plain).invoke smuAuditor depth
    ⟨name, ⟨[], []⟩⟩

/-- A query calls nothing, so it is one row. -/
theorem oneRow_queryOutputState :
    (idleCall 1 "query_output_state" idleBench).last.map rowCount = some 1 := by
  have hends : (idleCall 1 "query_output_state" idleBench).last.isSome = true := by decide +kernel
  obtain ⟨t, ht⟩ := Option.isSome_iff_exists.mp hends
  have hdrivers := oneRow_iff ⟨"PXI1Slot2", "0"⟩ idleLibrary 3 numatoConfig playbackNet idleSerial
    idlePort
  have hone := (hdrivers.1 Unit smuAuditor ⟨"query_output_state", ⟨[], []⟩⟩ .queryOutputState 1
    idleBench t rfl ⟨rfl, _, rfl, rfl⟩ ht).mpr True.intro
  rw [ht]
  exact congrArg some hone

/-- The check of the output state calls the query, and is two rows. -/
theorem not_oneRow_checkCurrentOutputState :
    ¬OneRowExactly (Smu.smuInterface ⟨"PXI1Slot2", "0"⟩ idleLibrary 3) fun _ _ ↦ True := by
  intro h
  have hrows : (idleCall 2 "check_current_output_state" idleBench).last.map rowCount = some 2 := by
    decide +kernel
  obtain ⟨t, ht, htwo⟩ := Option.map_eq_some_iff.mp hrows
  have hone := (h Unit smuAuditor ⟨"check_current_output_state", ⟨[], []⟩⟩
    (.checkCurrentOutputState "") 2 idleBench t rfl ⟨rfl, _, rfl, rfl⟩ ht).mpr True.intro
  exact absurd (htwo.symm.trans hone) (by decide)

end Nipxi.Audit
