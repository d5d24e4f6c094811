import Mathlib.Data.List.Nodup
import Nipxi.Utils.Numbers

/-!
# The validation of the device configuration

`utils/device_validator.py`. The configuration is written by hand, so its entries may be any
values. The checks call methods on some of them, hash others and compare others with a number, and
what does not allow that ends the validation with an exception; an accepted configuration is what
the checks ask for. `soundGate_iff` says which configurations are neither the one nor the other
gap: no check looks for the relay matrix of a group among the configured ones, and an address is
only compared with the bounds, so that a `bool` or a `float` passes for an integer.
-/

open Collections

namespace Nipxi

/-! ## Values -/

/-- A value of the configuration. -/
inductive PyValue where
  | none
  | bool (b : Bool)
  | int (n : ℤ)
  | float (x : PyNumber)
  | str (s : String)
  /-- Any other object, which neither compares with numbers nor has a `lower`: what `==` knows it
  by, whether it can be a key of a dictionary, and whether it counts as true. -/
  | object (id : ℕ) (isHashable isTruthy : Bool)
  deriving DecidableEq

/-- What dictionaries know values by. -/
inductive PyKey where
  | none
  | number (x : PyNumber)
  | text (s : String)
  | object (id : ℕ)
  deriving DecidableEq

namespace PyValue

/-- A `bool` is known by its number. -/
def key : PyValue → PyKey
  | none => .none
  | bool b => .number (.finite (if b then 1 else 0))
  | int n => .number (.finite n)
  | float x => .number x
  | str s => .text s
  | object id _ _ => .object id

/-- The value as a key of a dictionary, if it can be one. -/
def hash? : PyValue → Option PyKey
  | object id isHashable _ => if isHashable then some (.object id) else Option.none
  | v => some v.key

/-- `value == name`, where `nan` is not even equal to itself. -/
def eqKey (v : PyValue) (name : PyKey) : Bool := v.key = name ∧ name ≠ .number .nan

/-- `bool(value)`. -/
def truthy : PyValue → Bool
  | none => false
  | bool b => b
  | int n => n ≠ 0
  | float x => x ≠ .finite 0
  | str s => s ≠ ""
  | object _ _ isTruthy => isTruthy

/-- The value as an operand of `<=` with a number, if it can be one. -/
def number? : PyValue → Option PyNumber
  | bool b => some (.finite (if b then 1 else 0))
  | int n => some (.finite n)
  | float x => some x
  | _ => Option.none

/-- The value as a receiver of `lower`, if it can be one. -/
def text? : PyValue → Option String
  | str s => some s
  | _ => Option.none

/-- `1 <= addr <= limit`. -/
def inRange (addr limit : PyValue) : Option Bool := do
  let a ← addr.number?
  if (PyNumber.finite 1).le a then do
    let l ← limit.number?
    some (a.le l)
  else some false

end PyValue

/-! ## The configuration -/

/-- The fields of the configuration of a device. -/
abbrev DeviceFields := Dict String PyValue

/-- `cfg.get(field)`. -/
def fieldOf (cfg : DeviceFields) (field : String) : PyValue := (cfg.get? field).getD .none

/-- A group of `BATTERY_GROUPS`. -/
structure GroupEntry where
  relayMatrix : PyValue
  /-- The positions, with `relay_address` of each; `none` for what is no dictionary. -/
  positions : Option (Dict PyKey (Option PyValue))

/-- What the checks read of `config/devices.py`, with `none` for what is no dictionary. -/
structure DevCfg where
  smuAssignments : Dict PyKey (Option DeviceFields)
  dmmConfigs : Dict PyKey (Option DeviceFields)
  daqConfigs : Dict PyKey (Option DeviceFields)
  numatoRelayMatrixConfigs : Dict PyKey (Option DeviceFields)
  relaySerialConfigs : Dict PyKey (Option DeviceFields)
  batteryGroups : Dict PyKey (Option GroupEntry)

inductive DeviceKind where
  | smu
  | dmm
  | daq
  | relayEthernet
  | relaySerial
  deriving DecidableEq

/-- `REQUIRED_FIELDS`. -/
def requiredFields : DeviceKind → List String
  | .smu | .dmm | .daq => ["resource"]
  | .relayEthernet => ["ip", "port", "channel_count"]
  | .relaySerial => ["port"]

/-- An entry of the registry. -/
structure DeviceEntry where
  kind : DeviceKind
  name : PyKey
  cfg : Option DeviceFields

/-- `_build_registry`. -/
def buildRegistry (dev : DevCfg) : List DeviceEntry :=
  let entries (kind : DeviceKind) (table : Dict PyKey (Option DeviceFields)) :=
    table.items.map fun item ↦ DeviceEntry.mk kind item.1 item.2
  entries .smu dev.smuAssignments ++ entries .dmm dev.dmmConfigs ++ entries .daq dev.daqConfigs ++
    entries .relayEthernet dev.numatoRelayMatrixConfigs ++
    entries .relaySerial dev.relaySerialConfigs

/-- A problem of a configuration; `user` is a device, or a group and a position. -/
inductive DeviceProblem where
  /-- `{kind} '{name}': missing required field '{field}'`. -/
  | missingField (kind : DeviceKind) (name : PyKey) (field : String)
  /-- `{kind} '{name}': type {relay_type!r} is not registered in RelayFactory`. -/
  | unregisteredType (kind : DeviceKind) (name : PyKey) (relayType : String)
  /-- `{kind} '{name}': failed to instantiate -- {e}`. -/
  | notInstantiable (kind : DeviceKind) (name : PyKey) (message : String)
  /-- `Duplicate {what} {value!r}: used by both {first} and {second}`. -/
  | duplicate (what : String) (value first second : List PyKey)
  /-- `BATTERY_GROUPS[{group!r}]['positions'][{pos}]: missing 'relay_address'`. -/
  | missingAddress (group pos : PyKey)
  /-- `relay '{name}': num_channels ({num_channels}) != channel_count ({channel_count})`. -/
  | channelMismatch (name : PyKey) (numChannels channelCount : PyValue)
  /-- `relay '{name}': channel_count ({channel_count}) != Settings.RELAY_COUNT`. -/
  | channelDrift (name : PyKey) (channelCount : PyValue)
  /-- `relay_address {addr} is out of range for relay '{name}' (1..{limit})`. -/
  | outOfRange (group pos : PyKey) (addr : PyValue) (name : PyKey) (limit : PyValue)
  deriving DecidableEq

/-! ## The checks -/

/-- Checks one after the other. A check that raises ends them all, with `none`. -/
def runChecks : List (Option (List DeviceProblem)) → Option (List DeviceProblem)
  | [] => some []
  | check :: rest => do
    let found ← check
    let more ← runChecks rest
    some (found ++ more)

theorem isSome_runChecks {checks : List (Option (List DeviceProblem))} :
    (runChecks checks).isSome = true ↔ ∀ check ∈ checks, check.isSome = true := by
  induction checks with
  | nil => exact iff_of_true rfl (List.forall_mem_nil _)
  | cons check rest ih =>
    rw [List.forall_mem_cons, ← ih, runChecks]
    cases check with
    | none => exact iff_of_false Bool.false_ne_true fun h ↦ absurd h.1 Bool.false_ne_true
    | some found =>
      cases runChecks rest with
      | none => exact iff_of_false Bool.false_ne_true fun h ↦ absurd h.2 Bool.false_ne_true
      | some more => exact iff_of_true rfl ⟨rfl, rfl⟩

theorem runChecks_eq_nil_iff {checks : List (Option (List DeviceProblem))} :
    runChecks checks = some [] ↔ ∀ check ∈ checks, check = some [] := by
  induction checks with
  | nil => exact iff_of_true rfl (List.forall_mem_nil _)
  | cons check rest ih =>
    rw [List.forall_mem_cons, ← ih, runChecks]
    cases check with
    | none => exact iff_of_false (fun h ↦ by cases h) fun h ↦ by cases h.1
    | some found =>
      cases runChecks rest with
      | none => exact iff_of_false (fun h ↦ by cases h) fun h ↦ by cases h.2
      | some more =>
        have hpure : ((some found).bind fun found ↦ (some more).bind fun more ↦
            some (found ++ more)) = some (found ++ more) := rfl
        simp only [Option.bind_eq_bind, hpure, Option.some.injEq, List.append_eq_nil_iff]

/-- `_check_required_fields`. -/
def checkRequiredFields (kind : DeviceKind) (name : PyKey) (cfg : DeviceFields) :
    List DeviceProblem :=
  ((requiredFields kind).filter fun field ↦ !(fieldOf cfg field).truthy).map
    (.missingField kind name)

/-- `RelayFactory.supported_types()`. -/
def supportedTypes : List String := ["ethernet", "serial"]

/-- `_check_factory_type`. -/
def checkFactoryType (kind : DeviceKind) (name : PyKey) (cfg : DeviceFields) :
    Option (List DeviceProblem) :=
  if kind = .relayEthernet ∨ kind = .relaySerial then do
    let text ← ((cfg.get? "type").getD (.str "")).text?
    some (if text.toLower ∈ supportedTypes then []
      else [.unregisteredType kind name text.toLower])
  else some []

/-- The three checks of a device. `create` is the construction of its driver: the message of its
exception, if there is one. -/
def checkDevice (create : DeviceKind → DeviceFields → Option String) (d : DeviceEntry) :
    Option (List DeviceProblem) := do
  let cfg ← d.cfg
  let found ← checkFactoryType d.kind d.name cfg
  some (checkRequiredFields d.kind d.name cfg ++ found ++
    (create d.kind cfg).toList.map (.notInstantiable d.kind d.name))

/-- What a check for duplicates goes through: a problem of its own, or a key, if the value can be
one, with its user. -/
inductive CheckedEntry (κ : Type) where
  | problem (p : DeviceProblem)
  | value (key : Option κ) (user : List PyKey)

/-- The loop `if key in seen: .. else: seen[key] = ..`. -/
def checkDuplicates {κ : Type} [DecidableEq κ]
    (problem : κ → List PyKey → List PyKey → DeviceProblem) (seen : Dict κ (List PyKey)) :
    List (CheckedEntry κ) → Option (List DeviceProblem)
  | [] => some []
  | .problem p :: rest => (checkDuplicates problem seen rest).map (p :: ·)
  | .value none _ :: _ => none
  | .value (some key) user :: rest =>
    match seen.get? key with
    | some first => (checkDuplicates problem seen rest).map (problem key first user :: ·)
    | none => checkDuplicates problem (seen.insert key user) rest

/-- The entries of a check for one field of devices of some kinds, where it has a value. -/
def fieldEntries (kinds : List DeviceKind) (field : String) (registry : List DeviceEntry) :
    List (CheckedEntry PyKey) :=
  registry.filterMap fun d ↦
    if d.kind ∈ kinds then
      -- What is no dictionary has already ended the checks of the devices.
      d.cfg.bind fun cfg ↦
        if (fieldOf cfg field).truthy then some (.value (fieldOf cfg field).hash? [d.name])
        else none
    else none

/-- The kinds that share the PXI bus. -/
def busKinds : List DeviceKind := [.smu, .dmm, .daq]

/-- `_check_duplicate_names`. -/
def checkDuplicateNames (registry : List DeviceEntry) : Option (List DeviceProblem) :=
  checkDuplicates (fun name ↦ .duplicate "device name" [name]) Dict.empty
    (registry.map fun d ↦ .value (some d.name) [d.name])

/-- `_check_duplicate_resources`. -/
def checkDuplicateResources (registry : List DeviceEntry) : Option (List DeviceProblem) :=
  checkDuplicates (fun resource ↦ .duplicate "VISA resource" [resource]) Dict.empty
    (fieldEntries busKinds "resource" registry)

/-- `_check_duplicate_ips`. -/
def checkDuplicateIps (registry : List DeviceEntry) : Option (List DeviceProblem) :=
  checkDuplicates (fun ip ↦ .duplicate "IP address" [ip]) Dict.empty
    (fieldEntries [.relayEthernet] "ip" registry)

/-- `_check_duplicate_com_ports`. -/
def checkDuplicateComPorts (registry : List DeviceEntry) : Option (List DeviceProblem) :=
  checkDuplicates (fun port ↦ .duplicate "COM port" [port]) Dict.empty
    (fieldEntries [.relaySerial] "port" registry)

/-- A position of a group. -/
structure PositionEntry where
  group : PyKey
  pos : PyKey
  relayMatrix : PyValue
  address : PyValue

/-- The positions of all groups. -/
def positionEntries (groups : Dict PyKey (Option GroupEntry)) : List PositionEntry :=
  groups.items.flatMap fun g ↦
    (g.2.toList.flatMap fun grp ↦ (grp.positions.toList.flatMap fun positions ↦
      positions.items.filterMap fun p ↦ p.2.map fun address ↦
        ⟨g.1, p.1, grp.relayMatrix, address⟩))

/-- The groups, their positions and each of these are dictionaries. -/
def isNested (groups : Dict PyKey (Option GroupEntry)) : Bool :=
  groups.items.all fun g ↦ match g.2.bind (·.positions) with
    | some positions => positions.items.all fun p ↦ p.2.isSome
    | none => false

/-- The key `(relay_matrix, addr)` of a position, if it can be one. -/
def PositionEntry.hash? (p : PositionEntry) : Option (PyKey × PyKey) := do
  let matrix ← p.relayMatrix.hash?
  let address ← p.address.hash?
  some (matrix, address)

/-- The entry of a position. -/
def PositionEntry.checked (p : PositionEntry) : CheckedEntry (PyKey × PyKey) :=
  if p.address = .none then .problem (.missingAddress p.group p.pos)
  else .value p.hash? [p.group, p.pos]

/-- `_check_relay_identifiers`. -/
def checkRelayIdentifiers (groups : Dict PyKey (Option GroupEntry)) :
    Option (List DeviceProblem) :=
  if isNested groups then
    checkDuplicates (fun key ↦ .duplicate "relay_address" [key.2, key.1]) Dict.empty
      ((positionEntries groups).map PositionEntry.checked)
  else none

/-- `Settings.RELAY_COUNT`. -/
def RELAY_COUNT : ℤ := 32

/-- `channel_count or num_channels or Settings.RELAY_COUNT`. -/
def relayLimit (cfg : DeviceFields) : PyValue :=
  if (fieldOf cfg "channel_count").truthy then fieldOf cfg "channel_count"
  else if (fieldOf cfg "num_channels").truthy then fieldOf cfg "num_channels"
  else .int RELAY_COUNT

/-- The address of a position, if it is one of the relay matrix. -/
def checkAddress (name : PyKey) (limit : PyValue) (p : PositionEntry) :
    Option (List DeviceProblem) :=
  if p.relayMatrix.eqKey name then do
    let inRange ← p.address.inRange limit
    some (if inRange then [] else [.outOfRange p.group p.pos p.address name limit])
  else some []

/-- `_check_relay_count_consistency` for one relay matrix. -/
def checkRelayCount (positions : List PositionEntry) (name : PyKey) (cfg : DeviceFields) :
    Option (List DeviceProblem) :=
  let numChannels := fieldOf cfg "num_channels"
  let channelCount := fieldOf cfg "channel_count"
  runChecks (some (if numChannels.eqKey channelCount.key then []
      else [.channelMismatch name numChannels channelCount]) ::
    some (if channelCount.eqKey (PyValue.int RELAY_COUNT).key then []
      else [.channelDrift name channelCount]) ::
    positions.map (checkAddress name (relayLimit cfg)))

/-- The positions with an address, which are what `_check_relay_identifiers` returns. -/
def addressedPositions (dev : DevCfg) : List PositionEntry :=
  (positionEntries dev.batteryGroups).filter fun p ↦ p.address ≠ .none

/-- A relay matrix in `_check_relay_count_consistency`. -/
def checkRelay (positions : List PositionEntry) (relay : PyKey × Option DeviceFields) :
    Option (List DeviceProblem) :=
  match relay.2 with
  | some cfg => checkRelayCount positions relay.1 cfg
  | none => some []

/-- `validate_devices`. -/
def validateDevices (create : DeviceKind → DeviceFields → Option String) (dev : DevCfg) :
    Option (List DeviceProblem) :=
  let registry := buildRegistry dev
  runChecks (registry.map (checkDevice create) ++
    [checkDuplicateNames registry, checkDuplicateResources registry, checkDuplicateIps registry,
      checkDuplicateComPorts registry, checkRelayIdentifiers dev.batteryGroups] ++
    dev.numatoRelayMatrixConfigs.items.map (checkRelay (addressedPositions dev)))

/-! ## What the checks ask for -/

/-- The type of a relay, as `lower` is called on it. -/
def relayType (cfg : DeviceFields) : PyValue := (cfg.get? "type").getD (.str "")

/-- The device is a relay. -/
def DeviceEntry.IsRelay (d : DeviceEntry) : Prop := d.kind = .relayEthernet ∨ d.kind = .relaySerial

/-- The checks of the device do not raise. -/
def DeviceEntry.Typed (d : DeviceEntry) : Prop :=
  ∃ cfg, d.cfg = some cfg ∧ (d.IsRelay → (relayType cfg).text?.isSome = true)

/-- The checks of the device find nothing. -/
def DeviceEntry.Accepted (create : DeviceKind → DeviceFields → Option String) (d : DeviceEntry) :
    Prop :=
  ∃ cfg, d.cfg = some cfg ∧ (∀ field ∈ requiredFields d.kind, (fieldOf cfg field).truthy = true) ∧
    (d.IsRelay → ∃ text, (relayType cfg).text? = some text ∧ text.toLower ∈ supportedTypes) ∧
    create d.kind cfg = none

/-- All values can be keys. -/
def Hashable {κ : Type} (entries : List (CheckedEntry κ)) : Prop :=
  ∀ user, CheckedEntry.value none user ∉ entries

/-- The keys of the entries. -/
def entryKeys {κ : Type} (entries : List (CheckedEntry κ)) : List κ :=
  entries.filterMap fun
    | .problem _ => none
    | .value key _ => key

/-- No entry is a problem, and no key occurs twice. -/
structure NoDuplicates {κ : Type} (entries : List (CheckedEntry κ)) : Prop where
  hashable : Hashable entries
  unproblematic : ∀ p, CheckedEntry.problem p ∉ entries
  nodup : (entryKeys entries).Nodup

section Duplicates

variable {κ : Type} {problem : κ → List PyKey → List PyKey → DeviceProblem}
  {entries rest : List (CheckedEntry κ)}

theorem hashable_cons {entry : CheckedEntry κ} :
    Hashable (entry :: rest) ↔ (∀ user, entry ≠ .value none user) ∧ Hashable rest := by
  simp only [Hashable, List.mem_cons, not_or, forall_and, ne_eq, eq_comm]

theorem isSome_checkDuplicates [DecidableEq κ] {seen : Dict κ (List PyKey)} :
    (checkDuplicates problem seen entries).isSome = true ↔ Hashable entries := by
  induction entries generalizing seen with
  | nil => exact iff_of_true rfl fun _ ↦ List.not_mem_nil
  | cons entry rest ih =>
    rw [hashable_cons, checkDuplicates.eq_def]
    cases entry with
    | problem p =>
      dsimp only
      rw [Option.isSome_map, ih]
      exact (and_iff_right fun _ h ↦ by cases h).symm
    | value key user =>
      cases key with
      | none => exact iff_of_false Bool.false_ne_true fun h ↦ h.1 user rfl
      | some key =>
        have hkey : ∀ other, CheckedEntry.value (some key) user ≠ .value none other := by
          intro other h
          cases h
        rw [and_iff_right hkey]
        dsimp only
        split
        · rw [Option.isSome_map, ih]
        · exact ih

theorem noDuplicates_cons {key : κ} {user : List PyKey} :
    NoDuplicates (.value (some key) user :: rest) ↔ key ∉ entryKeys rest ∧ NoDuplicates rest := by
  have hkeys : entryKeys (.value (some key) user :: rest) = key :: entryKeys rest := rfl
  constructor
  · rintro ⟨hhash, hproblem, hnodup⟩
    rw [hkeys, List.nodup_cons] at hnodup
    exact ⟨hnodup.1, (hashable_cons.mp hhash).2, fun p hp ↦ hproblem p (List.mem_cons_of_mem _ hp),
      hnodup.2⟩
  · rintro ⟨hfresh, hhash, hproblem, hnodup⟩
    refine ⟨hashable_cons.mpr ⟨fun other h ↦ ?_, hhash⟩, fun p hp ↦ ?_, ?_⟩
    · cases h
    · rcases List.mem_cons.mp hp with h | hp
      · cases h
      · exact hproblem p hp
    · rw [hkeys, List.nodup_cons]
      exact ⟨hfresh, hnodup⟩

theorem checkDuplicates_eq_nil_iff [DecidableEq κ] {seen : Dict κ (List PyKey)} :
    checkDuplicates problem seen entries = some [] ↔
      NoDuplicates entries ∧ ∀ key ∈ entryKeys entries, seen.get? key = none := by
  induction entries generalizing seen with
  | nil =>
    exact iff_of_true rfl ⟨⟨fun _ ↦ List.not_mem_nil, fun _ ↦ List.not_mem_nil, List.nodup_nil⟩,
      List.forall_mem_nil _⟩
  | cons entry rest ih =>
    rw [checkDuplicates.eq_def]
    cases entry with
    | problem p =>
      refine iff_of_false (fun h ↦ ?_) fun h ↦ h.1.unproblematic p List.mem_cons_self
      obtain ⟨found, -, hfound⟩ := Option.map_eq_some_iff.mp h
      cases hfound
    | value key user =>
      cases key with
      | none =>
        refine iff_of_false (fun h ↦ ?_) fun h ↦ h.1.hashable user List.mem_cons_self
        cases h
      | some key =>
        have hkeys : entryKeys (.value (some key) user :: rest) = key :: entryKeys rest := rfl
        rw [noDuplicates_cons, hkeys, List.forall_mem_cons]
        dsimp only
        cases hseen : seen.get? key with
        | some first =>
          refine iff_of_false (fun h ↦ ?_) fun h ↦ ?_
          · obtain ⟨found, -, hfound⟩ := Option.map_eq_some_iff.mp h
            cases hfound
          · cases h.2.1
        | none =>
          -- The key is seen from here on, so what follows must not have it.
          have hget : ∀ k, (seen.insert key user).get? k = none ↔ k ≠ key ∧ seen.get? k = none := by
            intro k
            rw [Dict.get?_insert]
            by_cases hk : k = key
            · rw [if_pos hk]
              exact iff_of_false (fun h ↦ by cases h) fun h ↦ h.1 hk
            · rw [if_neg hk, and_iff_right hk]
          simp only [ih, hget]
          constructor
          · rintro ⟨hnone, hrest⟩
            exact ⟨⟨fun hmem ↦ (hrest key hmem).1 rfl, hnone⟩, trivial, fun k hk ↦ (hrest k hk).2⟩
          · rintro ⟨⟨hfresh, hnone⟩, -, hrest⟩
            exact ⟨hnone, fun k hk ↦ ⟨fun heq ↦ hfresh (heq ▸ hk), hrest k hk⟩⟩

theorem checkDuplicates_empty_eq_nil_iff [DecidableEq κ] :
    checkDuplicates problem Dict.empty entries = some [] ↔ NoDuplicates entries := by
  rw [checkDuplicates_eq_nil_iff]
  exact and_iff_left fun _ _ ↦ rfl

end Duplicates

section Devices

variable {create : DeviceKind → DeviceFields → Option String} {kind : DeviceKind} {name : PyKey}
  {cfg : DeviceFields} {d : DeviceEntry}

theorem isSome_checkFactoryType : (checkFactoryType kind name cfg).isSome = true ↔
    (kind = .relayEthernet ∨ kind = .relaySerial → (relayType cfg).text?.isSome = true) := by
  unfold checkFactoryType
  split
  · next hrelay =>
    rw [forall_prop_of_true hrelay, relayType]
    cases ((cfg.get? "type").getD (.str "")).text? <;> rfl
  · next hrelay => exact iff_of_true rfl fun h ↦ absurd h hrelay

theorem checkFactoryType_eq_nil_iff : checkFactoryType kind name cfg = some [] ↔
    (kind = .relayEthernet ∨ kind = .relaySerial →
      ∃ text, (relayType cfg).text? = some text ∧ text.toLower ∈ supportedTypes) := by
  unfold checkFactoryType
  split
  · next hrelay =>
    rw [forall_prop_of_true hrelay, relayType]
    cases ((cfg.get? "type").getD (.str "")).text? with
    | none =>
      refine iff_of_false (fun h ↦ by cases h) ?_
      rintro ⟨_, h, -⟩
      cases h
    | some text =>
      have hexists : (∃ other, some text = some other ∧ other.toLower ∈ supportedTypes) ↔
          text.toLower ∈ supportedTypes := by
        constructor
        · rintro ⟨other, hother, hmem⟩
          rwa [← Option.some.inj hother] at hmem
        · exact fun hmem ↦ ⟨text, rfl, hmem⟩
      rw [hexists]
      by_cases hsupported : text.toLower ∈ supportedTypes
      · exact iff_of_true (congrArg some (if_pos hsupported)) hsupported
      · refine iff_of_false (fun h ↦ ?_) hsupported
        have hfound := Option.some.inj h
        rw [if_neg hsupported] at hfound
        cases hfound
  · next hrelay => exact iff_of_true rfl fun h ↦ absurd h hrelay

theorem checkDevice_eq_map : checkDevice create ⟨kind, name, some cfg⟩ =
    (checkFactoryType kind name cfg).map fun found ↦ checkRequiredFields kind name cfg ++ found ++
      (create kind cfg).toList.map (.notInstantiable kind name) := by
  have hbind : checkDevice create ⟨kind, name, some cfg⟩ =
      (checkFactoryType kind name cfg).bind fun found ↦
        some (checkRequiredFields kind name cfg ++ found ++
          (create kind cfg).toList.map (.notInstantiable kind name)) := rfl
  rw [hbind]
  cases checkFactoryType kind name cfg <;> rfl

theorem checkRequiredFields_eq_nil_iff : checkRequiredFields kind name cfg = [] ↔
    ∀ field ∈ requiredFields kind, (fieldOf cfg field).truthy = true := by
  rw [checkRequiredFields, List.map_eq_nil_iff, List.filter_eq_nil_iff]
  simp only [Bool.not_eq_true', Bool.not_eq_false]

theorem isSome_checkDevice : (checkDevice create d).isSome = true ↔ d.Typed := by
  obtain ⟨kind, name, cfg⟩ := d
  cases cfg with
  | none =>
    refine iff_of_false Bool.false_ne_true fun h ↦ ?_
    obtain ⟨_, hcfg, -⟩ := h
    cases hcfg
  | some cfg =>
    rw [checkDevice_eq_map, Option.isSome_map, isSome_checkFactoryType]
    constructor
    · exact fun h ↦ ⟨cfg, rfl, h⟩
    · rintro ⟨other, hcfg, h⟩
      obtain rfl := Option.some.inj hcfg
      exact h

theorem checkDevice_eq_nil_iff : checkDevice create d = some [] ↔ d.Accepted create := by
  obtain ⟨kind, name, cfg⟩ := d
  cases cfg with
  | none =>
    refine iff_of_false (fun h ↦ by cases h) fun h ↦ ?_
    obtain ⟨_, hcfg, -⟩ := h
    cases hcfg
  | some cfg =>
    have hparts : checkDevice create ⟨kind, name, some cfg⟩ = some [] ↔
        checkFactoryType kind name cfg = some [] ∧ checkRequiredFields kind name cfg = [] ∧
          create kind cfg = none := by
      rw [checkDevice_eq_map]
      constructor
      · intro h
        obtain ⟨found, hfound, hnil⟩ := Option.map_eq_some_iff.mp h
        obtain ⟨hfront, hcreate⟩ := List.append_eq_nil_iff.mp hnil
        obtain ⟨hrequired, rfl⟩ := List.append_eq_nil_iff.mp hfront
        rw [List.map_eq_nil_iff, Option.toList_eq_nil_iff] at hcreate
        exact ⟨hfound, hrequired, hcreate⟩
      · rintro ⟨hfound, hrequired, hcreate⟩
        rw [hfound, hrequired, hcreate]
        rfl
    rw [hparts, checkFactoryType_eq_nil_iff, checkRequiredFields_eq_nil_iff]
    constructor
    · rintro ⟨htype, hrequired, hcreate⟩
      exact ⟨cfg, rfl, hrequired, htype, hcreate⟩
    · rintro ⟨other, hcfg, hrequired, htype, hcreate⟩
      obtain rfl := Option.some.inj hcfg
      exact ⟨htype, hrequired, hcreate⟩

end Devices

/-! ## What the configuration has -/

/-- The comparisons of the addresses with the bounds of the relay matrices are possible. -/
def Comparable (dev : DevCfg) : Prop :=
  ∀ name cfg, (name, some cfg) ∈ dev.numatoRelayMatrixConfigs.items →
    ∀ p ∈ addressedPositions dev, p.relayMatrix.eqKey name = true →
      (p.address.inRange (relayLimit cfg)).isSome = true

/-- Each value has a type that the operations of the checks are defined for. -/
structure WellTyped (dev : DevCfg) : Prop where
  devices : ∀ d ∈ buildRegistry dev, d.Typed
  resources : Hashable (fieldEntries busKinds "resource" (buildRegistry dev))
  ips : Hashable (fieldEntries [.relayEthernet] "ip" (buildRegistry dev))
  comPorts : Hashable (fieldEntries [.relaySerial] "port" (buildRegistry dev))
  nested : isNested dev.batteryGroups = true
  identifiers : Hashable ((positionEntries dev.batteryGroups).map PositionEntry.checked)
  comparable : Comparable dev

/-- The relay matrices have the channels they should have, and no address is out of their range. -/
def Consistent (dev : DevCfg) : Prop :=
  ∀ name cfg, (name, some cfg) ∈ dev.numatoRelayMatrixConfigs.items →
    (fieldOf cfg "num_channels").eqKey (fieldOf cfg "channel_count").key = true ∧
    (fieldOf cfg "channel_count").eqKey (PyValue.int RELAY_COUNT).key = true ∧
    ∀ p ∈ addressedPositions dev, p.relayMatrix.eqKey name = true →
      p.address.inRange (relayLimit cfg) = some true

/-- What the checks ask for. -/
structure Clean (create : DeviceKind → DeviceFields → Option String) (dev : DevCfg) : Prop where
  devices : ∀ d ∈ buildRegistry dev, d.Accepted create
  names : ((buildRegistry dev).map DeviceEntry.name).Nodup
  resources : NoDuplicates (fieldEntries busKinds "resource" (buildRegistry dev))
  ips : NoDuplicates (fieldEntries [.relayEthernet] "ip" (buildRegistry dev))
  comPorts : NoDuplicates (fieldEntries [.relaySerial] "port" (buildRegistry dev))
  nested : isNested dev.batteryGroups = true
  identifiers : NoDuplicates ((positionEntries dev.batteryGroups).map PositionEntry.checked)
  consistent : Consistent dev

section Validation

variable {create : DeviceKind → DeviceFields → Option String} {dev : DevCfg}
  {positions : List PositionEntry} {name : PyKey} {cfg : DeviceFields}

theorem hashable_names (registry : List DeviceEntry) :
    Hashable (registry.map fun d ↦ CheckedEntry.value (some d.name) [d.name]) := by
  intro user hmem
  obtain ⟨d, -, hd⟩ := List.mem_map.mp hmem
  cases hd

theorem entryKeys_names (registry : List DeviceEntry) :
    entryKeys (registry.map fun d ↦ CheckedEntry.value (some d.name) [d.name]) =
      registry.map DeviceEntry.name := by
  induction registry with
  | nil => rfl
  | cons d registry ih => exact congrArg (d.name :: ·) ih

theorem noDuplicates_names_iff (registry : List DeviceEntry) :
    NoDuplicates (registry.map fun d ↦ CheckedEntry.value (some d.name) [d.name]) ↔
      (registry.map DeviceEntry.name).Nodup := by
  constructor
  · exact fun h ↦ entryKeys_names registry ▸ h.nodup
  · refine fun h ↦ ⟨hashable_names registry, fun p hp ↦ ?_, (entryKeys_names registry).symm ▸ h⟩
    obtain ⟨d, -, hd⟩ := List.mem_map.mp hp
    cases hd

theorem isSome_checkAddress {limit : PyValue} {p : PositionEntry} :
    (checkAddress name limit p).isSome = true ↔
      (p.relayMatrix.eqKey name = true → (p.address.inRange limit).isSome = true) := by
  unfold checkAddress
  split
  · next hname =>
    rw [forall_prop_of_true hname]
    cases p.address.inRange limit <;> rfl
  · next hname => exact iff_of_true rfl fun h ↦ absurd h hname

theorem checkAddress_eq_nil_iff {limit : PyValue} {p : PositionEntry} :
    checkAddress name limit p = some [] ↔
      (p.relayMatrix.eqKey name = true → p.address.inRange limit = some true) := by
  unfold checkAddress
  split
  · next hname =>
    rw [forall_prop_of_true hname]
    rcases p.address.inRange limit with _ | _ | _
    · exact iff_of_false (fun h ↦ by cases h) fun h ↦ by cases h
    · exact iff_of_false (fun h ↦ by cases h) fun h ↦ by cases h
    · exact iff_of_true rfl rfl
  · next hname => exact iff_of_true rfl fun h ↦ absurd h hname

theorem isSome_checkRelayCount : (checkRelayCount positions name cfg).isSome = true ↔
    ∀ p ∈ positions, p.relayMatrix.eqKey name = true →
      (p.address.inRange (relayLimit cfg)).isSome = true := by
  rw [checkRelayCount, isSome_runChecks, List.forall_mem_cons, List.forall_mem_cons,
    List.forall_mem_map]
  simp only [Option.isSome_some, true_and, isSome_checkAddress]

theorem checkRelayCount_eq_nil_iff : checkRelayCount positions name cfg = some [] ↔
    (fieldOf cfg "num_channels").eqKey (fieldOf cfg "channel_count").key = true ∧
    (fieldOf cfg "channel_count").eqKey (PyValue.int RELAY_COUNT).key = true ∧
    ∀ p ∈ positions, p.relayMatrix.eqKey name = true →
      p.address.inRange (relayLimit cfg) = some true := by
  have hsome : ∀ (P : Prop) [Decidable P] (problem : DeviceProblem),
      some (if P then [] else [problem]) = some [] ↔ P := by
    intro P _ problem
    by_cases h : P
    · exact iff_of_true (congrArg some (if_pos h)) h
    · refine iff_of_false (fun hnil ↦ ?_) h
      rw [if_neg h] at hnil
      cases hnil
  rw [checkRelayCount, runChecks_eq_nil_iff, List.forall_mem_cons, List.forall_mem_cons,
    List.forall_mem_map, hsome, hsome]
  simp only [checkAddress_eq_nil_iff]

/-- The relay matrices, of which what is no dictionary has already ended the checks. -/
theorem forall_checkRelay {P : Option (List DeviceProblem) → Prop} (hnil : P (some []))
    {relays : List (PyKey × Option DeviceFields)} :
    (∀ relay ∈ relays, P (checkRelay positions relay)) ↔
      ∀ name cfg, (name, some cfg) ∈ relays → P (checkRelayCount positions name cfg) := by
  constructor
  · exact fun h name cfg hmem ↦ h (name, some cfg) hmem
  · rintro h ⟨name, cfg⟩ hmem
    cases cfg with
    | none => exact hnil
    | some cfg => exact h name cfg hmem

theorem isSome_checkRelayIdentifiers {groups : Dict PyKey (Option GroupEntry)} :
    (checkRelayIdentifiers groups).isSome = true ↔ isNested groups = true ∧
      Hashable ((positionEntries groups).map PositionEntry.checked) := by
  unfold checkRelayIdentifiers
  split
  · next hnested => rw [isSome_checkDuplicates, and_iff_right hnested]
  · next hnested => exact iff_of_false Bool.false_ne_true fun h ↦ hnested h.1

theorem checkRelayIdentifiers_eq_nil_iff {groups : Dict PyKey (Option GroupEntry)} :
    checkRelayIdentifiers groups = some [] ↔ isNested groups = true ∧
      NoDuplicates ((positionEntries groups).map PositionEntry.checked) := by
  unfold checkRelayIdentifiers
  split
  · next hnested => rw [checkDuplicates_empty_eq_nil_iff, and_iff_right hnested]
  · next hnested => exact iff_of_false (fun h ↦ by cases h) fun h ↦ hnested h.1

theorem forall_checks {P : Option (List DeviceProblem) → Prop} (hnil : P (some [])) :
    (∀ check ∈ (buildRegistry dev).map (checkDevice create) ++
        [checkDuplicateNames (buildRegistry dev), checkDuplicateResources (buildRegistry dev),
          checkDuplicateIps (buildRegistry dev), checkDuplicateComPorts (buildRegistry dev),
          checkRelayIdentifiers dev.batteryGroups] ++
        dev.numatoRelayMatrixConfigs.items.map (checkRelay (addressedPositions dev)), P check) ↔
      (∀ d ∈ buildRegistry dev, P (checkDevice create d)) ∧
        P (checkDuplicateNames (buildRegistry dev)) ∧
        P (checkDuplicateResources (buildRegistry dev)) ∧
        P (checkDuplicateIps (buildRegistry dev)) ∧
        P (checkDuplicateComPorts (buildRegistry dev)) ∧
        P (checkRelayIdentifiers dev.batteryGroups) ∧
        ∀ name cfg, (name, some cfg) ∈ dev.numatoRelayMatrixConfigs.items →
          P (checkRelayCount (addressedPositions dev) name cfg) := by
  rw [List.forall_mem_append, List.forall_mem_append, List.forall_mem_map, List.forall_mem_map,
    forall_checkRelay hnil, and_assoc]
  refine and_congr_right fun _ ↦ ?_
  simp only [List.forall_mem_cons, and_assoc]
  exact and_congr_right fun _ ↦ and_congr_right fun _ ↦ and_congr_right fun _ ↦
    and_congr_right fun _ ↦ and_congr_right fun _ ↦ and_iff_right (List.forall_mem_nil _)

/-- The validation returns if and only if each value has a type the checks work on. -/
theorem isSome_validateDevices :
    (validateDevices create dev).isSome = true ↔ WellTyped dev := by
  rw [validateDevices, isSome_runChecks,
    forall_checks (P := fun check ↦ check.isSome = true) rfl]
  simp only [isSome_checkDevice, checkDuplicateNames, isSome_checkDuplicates,
    checkDuplicateResources, checkDuplicateIps, checkDuplicateComPorts,
    isSome_checkRelayIdentifiers, isSome_checkRelayCount, hashable_names, true_and, and_assoc]
  constructor
  · rintro ⟨hdevices, hresources, hips, hcomPorts, hnested, hidentifiers, hcomparable⟩
    exact ⟨hdevices, hresources, hips, hcomPorts, hnested, hidentifiers, hcomparable⟩
  · rintro ⟨hdevices, hresources, hips, hcomPorts, hnested, hidentifiers, hcomparable⟩
    exact ⟨hdevices, hresources, hips, hcomPorts, hnested, hidentifiers, hcomparable⟩

/-- The validation finds nothing if and only if the configuration is what the checks ask for. -/
theorem validateDevices_eq_nil_iff :
    validateDevices create dev = some [] ↔ Clean create dev := by
  rw [validateDevices, runChecks_eq_nil_iff, forall_checks (P := fun check ↦ check = some []) rfl]
  simp only [checkDevice_eq_nil_iff, checkDuplicateNames, checkDuplicates_empty_eq_nil_iff,
    checkDuplicateResources, checkDuplicateIps, checkDuplicateComPorts,
    checkRelayIdentifiers_eq_nil_iff, checkRelayCount_eq_nil_iff, noDuplicates_names_iff, and_assoc]
  constructor
  · rintro ⟨hdevices, hnames, hresources, hips, hcomPorts, hnested, hidentifiers, hconsistent⟩
    exact ⟨hdevices, hnames, hresources, hips, hcomPorts, hnested, hidentifiers, hconsistent⟩
  · rintro ⟨hdevices, hnames, hresources, hips, hcomPorts, hnested, hidentifiers, hconsistent⟩
    exact ⟨hdevices, hnames, hresources, hips, hcomPorts, hnested, hidentifiers, hconsistent⟩

end Validation

/-! ## The gate -/

/-- The values of a field of the devices of some kinds, up to `==`. -/
def fieldKeys (kinds : List DeviceKind) (field : String) (registry : List DeviceEntry) :
    List PyKey :=
  registry.filterMap fun d ↦
    if d.kind ∈ kinds then d.cfg.map fun cfg ↦ (fieldOf cfg field).key else none

/-- What an accepted configuration should have. -/
structure SoundConfiguration (dev : DevCfg) : Prop where
  positions : ((positionEntries dev.batteryGroups).map fun p ↦
    (p.relayMatrix.key, p.address.key)).Nodup
  matrices : ∀ p ∈ positionEntries dev.batteryGroups, p.relayMatrix ≠ .none →
    ∃ name cfg, (name, some cfg) ∈ dev.numatoRelayMatrixConfigs.items ∧
      p.relayMatrix.eqKey name = true ∧ ∃ (n : ℤ) (count : ℚ), p.address = .int n ∧
        (fieldOf cfg "channel_count").number? = some (.finite count) ∧ 1 ≤ n ∧ n ≤ count
  names : ((buildRegistry dev).map DeviceEntry.name).Nodup
  resources : (fieldKeys busKinds "resource" (buildRegistry dev)).Nodup
  ips : (fieldKeys [.relayEthernet] "ip" (buildRegistry dev)).Nodup

/-- The relay matrices of the groups are configured ones, and their addresses are integers. -/
def KnownRelays (dev : DevCfg) : Prop :=
  ∀ p ∈ positionEntries dev.batteryGroups, p.relayMatrix ≠ .none →
    (∃ name ∈ dev.numatoRelayMatrixConfigs.keys, p.relayMatrix.eqKey name = true) ∧
      ∃ n : ℤ, p.address = .int n

section Gate

variable {create : DeviceKind → DeviceFields → Option String} {dev : DevCfg}

theorem PyValue.hash?_eq {v : PyValue} {k : PyKey} (h : v.hash? = some k) : v.key = k := by
  cases v with
  | object id isHashable isTruthy =>
    cases isHashable with
    | false => cases h
    | true => exact Option.some.inj h
  | _ => exact Option.some.inj h

theorem PositionEntry.hash?_eq {p : PositionEntry} {k : PyKey × PyKey} (h : p.hash? = some k) :
    (p.relayMatrix.key, p.address.key) = k := by
  obtain ⟨matrix, hmatrix, h⟩ := Option.bind_eq_some_iff.mp h
  obtain ⟨address, haddress, h⟩ := Option.bind_eq_some_iff.mp h
  rw [PyValue.hash?_eq hmatrix, PyValue.hash?_eq haddress]
  exact Option.some.inj h

/-- Where all values are there and can be keys, they are the keys of the check. -/
theorem entryKeys_fieldEntries {kinds : List DeviceKind} {field : String}
    {registry : List DeviceEntry} (hthere : ∀ d ∈ registry, d.kind ∈ kinds → ∀ cfg,
      d.cfg = some cfg → (fieldOf cfg field).truthy = true)
    (hhash : Hashable (fieldEntries kinds field registry)) :
    entryKeys (fieldEntries kinds field registry) = fieldKeys kinds field registry := by
  rw [entryKeys, fieldEntries, List.filterMap_filterMap, fieldKeys]
  refine List.filterMap_congr fun d hd ↦ ?_
  by_cases hkind : d.kind ∈ kinds
  · rw [if_pos hkind, if_pos hkind]
    cases hcfg : d.cfg with
    | none => rfl
    | some cfg =>
      have htruthy := hthere d hd hkind cfg hcfg
      have hentry : CheckedEntry.value (fieldOf cfg field).hash? [d.name] ∈
          fieldEntries kinds field registry := by
        refine List.mem_filterMap.mpr ⟨d, hd, ?_⟩
        rw [if_pos hkind, hcfg, Option.bind_some, if_pos htruthy]
      rw [Option.bind_some, if_pos htruthy, Option.bind_some, Option.map_some]
      cases hkey : (fieldOf cfg field).hash? with
      | none => exact absurd (hkey ▸ hentry) (hhash _)
      | some key => exact congrArg some (PyValue.hash?_eq hkey).symm
  · rw [if_neg hkind, if_neg hkind]
    rfl

theorem entryKeys_checked {positions : List PositionEntry}
    (h : NoDuplicates (positions.map PositionEntry.checked)) :
    entryKeys (positions.map PositionEntry.checked) =
      positions.map fun p ↦ (p.relayMatrix.key, p.address.key) := by
  rw [entryKeys, List.filterMap_map, ← List.filterMap_eq_map]
  refine List.filterMap_congr fun p hp ↦ ?_
  have hentry : p.checked ∈ positions.map PositionEntry.checked := List.mem_map_of_mem hp
  rw [Function.comp_apply, Function.comp_apply]
  by_cases haddress : p.address = .none
  · rw [PositionEntry.checked, if_pos haddress] at hentry
    exact absurd hentry (h.unproblematic _)
  · rw [PositionEntry.checked, if_neg haddress] at hentry ⊢
    cases hkey : p.hash? with
    | none => exact absurd (hkey ▸ hentry) (h.hashable _)
    | some key => exact congrArg some (PositionEntry.hash?_eq hkey).symm

theorem number?_of_key {v : PyValue} {x : PyNumber} (h : v.key = .number x) :
    v.number? = some x := by
  cases v with
  | bool b => exact congrArg some (PyKey.number.inj h)
  | int n => exact congrArg some (PyKey.number.inj h)
  | float y => exact congrArg some (PyKey.number.inj h)
  | none => cases h
  | str s => cases h
  | object id isHashable isTruthy => cases h

theorem finite_le_iff {x y : ℚ} : (PyNumber.finite x).le (.finite y) = true ↔ x ≤ y := by
  have hle : (PyNumber.finite x).le (.finite y) = !decide (y < x) := rfl
  rw [hle, Bool.not_eq_true', decide_eq_false_iff_not, not_lt]

theorem le_and_le_of_inRange {n : ℤ} {limit : PyValue} {count : ℚ}
    (hlimit : limit.number? = some (.finite count))
    (h : (PyValue.int n).inRange limit = some true) : 1 ≤ n ∧ n ≤ count := by
  have hrange : (if (PyNumber.finite 1).le (.finite n) then
      limit.number?.bind fun l ↦ some ((PyNumber.finite n).le l) else some false) = some true := h
  split at hrange
  · next hone =>
    rw [hlimit] at hrange
    have hone' : (1 : ℚ) ≤ n := finite_le_iff.mp hone
    exact ⟨by exact_mod_cast hone', finite_le_iff.mp (Option.some.inj hrange)⟩
  · cases hrange

theorem mem_buildRegistry_of_relay {name : PyKey} {cfg : Option DeviceFields}
    (h : (name, cfg) ∈ dev.numatoRelayMatrixConfigs.items) :
    ⟨.relayEthernet, name, cfg⟩ ∈ buildRegistry dev :=
  List.mem_append_left _ (List.mem_append_right _ (List.mem_map_of_mem h))

theorem Clean.truthy (h : Clean create dev) {kinds : List DeviceKind} {field : String}
    (hfield : ∀ kind ∈ kinds, field ∈ requiredFields kind) :
    ∀ d ∈ buildRegistry dev, d.kind ∈ kinds → ∀ cfg, d.cfg = some cfg →
      (fieldOf cfg field).truthy = true := by
  intro d hd hkind cfg hcfg
  obtain ⟨other, hother, hrequired, -⟩ := h.devices d hd
  obtain rfl := Option.some.inj (hcfg.symm.trans hother)
  exact hrequired field (hfield d.kind hkind)

/-- A configuration the checks find nothing in is what it should be if and only if its relay
matrices are known and its addresses integers. -/
theorem Clean.soundConfiguration_iff (h : Clean create dev) :
    SoundConfiguration dev ↔ KnownRelays dev := by
  constructor
  · intro hsound p hp hmatrix
    obtain ⟨name, cfg, hitem, hname, n, count, haddress, -⟩ := hsound.matrices p hp hmatrix
    exact ⟨⟨name, List.mem_map_of_mem hitem, hname⟩, n, haddress⟩
  · intro hknown
    have hresource : ∀ kind ∈ busKinds, "resource" ∈ requiredFields kind := by decide
    have hip : ∀ kind ∈ [DeviceKind.relayEthernet], "ip" ∈ requiredFields kind := by decide
    refine ⟨entryKeys_checked h.identifiers ▸ h.identifiers.nodup, fun p hp hmatrix ↦ ?_, h.names,
      entryKeys_fieldEntries (h.truthy hresource) h.resources.hashable ▸ h.resources.nodup,
      entryKeys_fieldEntries (h.truthy hip) h.ips.hashable ▸ h.ips.nodup⟩
    obtain ⟨⟨name, hkey, hname⟩, n, haddress⟩ := hknown p hp hmatrix
    obtain ⟨value, hvalue⟩ := Dict.mem_keys_iff.mp hkey
    have hitem := Dict.mem_items_iff.mpr hvalue
    obtain ⟨cfg, hcfg, hrequired, -⟩ := h.devices _ (mem_buildRegistry_of_relay hitem)
    obtain rfl : value = some cfg := hcfg
    have hrequires : "channel_count" ∈ requiredFields .relayEthernet := by decide
    have hlimit : relayLimit cfg = fieldOf cfg "channel_count" :=
      if_pos (hrequired "channel_count" hrequires)
    have hmem : p ∈ addressedPositions dev := by
      refine List.mem_filter.mpr ⟨hp, decide_eq_true ?_⟩
      rw [haddress]
      exact fun hnone ↦ by cases hnone
    obtain ⟨-, hcount, hrange⟩ := h.consistent name cfg hitem
    have hnumber := number?_of_key (of_decide_eq_true hcount).1
    have hin := hrange p hmem hname
    rw [haddress, hlimit] at hin
    obtain ⟨hone, hle⟩ := le_and_le_of_inRange hnumber hin
    exact ⟨name, cfg, hitem, hname, n, RELAY_COUNT, haddress, hnumber, hone, hle⟩

end Gate

/-- The validation returns, and what it finds nothing in is what it should be. -/
def SoundGate (create : DeviceKind → DeviceFields → Option String) (dev : DevCfg) : Prop :=
  ∃ problems, validateDevices create dev = some problems ∧
    (problems = [] → SoundConfiguration dev)

/-- **The gate.** `validate_devices` is a sound gate for a configuration if and only if each of its
values has a type the checks work on and, if they ask for nothing more of it, the relay matrices of
its groups are configured ones and the addresses integers. -/
theorem soundGate_iff (create : DeviceKind → DeviceFields → Option String) (dev : DevCfg) :
    SoundGate create dev ↔ WellTyped dev ∧ (Clean create dev → KnownRelays dev) := by
  constructor
  · rintro ⟨problems, hproblems, hsound⟩
    refine ⟨isSome_validateDevices.mp (Option.isSome_iff_exists.mpr ⟨problems, hproblems⟩),
      fun hclean ↦ ?_⟩
    have hnil := hproblems.symm.trans (validateDevices_eq_nil_iff.mpr hclean)
    exact hclean.soundConfiguration_iff.mp (hsound (Option.some.inj hnil))
  · rintro ⟨htyped, hknown⟩
    obtain ⟨problems, hproblems⟩ :=
      Option.isSome_iff_exists.mp (isSome_validateDevices.mpr htyped)
    refine ⟨problems, hproblems, ?_⟩
    rintro rfl
    have hclean := validateDevices_eq_nil_iff.mp hproblems
    exact hclean.soundConfiguration_iff.mpr (hknown hclean)

/-! ## A group on a relay matrix that is not configured -/

/-- The only group is on a relay matrix that is not among the configured ones. -/
def strayGroup : DevCfg where
  smuAssignments := Dict.empty
  dmmConfigs := Dict.empty
  daqConfigs := Dict.empty
  numatoRelayMatrixConfigs := Dict.empty
  relaySerialConfigs := Dict.empty
  batteryGroups := Dict.empty.insert (.text "A1") (some ⟨.str "MATRIX_NUMATO_201",
    some (Dict.empty.insert (.number (.finite 1)) (some (.int 1)))⟩)

theorem not_soundGate_strayGroup : ¬∀ create dev, SoundGate create dev := by
  intro h
  obtain ⟨problems, hproblems, hsound⟩ := h (fun _ _ ↦ none) strayGroup
  have hnil : validateDevices (fun _ _ ↦ none) strayGroup = some [] := by decide +kernel
  obtain rfl := Option.some.inj (hproblems.symm.trans hnil)
  obtain ⟨name, cfg, hitem, -⟩ := (hsound rfl).matrices
    ⟨.text "A1", .number (.finite 1), .str "MATRIX_NUMATO_201", .int 1⟩ List.mem_cons_self
    fun hnone ↦ by cases hnone
  exact absurd hitem List.not_mem_nil

end Nipxi
