import Nipxi.TestControl.PresencePrecheck

/-!
# The law of the presence pre-check

Once the pre-check has closed the relay it opens it again, whatever else happens, and before it
reads a temperature sensor. One that returns has read the battery in between, and the sensor of the
selected position where the group has one, each once. What it returns depends on these two readings
alone: a failed reading is never a missing battery, and no other sensor has a say.
-/

open Effect

namespace Nipxi

variable {X : Type}

/-! ## Entries of the trace -/

/-- A sensor of the position was read. -/
def StationCall.ReadsNtc (position : ℕ) : StationCall → Prop
  | .read (.ntc q _) _ => q = position
  | _ => False

/-- A row was written. -/
def StationCall.WritesRow : StationCall → Prop
  | .call (.logEvent _) _ | .call (.recordMeasurement _) _ => True
  | _ => False

/-- The battery was read, and is missing. -/
def BatteryAbsent (calls : List StationCall) : Prop :=
  ∃ v, .read .battery (.ok v) ∈ calls ∧ classifyBatteryPresence v = .absent

/-- The sensor of the position was read, and is not present. -/
def NtcNotPresent (toCelsius : ℚ → Option ℚ) (position : ℕ) (calls : List StationCall) : Prop :=
  ∃ channel v, .read (.ntc position channel) (.ok v) ∈ calls ∧
    classifyNtcPresence toCelsius v ≠ .present

/-- The reading of the sensor of the position raised `DAQError`. -/
def DaqFailed (position : ℕ) (calls : List StationCall) : Prop :=
  ∃ channel e, .read (.ntc position channel) (.error e) ∈ calls ∧ e.isInstance [.daqError] = true

/-- Of the calls with `P`, `c` is the only one, and it was made. -/
def OnlyOnce (P : StationCall → Prop) (c : StationCall) (calls : List StationCall) : Prop :=
  ∃ later earlier, calls = later ++ c :: earlier ∧ ∀ d ∈ later ++ earlier, ¬P d

/-- The battery was read. -/
def StationCall.ReadsBattery : StationCall → Prop
  | .read .battery _ => True
  | _ => False

/-- The battery is read once, on its relay: closed, read, and opened again, with nothing but rows
in between. -/
def MeasuresBattery (address : ℕ) (calls : List StationCall) : Prop :=
  ∃ later rows result,
    calls = later ++ .call (.relayOpen address) none ::
      (rows ++ [.read .battery result, .call (.relayClose address) none]) ∧
    (∀ c ∈ rows, c.WritesRow) ∧ ∀ c ∈ later, ¬c.ReadsBattery

/-- The sensor of the selected position is read once, on its channel, where the group has a DAQ
for its sensors and the position is one of the group with a channel. -/
def ReadsSensor (p : PrecheckRun) (calls : List StationCall) : Prop :=
  p.hasNtcDaq = true → 1 ≤ p.position → p.position ≤ p.size →
    ∀ channel, p.ntcChannel p.position = some channel →
      ∃ result, OnlyOnce (·.ReadsNtc p.position) (.read (.ntc p.position channel) result) calls

/-- A relay that was closed is opened, and until then no sensor is read. -/
def OpensFirst (address : ℕ) (calls : List StationCall) : Prop :=
  .call (.relayClose address) none ∈ calls →
    ∃ later raised earlier, calls = later ++ .call (.relayOpen address) raised :: earlier ∧
      .call (.relayClose address) none ∈ earlier ∧ ∀ c ∈ earlier, ∀ q, ¬c.ReadsNtc q

section Entries

variable {toCelsius : ℚ → Option ℚ} {position : ℕ} {old new : List StationCall}

theorem batteryAbsent_append :
    BatteryAbsent (new ++ old) ↔ BatteryAbsent new ∨ BatteryAbsent old := by
  simp only [BatteryAbsent, List.mem_append, or_and_right, exists_or]

theorem ntcNotPresent_append : NtcNotPresent toCelsius position (new ++ old) ↔
    NtcNotPresent toCelsius position new ∨ NtcNotPresent toCelsius position old := by
  simp only [NtcNotPresent, List.mem_append, or_and_right, exists_or]

theorem daqFailed_append :
    DaqFailed position (new ++ old) ↔ DaqFailed position new ∨ DaqFailed position old := by
  simp only [DaqFailed, List.mem_append, or_and_right, exists_or]

theorem OnlyOnce.around {P : StationCall → Prop} {c : StationCall} {calls : List StationCall}
    (h : OnlyOnce P c calls) (hold : ∀ d ∈ old, ¬P d) (hnew : ∀ d ∈ new, ¬P d) :
    OnlyOnce P c (new ++ (calls ++ old)) := by
  obtain ⟨later, earlier, rfl, hother⟩ := h
  obtain ⟨hlater, hearlier⟩ := List.forall_mem_append.mp hother
  refine ⟨new ++ later, earlier ++ old, by simp, ?_⟩
  exact List.forall_mem_append.mpr ⟨List.forall_mem_append.mpr ⟨hnew, hlater⟩,
    List.forall_mem_append.mpr ⟨hearlier, hold⟩⟩

theorem OnlyOnce.append_left {P : StationCall → Prop} {c : StationCall} {calls : List StationCall}
    (h : OnlyOnce P c calls) (hnew : ∀ d ∈ new, ¬P d) : OnlyOnce P c (new ++ calls) := by
  simpa using h.around (List.forall_mem_nil _) hnew

theorem onlyOnce_singleton {P : StationCall → Prop} (c : StationCall) : OnlyOnce P c [c] :=
  ⟨[], [], rfl, List.forall_mem_nil _⟩

/-- Without a reading of the sensor there is no finding about it. -/
theorem not_ntcNotPresent_of_forall (h : ∀ c ∈ new, ¬c.ReadsNtc position) :
    ¬NtcNotPresent toCelsius position new := by
  rintro ⟨channel, v, hmem, -⟩
  exact h _ hmem rfl

theorem not_daqFailed_of_forall (h : ∀ c ∈ new, ¬c.ReadsNtc position) :
    ¬DaqFailed position new := by
  rintro ⟨channel, e, hmem, -⟩
  exact h _ hmem rfl

end Entries

/-! ## The readings -/

section Program

variable {st : Station X} {p : PrecheckRun}

theorem tells_call (op : Operation) : Tells StationSession.trace
    (fun _ new ↦ new = [.call op none]) (fun e new ↦ new = [.call op (some e)])
    (StationProg.call st op) := fun s ↦
  (StationProg.post_call st op s).mono (fun _ _ h ↦ ⟨_, h, rfl⟩) fun _ _ h ↦ ⟨_, h, rfl⟩

theorem tells_read (reading : Reading) : Tells StationSession.trace
    (fun v new ↦ new = [.read reading (.ok v)]) (fun e new ↦ new = [.read reading (.error e)])
    (StationProg.read st reading) := fun s ↦
  (StationProg.post_read st reading s).mono (fun _ _ h ↦ ⟨_, h, rfl⟩) fun _ _ h ↦ ⟨_, h, rfl⟩

theorem tells_logEvent (entry : EventEntry) : Tells StationSession.trace
    (fun _ new ↦ ∀ c ∈ new, c.WritesRow) (fun _ new ↦ ∀ c ∈ new, c.WritesRow)
    (StationProg.logEvent st entry) :=
  (tells_call _).mono (fun _ _ h ↦ by rw [h]; exact List.forall_mem_singleton.mpr trivial)
    fun _ _ h ↦ by rw [h]; exact List.forall_mem_singleton.mpr trivial

theorem tells_recordMeasurement (entry : MeasurementEntry) : Tells StationSession.trace
    (fun _ new ↦ ∀ c ∈ new, c.WritesRow) (fun _ new ↦ ∀ c ∈ new, c.WritesRow)
    (StationProg.call st (.recordMeasurement entry)) :=
  (tells_call _).mono (fun _ _ h ↦ by rw [h]; exact List.forall_mem_singleton.mpr trivial)
    fun _ _ h ↦ by rw [h]; exact List.forall_mem_singleton.mpr trivial

/-- What reading a sensor on a channel, if it has one, came to. -/
structure SensorRead (toCelsius : ℚ → Option ℚ) (position : ℕ) (channel : Option String)
    (result : NtcResult) (calls : List StationCall) : Prop where
  place : result.position = position
  reading : ∀ name, channel = some name →
    ∃ value, OnlyOnce (·.ReadsNtc position) (.read (.ntc position name) value) calls
  entries : ∀ c ∈ calls, c.WritesRow ∨ c.ReadsNtc position
  notPresent : NtcNotPresent toCelsius position calls ↔
    result.readable = true ∧ result.presence ≠ .present
  failed : DaqFailed position calls ↔ result.daqCommFailure = true

theorem not_readsNtc_of_writesRow {c : StationCall} (h : c.WritesRow) (q : ℕ) : ¬c.ReadsNtc q := by
  cases c with
  | call op raised => exact id
  | read => exact h.elim
  | _ => exact id

theorem SensorRead.append_rows {toCelsius : ℚ → Option ℚ} {position : ℕ} {channel : Option String}
    {result : NtcResult} {old new : List StationCall}
    (h : SensorRead toCelsius position channel result old) (hnew : ∀ c ∈ new, c.WritesRow) :
    SensorRead toCelsius position channel result (new ++ old) where
  place := h.place
  reading name hname := by
    obtain ⟨value, honce⟩ := h.reading name hname
    exact ⟨value, honce.append_left fun c hc ↦ not_readsNtc_of_writesRow (hnew c hc) position⟩
  entries c hc := (List.mem_append.mp hc).elim (fun hc ↦ .inl (hnew c hc)) (h.entries c)
  notPresent := by
    have hnone : ∀ c ∈ new, ¬c.ReadsNtc position := fun c hc ↦
      not_readsNtc_of_writesRow (hnew c hc) position
    rw [ntcNotPresent_append, or_iff_right (not_ntcNotPresent_of_forall hnone), h.notPresent]
  failed := by
    have hnone : ∀ c ∈ new, ¬c.ReadsNtc position := fun c hc ↦
      not_readsNtc_of_writesRow (hnew c hc) position
    rw [daqFailed_append, or_iff_right (not_daqFailed_of_forall hnone), h.failed]

theorem tells_ntcReading (position : ℕ) : Tells StationSession.trace
    (fun r new ↦
      SensorRead st.ntcVoltageToCelsius position (p.ntcChannel position) r.2 new)
    (fun _ new ↦ ∀ c ∈ new, c.WritesRow ∨ c.ReadsNtc position) (ntcReading st p position) := by
  unfold ntcReading
  cases p.ntcChannel position with
  | none =>
    -- a sensor that is not configured is neither read nor a failure
    have hnothing : SensorRead st.ntcVoltageToCelsius position none
        ⟨position, .fault, none, false, false⟩ [] :=
      ⟨rfl, nofun, List.forall_mem_nil _, by simp [NtcNotPresent], by simp [DaqFailed]⟩
    refine (tells_logEvent _).bind (fun _ old hold ↦ .pure ?_) fun _ _ h c hc ↦ .inl (h c hc)
    simpa using hnothing.append_rows hold
  | some channel =>
    have hreading (value : Except Exc ℚ) (name : String) (hname : some channel = some name) :
        ∃ value', OnlyOnce (·.ReadsNtc position) (.read (.ntc position name) value')
          [.read (.ntc position channel) value] := by
      obtain rfl := Option.some.inj hname
      exact ⟨value, onlyOnce_singleton _⟩
    refine (tells_read (.ntc position channel)).attempt_bind
      (fun v old hold ↦ ?_) fun e old hold ↦ ?_
    · subst hold
      refine .pure ⟨rfl, hreading _, ?_, ?_, ?_⟩
      · rintro c hc
        rw [List.mem_singleton.mp hc]
        exact .inr rfl
      · simp [NtcNotPresent]
      · simp [DaqFailed]
    · subst hold
      have hentries : ∀ c ∈ [StationCall.read (.ntc position channel) (.error e)],
          c.WritesRow ∨ c.ReadsNtc position := by
        intro c hc
        rw [List.mem_singleton.mp hc]
        exact .inr rfl
      refine .ite (fun hdaq ↦ ?_) fun _ ↦ .raise hentries
      have hfailed : SensorRead st.ntcVoltageToCelsius position (some channel)
          ⟨position, .fault, none, false, true⟩ [.read (.ntc position channel) (.error e)] :=
        ⟨rfl, hreading _, hentries, by simp [NtcNotPresent], by simp [DaqFailed, hdaq]⟩
      refine (tells_logEvent _).bind (fun _ old hold ↦ .pure (hfailed.append_rows hold))
        fun _ new hnew c hc ↦ ?_
      exact (List.mem_append.mp hc).elim (fun hc ↦ .inl (hnew c hc)) (hentries c)

theorem tells_ntcPosition (position : ℕ) : Tells StationSession.trace
    (fun r new ↦ SensorRead st.ntcVoltageToCelsius position (p.ntcChannel position) r new)
    (fun _ new ↦ ∀ c ∈ new, c.WritesRow ∨ c.ReadsNtc position) (ntcPosition st p position) := by
  refine (tells_ntcReading position).bind (fun r old hold ↦ ?_) fun _ _ h ↦ h
  have hrows : ∀ new : List StationCall, (∀ c ∈ new, c.WritesRow) →
      ∀ c ∈ new ++ old, c.WritesRow ∨ c.ReadsNtc position := fun new hnew ↦
    (hold.append_rows hnew).entries
  refine (tells_recordMeasurement _).bind (fun _ rows hrecord ↦ ?_) fun _ new hnew ↦ hrows new hnew
  refine (tells_logEvent _).bind (fun _ rows' hlog ↦ .pure ?_) fun _ new hnew ↦ ?_
  · simpa using (hold.append_rows hrecord).append_rows hlog
  · rw [List.append_assoc]
    exact ((hold.append_rows hrecord).append_rows hnew).entries

/-- What reading the sensors of a list of positions came to. -/
structure Surveyed (toCelsius : ℚ → Option ℚ) (channel : ℕ → Option String) (positions : List ℕ)
    (results : List NtcResult) (calls : List StationCall) : Prop where
  reading : ∀ q ∈ positions, ∀ name, channel q = some name →
    ∃ value, OnlyOnce (·.ReadsNtc q) (.read (.ntc q name) value) calls
  entries : ∀ c ∈ calls, c.WritesRow ∨ ∃ q ∈ positions, c.ReadsNtc q
  notPresent : ∀ q, NtcNotPresent toCelsius q calls ↔
    ∃ r, results.find? (·.position == q) = some r ∧ r.readable = true ∧ r.presence ≠ .present
  failed : ∀ q, DaqFailed q calls ↔
    ∃ r, results.find? (·.position == q) = some r ∧ r.daqCommFailure = true

theorem readsNtc_unique {c : StationCall} {q q' : ℕ} (h : c.ReadsNtc q) (h' : c.ReadsNtc q') :
    q = q' := by
  cases c with
  | read reading result =>
    cases reading with
    | ntc position channel => exact h.symm.trans h'
    | battery | finalVoltage => exact h.elim
  | _ => exact h.elim

/-- **One position more.** Its own sensor is read here and nowhere else. -/
theorem Surveyed.cons {toCelsius : ℚ → Option ℚ} {channel : ℕ → Option String} {position : ℕ}
    {positions : List ℕ} {result : NtcResult} {results : List NtcResult}
    {old new : List StationCall}
    (hold : SensorRead toCelsius position (channel position) result old)
    (hfresh : position ∉ positions) (hnew : Surveyed toCelsius channel positions results new) :
    Surveyed toCelsius channel (position :: positions) (result :: results) (new ++ old) := by
  have hhead : ∀ q, q ≠ position → ∀ c ∈ old, ¬c.ReadsNtc q := by
    intro q hq c hc hread
    rcases hold.entries c hc with hrow | hposition
    · exact not_readsNtc_of_writesRow hrow q hread
    · exact hq (readsNtc_unique hread hposition)
  have htail : ∀ c ∈ new, ¬c.ReadsNtc position := by
    intro c hc hread
    rcases hnew.entries c hc with hrow | ⟨q, hq, hposition⟩
    · exact not_readsNtc_of_writesRow hrow position hread
    · rw [readsNtc_unique hread hposition] at hfresh
      exact hfresh hq
  constructor
  · intro q hq name hname
    rcases List.mem_cons.mp hq with rfl | hq
    · obtain ⟨value, honce⟩ := hold.reading name hname
      exact ⟨value, honce.append_left htail⟩
    · obtain ⟨value, honce⟩ := hnew.reading q hq name hname
      have hne : q ≠ position := fun heq ↦ hfresh (heq ▸ hq)
      exact ⟨value, by simpa using honce.around (hhead q hne) (List.forall_mem_nil _)⟩
  · intro c hc
    rcases List.mem_append.mp hc with hc | hc
    · exact (hnew.entries c hc).imp_right fun ⟨q, hq, h⟩ ↦ ⟨q, List.mem_cons_of_mem _ hq, h⟩
    · exact (hold.entries c hc).imp_right fun h ↦ ⟨position, List.mem_cons_self, h⟩
  · intro q
    rw [ntcNotPresent_append, List.find?_cons]
    -- the sensor of a position is read in the part of that position alone
    by_cases hq : q = position
    · subst hq
      rw [or_iff_right (not_ntcNotPresent_of_forall htail), hold.notPresent, hold.place,
        beq_self_eq_true]
      simp
    · have hne : (result.position == q) = false := by
        rw [hold.place]
        exact beq_false_of_ne (Ne.symm hq)
      rw [hne, or_iff_left (not_ntcNotPresent_of_forall (hhead q hq)), hnew.notPresent]
  · intro q
    rw [daqFailed_append, List.find?_cons]
    by_cases hq : q = position
    · subst hq
      rw [or_iff_right (not_daqFailed_of_forall htail), hold.failed, hold.place, beq_self_eq_true]
      simp
    · have hne : (result.position == q) = false := by
        rw [hold.place]
        exact beq_false_of_ne (Ne.symm hq)
      rw [hne, or_iff_left (not_daqFailed_of_forall (hhead q hq)), hnew.failed]

theorem surveyed_nil (toCelsius : ℚ → Option ℚ) (channel : ℕ → Option String) :
    Surveyed toCelsius channel [] [] [] :=
  ⟨List.forall_mem_nil _, List.forall_mem_nil _, by simp [NtcNotPresent], by simp [DaqFailed]⟩

/-- By induction on the positions, which are distinct. -/
theorem tells_ntcPositions {positions : List ℕ} (hnodup : positions.Nodup) :
    Tells StationSession.trace
      (fun results new ↦ Surveyed st.ntcVoltageToCelsius p.ntcChannel positions results new)
      (fun _ _ ↦ True) (ntcPositions st p positions) := by
  induction positions with
  | nil => exact .pure (surveyed_nil _ _)
  | cons position rest ih =>
    obtain ⟨hfresh, hrest⟩ := List.nodup_cons.mp hnodup
    refine (tells_ntcPosition position).bind (fun r old hold ↦ ?_) fun _ _ _ ↦ trivial
    refine (ih hrest).bind (fun results new hnew ↦ .pure ?_) fun _ _ _ ↦ trivial
    exact .cons hold hfresh hnew

theorem tells_ntcGroupSnapshot : Tells StationSession.trace
    (fun results new ↦ ∃ positions,
      Surveyed st.ntcVoltageToCelsius p.ntcChannel positions results new ∧
        (p.hasNtcDaq = true → ∀ q, 1 ≤ q → q ≤ p.size → q ∈ positions))
    (fun _ _ ↦ True) (ntcGroupSnapshot st p) := by
  refine .ite (fun _ ↦ ?_) fun hdaq ↦ .pure ⟨[], surveyed_nil _ _, fun h ↦ absurd h hdaq⟩
  refine (tells_ntcPositions List.nodup_range').mono (fun _ _ h ↦ ⟨_, h, fun _ q hq hsize ↦ ?_⟩)
    fun _ _ _ ↦ trivial
  rw [List.mem_range'_1]
  omega

/-! ## The battery -/

/-- The battery was read, and rows were written after it. -/
def BatteryRead (calls : List StationCall) : Prop :=
  ∃ rows result, calls = rows ++ [.read .battery result] ∧ ∀ c ∈ rows, c.WritesRow

theorem BatteryRead.not_readsNtc {calls : List StationCall} (h : BatteryRead calls) :
    ∀ c ∈ calls, ∀ q, ¬c.ReadsNtc q := by
  obtain ⟨rows, result, rfl, hrows⟩ := h
  refine List.forall_mem_append.mpr ⟨fun c hc q ↦ not_readsNtc_of_writesRow (hrows c hc) q, ?_⟩
  exact List.forall_mem_singleton.mpr fun _ ↦ id

theorem tells_readBattery : Tells StationSession.trace
    (fun voltage new ↦ BatteryRead new ∧
      (BatteryAbsent new ↔ voltage.map classifyBatteryPresence = some .absent))
    (fun _ new ↦ BatteryRead new) (readBattery st p) := by
  refine (tells_read .battery).attempt_bind (fun v old hold ↦ ?_) fun e old hold ↦ ?_
  · subst hold
    exact .pure ⟨⟨[], _, rfl, List.forall_mem_nil _⟩, by simp [BatteryAbsent]⟩
  · subst hold
    refine (tells_logEvent _).bind (fun _ new hnew ↦ .pure ⟨⟨new, _, rfl, hnew⟩, ?_⟩)
      fun _ new hnew ↦ ⟨new, _, rfl, hnew⟩
    have hrows : ¬BatteryAbsent new := by
      rintro ⟨v, hmem, -⟩
      exact hnew _ hmem
    simp only [List.nil_append]
    rw [batteryAbsent_append, or_iff_right hrows]
    simp [BatteryAbsent]

/-- The battery has been read, and the relay asked to open. -/
def Opened (address : ℕ) (raised : Option Exc) (earlier calls : List StationCall) : Prop :=
  calls = .call (.relayOpen address) raised :: earlier ∧ BatteryRead earlier

/-- **The relay is opened** whether the reading of the battery and its row succeed or not. -/
theorem tells_measureBattery : Tells StationSession.trace
    (fun voltage new ↦ ∃ earlier, Opened p.relayAddress none earlier new ∧
      (BatteryAbsent earlier ↔ voltage.map classifyBatteryPresence = some .absent))
    (fun _ new ↦ ∃ raised earlier, Opened p.relayAddress raised earlier new)
    ((readBattery st p).ensuring (StationProg.call st (.relayOpen p.relayAddress))) := by
  refine tells_readBattery.ensuring (fun voltage old hold ↦ ?_) fun e old hold ↦ ?_
  · refine (tells_call _).mono (fun _ new hnew ↦ ?_) fun e new hnew ↦ ?_
    · exact ⟨old, ⟨by rw [hnew]; rfl, hold.1⟩, hold.2⟩
    · exact ⟨some e, old, by rw [hnew]; rfl, hold.1⟩
  · refine (tells_call _).mono (fun _ new hnew ↦ ?_) fun e new hnew ↦ ?_
    · exact ⟨none, old, by rw [hnew]; rfl, hold⟩
    · exact ⟨some e, old, by rw [hnew]; rfl, hold⟩

/-! ## The verdict -/

theorem precheckReasons_ne_nil_iff (battery : Option BatteryPresence) (target : Option NtcResult) :
    precheckReasons battery target ≠ [] ↔ battery = some .absent ∨
      ∃ r, target = some r ∧ r.readable = true ∧ r.presence ≠ .present := by
  unfold precheckReasons
  by_cases hbattery : battery = some .absent
  · simp [hbattery]
  · cases target with
    | none => simp [hbattery]
    | some r => simp [hbattery]

/-- What the pre-check returns, by the readings among its calls. -/
structure VerdictOf (toCelsius : ℚ → Option ℚ) (position : ℕ) (found : Precheck)
    (calls : List StationCall) : Prop where
  ok : found.ok = false ↔ BatteryAbsent calls ∨ NtcNotPresent toCelsius position calls
  stationFault : found.stationFault = true ↔ DaqFailed position calls

/-- Calls without a reading. -/
def NoReading (calls : List StationCall) : Prop := ∀ c ∈ calls, c.WritesRow

theorem tells_warnReversed (voltage : Option ℚ) : Tells StationSession.trace
    (fun _ new ↦ NoReading new) (fun _ _ ↦ True) (warnReversed st p voltage) := by
  have hlog : ∀ entry, Tells StationSession.trace (fun _ new ↦ NoReading new) (fun _ _ ↦ True)
      (StationProg.logEvent st entry) := fun entry ↦
    (tells_logEvent entry).mono (fun _ _ h ↦ h) fun _ _ _ ↦ trivial
  have hnone : NoReading [] := List.forall_mem_nil _
  cases voltage with
  | none => exact Tells.pure hnone
  | some v => exact Tells.ite (fun _ ↦ hlog _) fun _ ↦ Tells.pure hnone

theorem tells_logPrecheck (voltage : Option ℚ) (target : Option NtcResult) (reasons : List String) :
    Tells StationSession.trace (fun _ new ↦ NoReading new) (fun _ _ ↦ True)
      (logPrecheck st p voltage target reasons) := by
  refine (tells_logEvent _).bind (fun _ old hold ↦ ?_) fun _ _ _ ↦ trivial
  refine .ite (fun _ ↦ .pure hold) fun _ ↦ (tells_logEvent _).mono (fun _ new hnew ↦ ?_)
    fun _ _ _ ↦ trivial
  exact List.forall_mem_append.mpr ⟨hnew, hold⟩

theorem Surveyed.around {toCelsius : ℚ → Option ℚ} {channel : ℕ → Option String}
    {positions : List ℕ} {results : List NtcResult} {calls before after : List StationCall}
    (h : Surveyed toCelsius channel positions results calls)
    (hbefore : NoReading before) (hafter : NoReading after) :
    Surveyed toCelsius channel positions results (after ++ (calls ++ before)) := by
  have hnone : ∀ {rows}, NoReading rows → ∀ q, ∀ c ∈ rows, ¬c.ReadsNtc q := fun hrows q c hc ↦
    not_readsNtc_of_writesRow (hrows c hc) q
  constructor
  · intro q hq name hname
    obtain ⟨value, honce⟩ := h.reading q hq name hname
    exact ⟨value, honce.around (hnone hbefore q) (hnone hafter q)⟩
  · intro c hc
    rcases List.mem_append.mp hc with hc | hc
    · exact .inl (hafter c hc)
    · exact (List.mem_append.mp hc).elim (h.entries c) fun hc ↦ .inl (hbefore c hc)
  · intro q
    rw [ntcNotPresent_append, or_iff_right (not_ntcNotPresent_of_forall (hnone hafter q)),
      ntcNotPresent_append, or_iff_left (not_ntcNotPresent_of_forall (hnone hbefore q)),
      h.notPresent]
  · intro q
    rw [daqFailed_append, or_iff_right (not_daqFailed_of_forall (hnone hafter q)),
      daqFailed_append, or_iff_left (not_daqFailed_of_forall (hnone hbefore q)), h.failed]

theorem Surveyed.not_readsBattery {toCelsius : ℚ → Option ℚ} {channel : ℕ → Option String}
    {positions : List ℕ} {results : List NtcResult} {calls : List StationCall}
    (h : Surveyed toCelsius channel positions results calls) : ∀ c ∈ calls, ¬c.ReadsBattery := by
  intro c hc hread
  rcases h.entries c hc with hrow | ⟨q, -, hsensor⟩
  · cases c with
    | call op raised => exact hread
    | _ => exact hrow
  · cases c with
    | read reading result =>
      cases reading with
      | battery => exact hsensor
      | ntc | finalVoltage => exact hread
    | _ => exact hsensor

theorem not_batteryAbsent_of_forall {calls : List StationCall}
    (h : ∀ c ∈ calls, ¬c.ReadsBattery) : ¬BatteryAbsent calls := by
  rintro ⟨v, hmem, -⟩
  exact h _ hmem trivial

theorem verdictOf_of_surveyed {toCelsius : ℚ → Option ℚ} {channel : ℕ → Option String}
    {positions : List ℕ} (position : ℕ) {results : List NtcResult} {voltage : Option ℚ}
    {earlier survey : List StationCall}
    (hbattery : BatteryAbsent earlier ↔ voltage.map classifyBatteryPresence = some .absent)
    (hearlier : ∀ c ∈ earlier, ∀ q, ¬c.ReadsNtc q)
    (hsurvey : Surveyed toCelsius channel positions results survey) :
    VerdictOf toCelsius position
      ⟨(precheckReasons (voltage.map classifyBatteryPresence)
          (results.find? (·.position == position))).isEmpty,
        precheckReasons (voltage.map classifyBatteryPresence)
          (results.find? (·.position == position)),
        ((results.find? (·.position == position)).map NtcResult.daqCommFailure).getD false⟩
      (survey ++ earlier) where
  ok := by
    rw [batteryAbsent_append,
      or_iff_right (not_batteryAbsent_of_forall hsurvey.not_readsBattery), hbattery,
      ntcNotPresent_append, or_iff_left (not_ntcNotPresent_of_forall fun c hc ↦ hearlier c hc _),
      hsurvey.notPresent, ← precheckReasons_ne_nil_iff, List.isEmpty_eq_false_iff]
  stationFault := by
    rw [daqFailed_append, or_iff_left (not_daqFailed_of_forall fun c hc ↦ hearlier c hc _),
      hsurvey.failed]
    cases results.find? (·.position == position) with
    | none => simp
    | some r => simp

theorem not_batteryAbsent_call (op : Operation) (raised : Option Exc) :
    ¬BatteryAbsent [.call op raised] := by
  rintro ⟨v, hmem, -⟩
  cases List.mem_singleton.mp hmem

theorem Opened.closed {address : ℕ} {raised : Option Exc} {earlier calls : List StationCall}
    {absent : Prop} (h : Opened address raised earlier calls)
    (hbattery : BatteryAbsent earlier ↔ absent) :
    (BatteryAbsent (calls ++ [.call (.relayClose address) none]) ↔ absent) ∧
      ∀ c ∈ calls ++ [.call (.relayClose address) none], ∀ q, ¬c.ReadsNtc q := by
  obtain ⟨rfl, hread⟩ := h
  constructor
  · rw [batteryAbsent_append, or_iff_left (not_batteryAbsent_call _ _), ← List.singleton_append,
      batteryAbsent_append, or_iff_right (not_batteryAbsent_call _ _), hbattery]
  · refine List.forall_mem_append.mpr
      ⟨List.forall_mem_cons.mpr ⟨fun _ ↦ id, hread.not_readsNtc⟩, ?_⟩
    exact List.forall_mem_singleton.mpr fun _ ↦ id

theorem Opened.opensFirst {address : ℕ} {raised : Option Exc} {earlier calls : List StationCall}
    (h : Opened address raised earlier calls) (later : List StationCall) :
    OpensFirst address (later ++ calls ++ [.call (.relayClose address) none]) := by
  obtain ⟨rfl, hread⟩ := h
  intro _
  refine ⟨later, raised, earlier ++ [.call (.relayClose address) none], by simp,
    List.mem_append_right _ (List.mem_singleton_self _), ?_⟩
  exact List.forall_mem_append.mpr
    ⟨hread.not_readsNtc, List.forall_mem_singleton.mpr fun _ ↦ id⟩

theorem Opened.measuresBattery {address : ℕ} {earlier calls later : List StationCall}
    (h : Opened address none earlier calls) (hlater : ∀ c ∈ later, ¬c.ReadsBattery) :
    MeasuresBattery address (later ++ (calls ++ [.call (.relayClose address) none])) := by
  obtain ⟨rfl, rows, result, rfl, hrows⟩ := h
  exact ⟨later, rows, result, by simp, hrows, hlater⟩

/-- **The law of the pre-check**: the relay is opened before a sensor is read and before the
pre-check ends. One that returns has read the battery while its relay was closed, and the sensor of
the selected position if there is one, and what it returns goes by these two readings alone. -/
theorem tells_precheck (st : Station X) (p : PrecheckRun) : Tells StationSession.trace
    (fun found new ↦ OpensFirst p.relayAddress new ∧ MeasuresBattery p.relayAddress new ∧
      ReadsSensor p new ∧ VerdictOf st.ntcVoltageToCelsius p.position found new)
    (fun _ new ↦ OpensFirst p.relayAddress new) (precheck st p) := by
  refine (tells_call (.relayClose p.relayAddress)).bind (fun _ old hold ↦ ?_) fun e new hnew ↦ ?_
  swap
  · rw [hnew]
    intro hmem
    exact absurd (List.mem_singleton.mp hmem) (by simp)
  subst hold
  refine tells_measureBattery.bind (fun voltage opened hmeasured ↦ ?_) fun _ new hnew ↦ ?_
  swap
  · obtain ⟨_, _, hopened⟩ := hnew
    exact hopened.opensFirst []
  obtain ⟨earlier, hopened, hbattery⟩ := hmeasured
  -- from here on the relay is open, whatever still raises
  have hraise : ∀ later : List StationCall,
      OpensFirst p.relayAddress (later ++ opened ++ [.call (.relayClose p.relayAddress) none]) :=
    hopened.opensFirst
  refine (tells_recordMeasurement _).bind (fun _ record hrecord ↦ ?_) fun _ new _ ↦ hraise new
  refine tells_ntcGroupSnapshot.bind (fun results survey hsnapshot ↦ ?_) fun _ new _ ↦ ?_
  swap
  · exact hraise (new ++ record)
  obtain ⟨positions, hsurvey, hall⟩ := hsnapshot
  refine (tells_warnReversed voltage).bind (fun _ warned hwarned ↦ ?_) fun _ new _ ↦ ?_
  swap
  · exact hraise (new ++ survey ++ record)
  refine (tells_logPrecheck voltage _ _).bind (fun _ logged hlogged ↦ .pure ?_) fun _ new _ ↦ ?_
  swap
  · simpa using hraise (new ++ warned ++ survey ++ record)
  have hrows : NoReading (logged ++ warned) := List.forall_mem_append.mpr ⟨hlogged, hwarned⟩
  have hcalls := hopened.closed hbattery
  have haround := hsurvey.around hrecord hrows
  refine ⟨?_, ?_, fun hdaq hposition hsize channel hchannel ↦ ?_, ?_⟩
  · simpa using hraise (logged ++ warned ++ survey ++ record)
  · simpa using hopened.measuresBattery haround.not_readsBattery
  · obtain ⟨value, honce⟩ := haround.reading _ (hall hdaq _ hposition hsize) channel hchannel
    refine ⟨value, ?_⟩
    simpa using honce.around (fun c hc ↦ hcalls.2 c hc _) (List.forall_mem_nil _)
  · simpa using verdictOf_of_surveyed p.position hcalls.1 hcalls.2 haround

end Program

end Nipxi
