import Nipxi.Hardware.SmuSourcing
import Nipxi.TestControl.Station

/-!
# Exceptions on their way to the proto test

What leaves `source_dc_voltage_point` when its second part raises, and what `ProtoTestSequence.run`
makes of it. The `finally` begins with `output_disable`, outside any `try`: where its write raises,
an `SMUError` leaves in place of the exception in flight, and an operator's cancellation is recorded
as a failure. A cancellation can be lost one step earlier too, where `with session.initiate()` is
left and the abort of its exit raises.
-/

open Effect

namespace Nipxi

/-! ## The caller -/

/-- The `except` clause of `ProtoTestSequence.run` an exception ends in. -/
inductive ProtoClause where
  | cancelled
  | safetyViolation
  | relayFault
  | unexpected
  deriving DecidableEq

/-- The clauses in their order. -/
def protoClause (e : Exc) : ProtoClause :=
  if e.isInstance [.operationCancelledError] then .cancelled
  else if e.isInstance [.safetyViolationError] then .safetyViolation
  else if e.isInstance [.relayError] then .relayFault
  else .unexpected

/-- The stop reason a clause records. -/
def ProtoClause.stopReason : ProtoClause → StopReason
  | .cancelled => .cancelled
  | .safetyViolation => .safetyViolation
  | .relayFault | .unexpected => .failed

theorem stopReason_protoClause_iff {e : Exc} :
    (protoClause e).stopReason = .cancelled ↔ e.isInstance [.operationCancelledError] = true := by
  unfold protoClause
  split
  · next h => exact iff_of_true rfl h
  · next h =>
    refine iff_of_false ?_ h
    split
    · exact nofun
    · split
      · exact nofun
      · exact nofun

namespace Smu

/-! ## The end of the second part -/

variable {V R : Type}

section

variable (cfg : SmuConfig) (ni : SourcingSession V) (p : SourcePoint V R)

/-- The write of the teardown goes through. -/
def TeardownAccepted (v : V) : Prop := (ni.disableOutput (ni.abort v).2).1 = none

/-- The abort at the end of `with session.initiate()` goes through. -/
def LeaveAccepted (v : V) : Prop := (ni.leave v).1 = none

theorem ends_quiet_niCall {α : Type} (f : V → α × V) : Ends Quiet (niCall f) :=
  fun _ ↦ ⟨_, rfl, rfl, rfl, rfl⟩

theorem ends_quiet_niRaising {α : Type} (f : V → Except String α × V) :
    Ends Quiet (niRaising f) := by
  refine .bind (ends_quiet_niCall f) fun r ↦ ?_
  cases r with
  | ok a => exact .pure a
  | error e => exact .raise _

theorem ends_quiet_niDoing (f : V → Option String × V) : Ends Quiet (niDoing f) := by
  refine .bind (ends_quiet_niCall f) fun r ↦ ?_
  cases r with
  | none => exact .pure _
  | some e => exact .raise _

theorem ends_quiet_outputDisable : Ends Quiet (outputDisable cfg ni.toNidcpower) := by
  refine .bind .get fun m ↦ .ite ?_ (.pure _)
  refine .bind (ends_quiet_niCall _) fun _ ↦ .bind (ends_quiet_niCall _) fun r ↦ ?_
  cases r with
  | none => exact .pure _
  | some e => exact .raise _

theorem ends_quiet_verifyOutputDisabled : Ends Quiet (verifyOutputDisabled ni) := by
  refine .bind .get fun m ↦ .ite (.bind (ends_quiet_niCall _) fun r ↦ ?_) (.pure _)
  cases r with
  | ok enabled => exact .pure _
  | error e => exact .pure _

theorem ends_quiet_teardown : Ends Quiet (teardown cfg ni) :=
  .bind (ends_quiet_outputDisable cfg ni) fun _ ↦
    .bind (ends_quiet_verifyOutputDisabled ni) fun _ ↦ .pure _

theorem ends_quiet_prepareSourcing : Ends Quiet (prepareSourcing cfg ni p) := by
  have hconfigure : Ends Quiet (configure cfg ni p) := by
    refine .handle ?_ fun _ ↦ .raise _
    refine .bind (ends_quiet_niDoing _) fun _ ↦ .bind (ends_quiet_niDoing _) fun _ ↦ ?_
    refine .bind (ends_quiet_niDoing _) fun _ ↦ .bind (ends_quiet_niDoing _) fun _ ↦ ?_
    refine .bind (ends_quiet_niDoing _) fun _ ↦ .bind (ends_quiet_niDoing _) fun _ ↦ ?_
    exact ends_quiet_niDoing _
  have hforce : Ends Quiet (forceOutputOffAndVerify cfg ni) := by
    refine .bind (.bind .get fun _ ↦ .ite (.bind (ends_quiet_niCall _) fun _ ↦ .pure _) (.pure _))
      fun _ ↦ .bind (.attempt (ends_quiet_outputDisable cfg ni)) fun r ↦ ?_
    cases r with
    | ok _ => exact ends_quiet_verifyOutputDisabled ni
    | error e => exact .pure _
  refine .bind .get fun m ↦ .ite (.bind hforce fun safe ↦ .ite hconfigure (.raise _)) (.raise _)

theorem ends_quiet_verifyConfiguration : Ends Quiet (verifyConfiguration cfg ni p) := by
  have hverify : ∀ label expected actual mismatch, Ends Quiet
      (verifyConfigReadback cfg label expected actual mismatch : SmuProg V Unit) :=
    fun _ _ _ _ ↦ .ite (.raise _) (.pure _)
  refine .bind (ends_quiet_niRaising _) fun _ ↦ .bind (ends_quiet_niRaising _) fun _ ↦ ?_
  refine .bind (ends_quiet_niRaising _) fun _ ↦ .bind (hverify _ _ _ _) fun _ ↦ ?_
  exact .bind (hverify _ _ _ _) fun _ ↦ .bind (hverify _ _ _ _) fun _ ↦ .pure _

theorem ends_quiet_holdPoint : Ends Quiet (holdPoint ni p) := by
  have hduring : Ends Quiet (callDuringHold p) := by
    unfold callDuringHold
    cases p.duringHold with
    | none => exact .pure _
    | some f =>
      refine .bind (ends_quiet_niCall _) fun r ↦ ?_
      cases r with
      | ok r => exact .pure _
      | error e => exact .raise _
  have hhold : Ends Quiet (holdOutput p) := by
    refine .bind (ends_quiet_niCall _) fun r ↦ ?_
    cases r with
    | none => exact .pure _
    | some reason => exact .raise _
  have hmeasure : Ends Quiet (measurePoint ni) := by
    refine .bind (ends_quiet_niRaising _) fun _ ↦ .bind (ends_quiet_niRaising _) fun _ ↦ ?_
    exact .bind (ends_quiet_niRaising _) fun _ ↦ .pure _
  exact .bind hmeasure fun _ ↦ .bind hduring fun _ ↦ .bind hhold fun _ ↦ .pure _

theorem ends_quiet_initiateSourcing : Ends Quiet (initiateSourcing cfg ni p) :=
  .bind (ends_quiet_verifyConfiguration cfg ni p) fun _ ↦ .bind (ends_quiet_niDoing _) fun _ ↦
    .pure _

theorem ends_quiet_sourcing : Ends Quiet (sourcing cfg ni p) :=
  .bind (ends_quiet_initiateSourcing cfg ni p) fun _ ↦
    .bind (.ensuring (ends_quiet_holdPoint ni p) (ends_quiet_niDoing _)) fun _ ↦ .pure _

theorem ends_quiet_sourceDcVoltagePoint : Ends Quiet (sourceDcVoltagePoint cfg ni p) := by
  refine .bind (ends_quiet_prepareSourcing cfg ni p) fun _ ↦ .bind ?_ fun _ ↦
    .ite (.raise _) (.pure _)
  exact .ensuring (.handle (ends_quiet_sourcing cfg ni p) fun _ ↦ .raise _)
    (ends_quiet_teardown cfg ni)

/-- **The teardown** raises exactly if its write does. -/
theorem post_teardown_raises {s : Smu V} (hs : s.session = true) :
    Post (teardown cfg ni) (fun _ _ ↦ TeardownAccepted ni s.world)
      (fun e _ ↦ ¬TeardownAccepted ni s.world ∧
        ∃ x, e = ⟨.smuError, "SMU " ++ cfg.resource ++ " failed to disable output: " ++ x⟩) s := by
  refine (post_bind _).mpr ((post_bind _).mpr (post_get.mpr (post_ite.mpr ?_)))
  rw [if_pos hs]
  refine (post_bind _).mpr ((post_query _).mpr ((post_bind _).mpr ((post_query _).mpr ?_)))
  have hverify : Raises (fun _ ↦ False) (verifyOutputDisabled ni) := by
    refine .bind .get fun m ↦ .ite (.bind (.query _) fun r ↦ ?_) (.pure _)
    cases r with
    | ok enabled => exact .pure _
    | error e => exact .pure _
  split
  · next h =>
    refine (post_bind _).mpr ((hverify _).mono (fun _ _ _ ↦ h) fun _ _ h ↦ h.elim)
  · next x h =>
    refine ⟨fun haccepted ↦ ?_, x, rfl⟩
    cases h.symm.trans haccepted

theorem not_isInstance_smuError (message : String) {c : ExcClass} (hc : c ∉ ExcClass.smuError.mro) :
    ¬(⟨.smuError, message⟩ : Exc).isInstance [c] = true := by
  simpa [Exc.isInstance] using hc

/-- What the teardown raises is told from what leaves the second part by its class or its text. -/
theorem wrapSourcing_ne_teardown (e : Exc) (x : String) :
    (⟨.smuError, "SMU " ++ cfg.resource ++ " failed to disable output: " ++ x⟩ : Exc)
      ≠ wrapSourcing cfg p e := by
  unfold wrapSourcing
  intro heq
  split at heq
  · next h =>
    rw [← heq] at h
    exact not_isInstance_smuError _ (by decide) h
  · split at heq
    · next h =>
      rw [← heq] at h
      exact not_isInstance_smuError _ (by decide) h
    · have htext : ("SMU " ++ cfg.resource ++ " failed to disable output: " ++ x).toList
          = ("SMU " ++ cfg.resource ++ " channel " ++ cfg.channel ++ " failed while sourcing "
            ++ formatSigned 3 p.voltageV ++ " V: " ++ e.message).toList :=
        congrArg (fun e : Exc ↦ e.message.toList) heq
      have hfailed : " failed to disable output: ".toList
          = ' ' :: 'f' :: "ailed to disable output: ".toList := by decide
      have hchannel : " channel ".toList = ' ' :: 'c' :: "hannel ".toList := by decide
      simp only [String.toList_append, List.append_assoc, hfailed, hchannel] at htext
      have hrest := List.append_cancel_left (List.append_cancel_left htext)
      cases (List.cons.inj (List.cons.inj hrest).2).1

/-- The exception of the teardown's write. -/
def IsTeardownError (e : Exc) : Prop :=
  ∃ x, e = ⟨.smuError, "SMU " ++ cfg.resource ++ " failed to disable output: " ++ x⟩

/-- **The exception that wins** over one the second part ends with. -/
theorem post_guardedSourcing_of_error {s t : Smu V} {e : Exc} (hs : s.session = true)
    (h : sourcing cfg ni p s = .error e t) :
    Post (guardedSourcing cfg ni p) (fun _ _ ↦ False)
      (fun e' _ ↦ (TeardownAccepted ni t.world ∧ e' = wrapSourcing cfg p e) ∨
        (¬TeardownAccepted ni t.world ∧ IsTeardownError cfg e')) s := by
  have ht : t.session = true := by
    obtain ⟨u, hlast, hquiet⟩ := ends_quiet_sourcing cfg ni p s
    rw [h] at hlast
    rw [Option.some.inj hlast]
    exact hquiet.2.2.trans hs
  refine (post_ensuring _).mpr ((post_handle _).mpr ((post_of_error h).mpr ?_))
  refine (post_raise _).mpr ((post_teardown_raises cfg ni ht).mono ?_ ?_)
  · rintro _ u haccepted
    exact Or.inl ⟨haccepted, rfl⟩
  · rintro e' u ⟨hrefused, hteardown⟩
    exact Or.inr ⟨hrefused, hteardown⟩

/-- What leaves the method, of an exception in its second part. -/
theorem exists_sourceDcVoltagePoint_error {s s' t : Smu V} {e : Exc}
    (hprepare : prepareSourcing cfg ni p s = .ok () s')
    (h : sourcing cfg ni p s' = .error e t) :
    ∃ e' u, sourceDcVoltagePoint cfg ni p s = .error e' u ∧
      ((TeardownAccepted ni t.world ∧ e' = wrapSourcing cfg p e) ∨
        (¬TeardownAccepted ni t.world ∧ IsTeardownError cfg e')) := by
  have hs' : s'.session = true := by
    obtain ⟨u, hlast, hquiet⟩ := ends_quiet_prepareSourcing cfg ni p s
    rw [hprepare] at hlast
    rw [Option.some.inj hlast, hquiet.2.2]
    by_contra hs
    unfold prepareSourcing at hprepare
    obtain ⟨m, s'', hget, hrest⟩ := exists_of_bind_eq_ok hprepare
    obtain ⟨rfl, rfl⟩ := Outcome.ok.inj hget
    rw [if_neg hs] at hrest
    cases hrest
  refine (ends_quiet_sourceDcVoltagePoint cfg ni p).exists_error ?_
  refine (post_bind _).mpr ((post_of_ok hprepare).mpr ((post_bind _).mpr ?_))
  exact (post_guardedSourcing_of_error cfg ni p hs' h).mono (fun _ _ h ↦ h.elim) fun _ _ h ↦ h

/-- A hold that is cancelled is the end of the second part, unless leaving the `with` raises. -/
theorem exists_sourcing_of_cancelled {s h w : Smu V} {readback : ℚ × ℚ × Bool} {reason : String}
    (hinitiate : initiateSourcing cfg ni p s = .ok readback h)
    (hhold : holdPoint ni p h = .error ⟨.operationCancelledError, reason⟩ w) :
    ∃ e t, sourcing cfg ni p s = .error e t ∧
      ((LeaveAccepted ni w.world ∧ e = ⟨.operationCancelledError, reason⟩ ∧
          t.world = (ni.leave w.world).2) ∨
        (¬LeaveAccepted ni w.world ∧ ∃ x, e = ⟨.exception, x⟩)) := by
  refine (ends_quiet_sourcing cfg ni p).exists_error ?_
  refine (post_bind _).mpr ((post_of_ok hinitiate).mpr ((post_bind _).mpr ((post_ensuring _).mpr
    ((post_of_error hhold).mpr ((post_bind _).mpr ((post_query _).mpr ?_))))))
  split
  · next hleave => exact Or.inl ⟨hleave, rfl, rfl⟩
  · next x hleave =>
    refine Or.inr ⟨fun haccepted ↦ ?_, x, rfl⟩
    cases hleave.symm.trans haccepted

/-- **When the teardown masks nothing.** The exception that leaves the method is the one its second
part ended with (or the `SMUError` that wraps it) exactly if the teardown's write goes through; and
an operator's cancellation of the hold reaches the proto test as one exactly if, before that, the
exit of the `with` goes through as well. -/
theorem masking_iff {s s' : Smu V} (hprepare : prepareSourcing cfg ni p s = .ok () s') :
    (∀ e t, sourcing cfg ni p s' = .error e t →
      ∃ e' u, sourceDcVoltagePoint cfg ni p s = .error e' u ∧
        (e' = wrapSourcing cfg p e ↔ TeardownAccepted ni t.world)) ∧
    ∀ readback h reason w, initiateSourcing cfg ni p s' = .ok readback h →
      holdPoint ni p h = .error ⟨.operationCancelledError, reason⟩ w →
      ∃ e' u, sourceDcVoltagePoint cfg ni p s = .error e' u ∧
        ((protoClause e').stopReason = .cancelled ↔
          LeaveAccepted ni w.world ∧ TeardownAccepted ni (ni.leave w.world).2) := by
  constructor
  · intro e t hsourcing
    obtain ⟨e', u, hrun, hend⟩ := exists_sourceDcVoltagePoint_error cfg ni p hprepare hsourcing
    refine ⟨e', u, hrun, ?_⟩
    rcases hend with ⟨haccepted, rfl⟩ | ⟨hrefused, x, rfl⟩
    · exact iff_of_true rfl haccepted
    · exact iff_of_false (wrapSourcing_ne_teardown cfg p e x) hrefused
  · intro readback h reason w hinitiate hhold
    obtain ⟨e, t, hsourcing, hleave⟩ := exists_sourcing_of_cancelled cfg ni p hinitiate hhold
    obtain ⟨e', u, hrun, hend⟩ := exists_sourceDcVoltagePoint_error cfg ni p hprepare hsourcing
    refine ⟨e', u, hrun, ?_⟩
    rw [stopReason_protoClause_iff]
    rcases hend with ⟨haccepted, rfl⟩ | ⟨hrefused, x, rfl⟩
    · rcases hleave with ⟨hleave, rfl, hworld⟩ | ⟨hleave, x, rfl⟩
      · rw [hworld] at haccepted
        exact iff_of_true rfl ⟨hleave, haccepted⟩
      · exact iff_of_false (not_isInstance_smuError _ (by decide)) fun haccepted ↦
          hleave haccepted.1
    · refine iff_of_false (not_isInstance_smuError _ (by decide)) ?_
      rintro ⟨haccepted, haccepted'⟩
      rcases hleave with ⟨-, -, hworld⟩ | ⟨hleave, -⟩
      · rw [hworld] at hrefused
        exact hrefused haccepted'
      · exact hleave haccepted

end

/-- A session that takes one write of `output_enabled = False` and no second one. -/
def refusingDisable : SourcingSession ℕ := refusingSession none (some "timeout")

/-- A session that takes no second write of `output_enabled = False`, with a hold that is cancelled:
the proto test is recorded as failed. -/
theorem not_cancelled_refusedDisable :
    ∃ s' readback h w e' u,
      prepareSourcing ⟨"PXI1Slot2", "0"⟩ refusingDisable
        (fourVolts (some "Ctrl+C")) ⟨true, true, 0, []⟩ = .ok () s' ∧
      initiateSourcing ⟨"PXI1Slot2", "0"⟩ refusingDisable
        (fourVolts (some "Ctrl+C")) s' = .ok readback h ∧
      holdPoint refusingDisable (fourVolts (some "Ctrl+C")) h
        = .error ⟨.operationCancelledError, "Ctrl+C"⟩ w ∧
      sourceDcVoltagePoint ⟨"PXI1Slot2", "0"⟩ refusingDisable
        (fourVolts (some "Ctrl+C")) ⟨true, true, 0, []⟩ = .error e' u ∧
      (protoClause e').stopReason = .failed := by
  have hprepare : prepareSourcing ⟨"PXI1Slot2", "0"⟩ refusingDisable
      (fourVolts (some "Ctrl+C")) ⟨true, true, 0, []⟩ = .ok () ⟨true, true, 1, []⟩ := rfl
  obtain ⟨readback, h, hinitiate, hworld⟩ := Outcome.exists_of_passes
    (o := initiateSourcing ⟨"PXI1Slot2", "0"⟩ refusingDisable
      (fourVolts (some "Ctrl+C")) ⟨true, true, 1, []⟩)
    (p := fun _ t ↦ t.world == 1) (by decide +kernel)
  have hhold : holdPoint refusingDisable (fourVolts (some "Ctrl+C")) h
      = .error ⟨.operationCancelledError, "Ctrl+C"⟩ h := rfl
  obtain ⟨e, t, hsourcing, hleave⟩ := exists_sourcing_of_cancelled _ _ _ hinitiate hhold
  obtain ⟨e', u, hrun, hend⟩ := exists_sourceDcVoltagePoint_error _ _ _ hprepare hsourcing
  refine ⟨_, _, _, _, e', u, hprepare, hinitiate, hhold, hrun, ?_⟩
  obtain ⟨-, -, hleft⟩ := hleave.resolve_right fun hrefused ↦ hrefused.1 rfl
  have hrefused : ¬TeardownAccepted refusingDisable t.world := by
    rw [hleft]
    change ¬(if h.world = 0 then none else some "timeout") = none
    rw [beq_iff_eq.mp hworld]
    decide
  obtain ⟨-, x, rfl⟩ := hend.resolve_left fun haccepted ↦ hrefused haccepted.1
  have hclause : ∀ c ∈ [ExcClass.operationCancelledError, .safetyViolationError, .relayError],
      c ∉ ExcClass.smuError.mro := by decide
  unfold protoClause
  rw [if_neg (not_isInstance_smuError _ (hclause _ (by decide))),
    if_neg (not_isInstance_smuError _ (hclause _ (by decide))),
    if_neg (not_isInstance_smuError _ (hclause _ (by decide)))]
  rfl

/-- The law at that session. -/
theorem masking_iff_refusedDisable :
    (∀ e t, sourcing ⟨"PXI1Slot2", "0"⟩ refusingDisable (fourVolts (some "Ctrl+C"))
        ⟨true, true, 1, []⟩ = .error e t →
      ∃ e' u, sourceDcVoltagePoint ⟨"PXI1Slot2", "0"⟩ refusingDisable (fourVolts (some "Ctrl+C"))
          ⟨true, true, 0, []⟩ = .error e' u ∧
        (e' = wrapSourcing ⟨"PXI1Slot2", "0"⟩ (fourVolts (some "Ctrl+C")) e ↔
          TeardownAccepted refusingDisable t.world)) ∧
    ∀ readback h reason w, initiateSourcing ⟨"PXI1Slot2", "0"⟩ refusingDisable
        (fourVolts (some "Ctrl+C")) ⟨true, true, 1, []⟩ = .ok readback h →
      holdPoint refusingDisable (fourVolts (some "Ctrl+C")) h
        = .error ⟨.operationCancelledError, reason⟩ w →
      ∃ e' u, sourceDcVoltagePoint ⟨"PXI1Slot2", "0"⟩ refusingDisable (fourVolts (some "Ctrl+C"))
          ⟨true, true, 0, []⟩ = .error e' u ∧
        ((protoClause e').stopReason = .cancelled ↔ LeaveAccepted refusingDisable w.world ∧
          TeardownAccepted refusingDisable (refusingDisable.leave w.world).2) :=
  masking_iff _ _ _ rfl

end Smu

end Nipxi
