import Nipxi.Orchestration.Coverage

/-!
# What the global emergency stop knows about the hardware

`GlobalEmergencyStop.trigger` asks every worker to stop, joins each thread for a while, and calls
a worker `stopped` if its thread is over by then. What the worker's own shutdown found out about
its hardware is swallowed on the way through `run_guarded`, `SafetyMonitor` and
`HardwareManager.disconnect_all`. Here each worker's shutdown checks are added to the threads of
`ConcurrentSupervisor`, with any outcome and at any time its thread is alive.
-/

open Collections Transition

namespace Nipxi

/-- A shutdown check of a worker's hardware, and what it found. -/
inductive ShutdownCheck where
  /-- `emergency_output_off` returned this. -/
  | outputOff (verified : Bool)
  /-- `open_all` of the relays returned, or raised. -/
  | openAll (returned : Bool)
  deriving DecidableEq, Repr

/-- What the last `emergency_output_off` returned; the newest check comes first. -/
def lastOutputOff (checks : List ShutdownCheck) : Option Bool :=
  checks.findSome? fun
    | .outputOff verified => some verified
    | .openAll _ => none

/-- Whether the last `open_all` returned. -/
def lastOpenAll (checks : List ShutdownCheck) : Option Bool :=
  checks.findSome? fun
    | .outputOff _ => none
    | .openAll returned => some returned

/-- The last `emergency_output_off` returned `False`, or the last `open_all` failed. -/
def unverified (checks : List ShutdownCheck) : Bool :=
  lastOutputOff checks == some false || lastOpenAll checks == some false

/-- The threads of a `ConcurrentSupervisor`, with the checks each worker has made. -/
structure StoppingState (n : ℕ) where
  supervisor : SupervisorState n
  checks : Fin n → List ShutdownCheck

/-- A step between the threads, or a check by a worker. -/
inductive StoppingEvent (n : ℕ) where
  | thread (e : SupervisorEvent n)
  | check (i : Fin n) (c : ShutdownCheck)

/-- The steps: a worker touches its hardware only from its own thread, while that is alive. -/
inductive StoppingStep {n : ℕ} (ids : Fin n → String) :
    StoppingState n → StoppingEvent n → StoppingState n → Prop
  | thread {s e t} (hs : SupervisorStep ids s.supervisor e t) :
      StoppingStep ids s (.thread e) { s with supervisor := t }
  | check {s} (i : Fin n) (c : ShutdownCheck)
      (ha : (s.supervisor.workers i).isAlive = true) :
      StoppingStep ids s (.check i c)
        { s with checks := Function.update s.checks i (c :: s.checks i) }

/-- The system of one supervised run, with every worker's shutdown checks. -/
def stoppingSystem {n : ℕ} (ids : Fin n → String) :
    System (StoppingState n) (StoppingEvent n) :=
  ⟨fun s ↦ s = ⟨.initial n, fun _ ↦ []⟩, StoppingStep ids⟩

section Stopping

variable {n : ℕ} {ids : Fin n → String}

/-- A worker's thread ends in this step: `disconnect` returned, or its last report is out. -/
def EndsThread (s : SupervisorState n) (i : Fin n) : SupervisorEvent n → Prop
  | .disconnect j .disconnected => j = i
  | .signal j => j = i ∧ (s.workers i).pc = .signalling .finish
  | _ => False

/-- No thread ends with its hardware unverified. -/
def EndsVerified (s : StoppingState n) : StoppingEvent n → Prop
  | .thread e => ∀ i, EndsThread s.supervisor i e → unverified (s.checks i) = false
  | .check _ _ => True

theorem isAlive_moveWorker (s : SupervisorState n) (i j : Fin n) (pc : WorkerPc) :
    ((s.moveWorker i pc).workers j).isAlive
      = if j = i then pc != .notStarted && pc != .finished else (s.workers j).isAlive := by
  unfold Worker.isAlive
  rw [pc_moveWorker]
  split <;> rfl

/-- **Whom a step finds dead.** A worker dead after a step was dead before, or the step ended its
thread. -/
theorem SupervisorStep.dead {s s' : SupervisorState n} {e : SupervisorEvent n}
    (hs : SupervisorStep ids s e s') {i : Fin n} (hdead : (s'.workers i).isAlive = false) :
    (s.workers i).isAlive = false ∨ EndsThread s i e := by
  have hmoved : ∀ {j pc}, (s.moveWorker j pc).workers = s'.workers →
      (pc = .finished → j = i → EndsThread s i e) → pc ≠ .notStarted →
      (s.workers i).isAlive = false ∨ EndsThread s i e := by
    intro j pc hw hend hne
    rw [← hw, isAlive_moveWorker] at hdead
    split at hdead
    · next hij =>
      have hpc : pc = .finished := by simpa [hne] using hdead
      exact Or.inr (hend hpc hij.symm)
    · exact Or.inl hdead
  cases hs with
  | start j hpc hj hw => exact hmoved rfl nofun nofun
  | connect j o hw => exact hmoved rfl (by cases o <;> exact nofun) (by cases o <;> exact nofun)
  | supervise j o hw =>
    have hne : ∀ c, afterSupervise (ids j) c o ≠ .finished ∧
        afterSupervise (ids j) c o ≠ .notStarted := by
      intro c
      cases o with
      | returned failed => cases failed <;> cases c <;> exact ⟨nofun, nofun⟩
      | raised text => exact ⟨nofun, nofun⟩
    exact hmoved rfl (fun h ↦ absurd h (hne _).1) (hne _).2
  | disconnect j o hw =>
    cases o with
    | disconnected => exact hmoved rfl (fun _ h ↦ h) nofun
    | raised text => exact hmoved rfl nofun nofun
  | record j time hw => exact hmoved rfl nofun nofun
  | @signal next j hw =>
    cases next with
    | finish => exact hmoved rfl (fun _ h ↦ ⟨h, by rw [← h, hw]⟩) nofun
    | disconnect => exact hmoved rfl nofun nofun
  | requestStop j hpc hj =>
    unfold Worker.isAlive at hdead ⊢
    rw [pc_requestStop] at hdead
    exact Or.inl hdead
  | _ => exact Or.inl hdead

theorem SupervisorStep.staysDead {s s' : SupervisorState n} {e : SupervisorEvent n}
    (hs : SupervisorStep ids s e s') {i : Fin n} (hdead : (s.workers i).isAlive = false) :
    (s'.workers i).isAlive = false ∨ ∃ k, s'.supervisor = .starting k := by
  have hmoved : ∀ {j pc}, (s.workers j).isAlive = true →
      (s.moveWorker j pc).workers = s'.workers → (s'.workers i).isAlive = false := by
    intro j pc hj hw
    have hne : i ≠ j := by
      rintro rfl
      exact absurd (hdead.symm.trans hj) nofun
    rw [← hw, isAlive_moveWorker, if_neg hne]
    exact hdead
  cases hs with
  | start j hpc hj hw => exact Or.inr ⟨_, rfl⟩
  | connect j o hw | supervise j o hw | disconnect j o hw | record j time hw | signal j hw =>
    exact Or.inl (hmoved (by unfold Worker.isAlive; rw [hw]; rfl) rfl)
  | requestStop j hpc hj =>
    refine Or.inl ?_
    unfold Worker.isAlive at hdead ⊢
    rw [pc_requestStop]
    exact hdead
  | _ => exact Or.inl hdead

/-- What `trigger` has recorded so far is true: each worker joined is recorded as
`unverified_safe`, or it is dead. -/
def JoinsAreTrue (ids : Fin n → String) (s : SupervisorState n) : Prop :=
  match s.supervisor with
  | .joining _ k results => ∀ i : Fin n, i.val < k →
      results.get? (ids i) = some .unverifiedSafe ∨ (s.workers i).isAlive = false
  | .returned result => result.faulted = true → ∀ i,
      result.shutdown.get? (ids i) = some .unverifiedSafe ∨ (s.workers i).isAlive = false
  | _ => True

/-- A step that leaves the supervisor's thread where it is keeps the record true. -/
theorem JoinsAreTrue.frame {s s' : SupervisorState n} {e : SupervisorEvent n}
    (h : JoinsAreTrue ids s) (hs : SupervisorStep ids s e s')
    (hpc : s'.supervisor = s.supervisor) : JoinsAreTrue ids s' := by
  have hdead : ∀ i, (s.workers i).isAlive = false → (∀ k, s.supervisor ≠ .starting k) →
      (s'.workers i).isAlive = false := by
    intro i hi hnot
    refine (hs.staysDead hi).resolve_right ?_
    rintro ⟨k, hk⟩
    exact hnot k (hpc.symm.trans hk)
  unfold JoinsAreTrue at *
  rw [hpc]
  split
  · next origin k results hjoin =>
    rw [hjoin] at h
    exact fun i hi ↦ (h i hi).imp_right fun hi' ↦ hdead i hi' (by simp [hjoin])
  · next result hret =>
    rw [hret] at h
    exact fun hf i ↦ (h hf i).imp_right fun hi' ↦ hdead i hi' (by simp [hret])
  · trivial

theorem JoinsAreTrue.step (hids : Function.Injective ids) {s s' : SupervisorState n}
    {e : SupervisorEvent n} (h : JoinsAreTrue ids s) (hs : SupervisorStep ids s e s') :
    JoinsAreTrue ids s' := by
  cases hs with
  | connect | supervise | disconnect | record | signal =>
    exact h.frame (by constructor; assumption) rfl
  | returnFinished hpc =>
    unfold JoinsAreTrue
    exact fun hf ↦ absurd hf nofun
  | allRequested hpc =>
    unfold JoinsAreTrue
    exact fun i hi ↦ absurd hi (Nat.not_lt_zero _)
  | @join origin k results j hpc hj =>
    unfold JoinsAreTrue at *
    rw [hpc] at h
    intro i hi
    dsimp only
    rw [Dict.get?_insert]
    by_cases hij : i = j
    · subst hij
      rw [if_pos rfl, shutdownState]
      cases hw : (s.workers i).isAlive with
      | true => exact Or.inl rfl
      | false => exact Or.inr rfl
    · rw [if_neg fun heq ↦ hij (hids heq)]
      exact h i (by omega)
  | returnFaulted hpc =>
    unfold JoinsAreTrue at *
    rw [hpc] at h
    exact fun _ i ↦ h i i.isLt
  | _ =>
    unfold JoinsAreTrue
    trivial

/-- What `GlobalEmergencyStop` promises: in the result of a run that was stopped, every worker
whose hardware is unverified is reported as such. -/
def ReportsUnverified (ids : Fin n → String) (s : StoppingState n) : Prop :=
  ∀ result, s.supervisor.supervisor = .returned result → result.faulted = true →
    ∀ i, unverified (s.checks i) = true →
      result.shutdown.get? (ids i) = some .unverifiedSafe

/-- **When the report is true.** In every run in which no worker's thread ends with its hardware
unverified, whoever is unverified is still alive when it is joined, and reported. -/
theorem reportsUnverified_of_endsVerified (hids : Function.Injective ids)
    {evs : List (StoppingEvent n)} {s : StoppingState n}
    (hrun : Run ((stoppingSystem ids).restrict EndsVerified) evs s) :
    ReportsUnverified ids s := by
  have hinv : JoinsAreTrue ids s.supervisor ∧
      ∀ i, (s.supervisor.workers i).isAlive = false → unverified (s.checks i) = false := by
    refine hrun.keeps (I := fun s ↦ JoinsAreTrue ids s.supervisor ∧
      ∀ i, (s.supervisor.workers i).isAlive = false → unverified (s.checks i) = false) ?_ ?_
    · rintro s rfl
      exact ⟨trivial, fun _ _ ↦ rfl⟩
    · rintro s e s' ⟨hjoins, hdead⟩ ⟨hs, hends⟩
      cases hs with
      | thread hs =>
        refine ⟨hjoins.step hids hs, fun i hi ↦ ?_⟩
        rcases hs.dead hi with hi | hend
        · exact hdead i hi
        · exact hends i hend
      | check j c ha =>
        refine ⟨hjoins, fun i hi ↦ ?_⟩
        have hij : i ≠ j := by
          rintro rfl
          exact absurd (ha.symm.trans hi) nofun
        dsimp only
        rw [Function.update_of_ne hij]
        exact hdead i hi
  obtain ⟨hjoins, hdead⟩ := hinv
  intro result hpc hf i hi
  unfold JoinsAreTrue at hjoins
  rw [hpc] at hjoins
  refine (hjoins hf i).resolve_right fun hnot ↦ ?_
  exact absurd (hi.symm.trans (hdead i hnot)) nofun

end Stopping

theorem injective_smuName_of_constructWorkers {routing : SenseRouting} {groupNames : List String}
    {groups : Dict String BatteryGroup} {plans : List WorkerPlan}
    (h : constructWorkers routing groupNames groups = .ok plans) :
    Function.Injective fun i : Fin plans.length ↦ (plans.get i).smuName := by
  obtain ⟨requested, -, rfl⟩ := constructWorkers_eq_ok h
  exact injective_smuName_discoverWorkers requested

/-- **When the global emergency stop tells the truth.** For the workers of any construction, in
every run in which no worker's thread ends with its hardware unverified, every worker whose last
`emergency_output_off` returned `False` or whose last `open_all` failed is reported as
`unverified_safe`. -/
theorem emergencyStop_reportsUnverified {routing : SenseRouting} {groupNames : List String}
    {groups : Dict String BatteryGroup} {plans : List WorkerPlan}
    (h : constructWorkers routing groupNames groups = .ok plans)
    {evs : List (StoppingEvent plans.length)} {s : StoppingState plans.length}
    (hrun : Run ((stoppingSystem fun i ↦ (plans.get i).smuName).restrict EndsVerified) evs s) :
    ReportsUnverified (fun i ↦ (plans.get i).smuName) s :=
  reportsUnverified_of_endsVerified (injective_smuName_of_constructWorkers h) hrun

/-- A worker whose group fails and whose output stays on; its thread is still alive when it is
joined. -/
theorem emergencyStop_reportsUnverified_verified :
    ∃ evs s, ReportsUnverified (fun i ↦ ([oneGroupPlan].get i).smuName) s ∧
      s.checks 0 = [.outputOff false] ∧
      (∃ result, s.supervisor.supervisor = .returned result ∧ result.faulted = true) ∧
      Run ((stoppingSystem fun i ↦ ([oneGroupPlan].get i).smuName).restrict EndsVerified)
        evs s := by
  have hrun := Run.init
      (S := (stoppingSystem fun i ↦ ([oneGroupPlan].get i).smuName).restrict EndsVerified) rfl
    |>.step ⟨.thread (.start 0 rfl rfl rfl), nofun⟩
    |>.step ⟨.thread (.allStarted rfl), nofun⟩
    |>.step ⟨.thread (.connect 0 .connected rfl), nofun⟩
    |>.step ⟨.thread (.supervise 0 (.returned (some "AUX_1")) rfl), nofun⟩
    |>.step ⟨.thread (.record 0 0 rfl), nofun⟩
    |>.step ⟨.thread (.signal 0 rfl), fun _ _ ↦ rfl⟩
    |>.step ⟨.check 0 (.outputOff false) rfl, trivial⟩
    |>.step ⟨.thread (.woken rfl rfl), nofun⟩
    |>.step ⟨.thread (.readOrigin rfl), nofun⟩
    |>.step ⟨.thread (.trigger rfl), nofun⟩
    |>.step ⟨.thread (.requestStop 0 rfl rfl), nofun⟩
    |>.step ⟨.thread (.allRequested rfl), nofun⟩
    |>.step ⟨.thread (.join 0 rfl rfl), nofun⟩
    |>.step ⟨.thread (.returnFaulted rfl), nofun⟩
  exact ⟨_, _, emergencyStop_reportsUnverified constructWorkers_halfEnabledGroups hrun, rfl,
    ⟨_, rfl, rfl⟩, hrun⟩

/-- The same worker with an output that stays on: `disconnect_all` swallows it, the thread ends,
and the worker is reported as `stopped`. -/
theorem not_reportsUnverified_stuckOutput :
    ¬∀ (routing : SenseRouting) (groupNames : List String) (groups : Dict String BatteryGroup)
      (plans : List WorkerPlan), constructWorkers routing groupNames groups = .ok plans →
        ∀ evs s, Run (stoppingSystem fun i ↦ (plans.get i).smuName) evs s →
          ReportsUnverified (fun i ↦ (plans.get i).smuName) s := by
  intro h
  have hrun := Run.init (S := stoppingSystem fun i ↦ ([oneGroupPlan].get i).smuName) rfl
    |>.step (.thread (.start 0 rfl rfl rfl))
    |>.step (.thread (.allStarted rfl))
    |>.step (.thread (.connect 0 .connected rfl))
    |>.step (.thread (.supervise 0 (.returned (some "AUX_1")) rfl))
    |>.step (.thread (.record 0 0 rfl))
    |>.step (.thread (.signal 0 rfl))
    |>.step (.check 0 (.outputOff false) rfl)
    |>.step (.thread (.disconnect 0 .disconnected rfl))
    |>.step (.thread (.woken rfl rfl))
    |>.step (.thread (.readOrigin rfl))
    |>.step (.thread (.trigger rfl))
    |>.step (.thread (.requestStop 0 rfl rfl))
    |>.step (.thread (.allRequested rfl))
    |>.step (.thread (.join 0 rfl rfl))
    |>.step (.thread (.returnFaulted rfl))
  have hstopped := h _ _ _ _ constructWorkers_halfEnabledGroups _ _ hrun _ rfl rfl 0 rfl
  exact absurd hstopped (by decide)

end Nipxi
