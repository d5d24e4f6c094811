import Nipxi.Orchestration.ConcurrentSupervisor
import Nipxi.Orchestration.Ownership
import Nipxi.Orchestration.Supervisor

/-!
# Which requested groups are run

`ConcurrentSupervisor.__init__` turns group names into workers, and `run` runs each worker's
groups one after the other. A requested group that is disabled or has no SMU gets no worker, and
the constructor complains only if this leaves no worker at all. Every other requested group is in
one worker, and where nothing is reported and nobody is stopped its `run_group` is called once
and succeeds.

The threads of `ConcurrentSupervisor` and the steps inside each worker's `SequentialSupervisor`
are two models; `stationSystem` puts them together, and its runs project to runs of both.
-/

open Collections Transition

namespace Nipxi

/-! ## The constructor -/

/-- What `ConcurrentSupervisor.__init__` can raise. -/
inductive ConstructError where
  | ownership (e : OwnershipError)
  | keyError (e : KeyError)
  /-- `ValueError`: none of the requested groups has an SMU assigned. -/
  | nothingToRun (groupNames : List String)

/-- `ConcurrentSupervisor.__init__` up to its worker plans. -/
def constructWorkers (routing : SenseRouting) (groupNames : List String)
    (groups : Dict String BatteryGroup) : Except ConstructError (List WorkerPlan) :=
  match validate routing groupNames groups with
  | .error e => .error (.ownership e)
  | .ok _ =>
    match requestGroups groups groupNames Dict.empty with
    | .error e => .error (.keyError e)
    | .ok requested =>
      match discoverWorkers requested with
      | [] => .error (.nothingToRun groupNames)
      | plans => .ok plans

/-- Whether a group is a worker candidate: enabled, with an SMU. -/
def BatteryGroup.isCandidate (grp : BatteryGroup) : Bool := grp.enabled && grp.smu.isSome

theorem constructWorkers_eq_ok {routing : SenseRouting} {groupNames : List String}
    {groups : Dict String BatteryGroup} {plans : List WorkerPlan}
    (h : constructWorkers routing groupNames groups = .ok plans) :
    ∃ requested, requestGroups groups groupNames Dict.empty = .ok requested ∧
      plans = discoverWorkers requested := by
  unfold constructWorkers at h
  split at h
  · exact absurd h nofun
  · split at h
    · exact absurd h nofun
    · next requested hreq =>
      split at h
      · exact absurd h nofun
      · exact ⟨requested, hreq, (Except.ok.inj h).symm⟩

theorem injective_smuName_discoverWorkers (requested : Dict String BatteryGroup) :
    Function.Injective fun i : Fin (discoverWorkers requested).length ↦
      ((discoverWorkers requested).get i).smuName := by
  intro i j hij
  have hlength : ((discoverWorkers requested).map WorkerPlan.smuName).length = _ :=
    List.length_map _
  have hinj := List.nodup_iff_injective_get.mp (nodup_smuName_discoverWorkers requested)
  have hsame : i.cast hlength.symm = j.cast hlength.symm := hinj (by simpa using hij)
  exact Fin.cast_injective _ hsame

/-- **The static partition.** A requested group is in exactly one constructed worker, and there
once, if it is a candidate, and in none otherwise. -/
theorem constructWorkers_partition {routing : SenseRouting} {groupNames : List String}
    {groups : Dict String BatteryGroup} {plans : List WorkerPlan}
    (h : constructWorkers routing groupNames groups = .ok plans) {name : String}
    (hname : name ∈ groupNames) {grp : BatteryGroup} (hgrp : groups.get? name = some grp) :
    if grp.isCandidate then
      ∃ i : Fin plans.length, (plans.get i).groups.count name = 1 ∧
        ∀ j : Fin plans.length, name ∈ (plans.get j).groups → j = i
    else ∀ i : Fin plans.length, name ∉ (plans.get i).groups := by
  obtain ⟨requested, hreq, rfl⟩ := constructWorkers_eq_ok h
  have hget : requested.get? name = some grp := by
    rw [get?_requestGroups hreq, if_pos hname, hgrp]
  have hmem : ∀ w ∈ discoverWorkers requested,
      name ∈ w.groups ↔ grp.enabled = true ∧ grp.smu = some w.smuName := by
    intro w hw
    rw [mem_groups_of_mem_discoverWorkers hw, hget]
    simp
  split
  · next hcand =>
    obtain ⟨henabled, hsome⟩ := by simpa [BatteryGroup.isCandidate] using hcand
    obtain ⟨smu, hsmu⟩ := Option.isSome_iff_exists.mp hsome
    obtain ⟨w, hw, hwsmu⟩ :=
      exists_mem_discoverWorkers (mem_workerEntries.mpr ⟨grp, hget, henabled, hsmu⟩)
    obtain ⟨i, rfl⟩ := List.get_of_mem hw
    refine ⟨i, ?_, fun j hj ↦ ?_⟩
    · refine List.count_eq_one_of_mem (nodup_groups_of_mem_discoverWorkers hw) ?_
      exact (hmem _ hw).mpr ⟨henabled, by rw [hsmu, hwsmu]⟩
    · have hjsmu := ((hmem _ (List.get_mem _ j)).mp hj).2
      have hsame : ((discoverWorkers requested).get j).smuName
          = ((discoverWorkers requested).get i).smuName := by
        rw [hwsmu]
        exact Option.some.inj (hjsmu.symm.trans hsmu)
      exact injective_smuName_discoverWorkers requested hsame
  · next hcand =>
    intro i hi
    obtain ⟨henabled, hsmu⟩ := (hmem _ (List.get_mem _ i)).mp hi
    exact hcand (by simp [BatteryGroup.isCandidate, henabled, hsmu])

/-! ## One worker's groups -/

section Sequential

variable {ι : Type}

/-- The group a step calls `run_group` for. -/
def SequentialEvent.called? : SequentialEvent ι → Option String
  | .callGroup group => some group
  | _ => none

/-- The group whose `run_group` a step ends, and whether it returned a truthy value. -/
def SequentialEvent.ended? : SequentialEvent ι → Option (String × Bool)
  | .groupEnded group success => some (group, success)
  | _ => none

/-- A step of a `stop` call. -/
def SequentialEvent.isStop : SequentialEvent ι → Bool
  | .setFlag _ | .foundRunning _ | .foundOther _ => true
  | .validated (.stop _) | .appended (.stop _) | .changed (.stop _) _ _ | .invalid (.stop _) =>
    true
  | _ => false

/-- The groups `run_group` was called for, in this order. -/
def groupCalls (evs : List (SequentialEvent ι)) : List String :=
  evs.reverse.filterMap SequentialEvent.called?

/-- How the calls of `run_group` ended, in this order. -/
def groupResults (evs : List (SequentialEvent ι)) : List (String × Bool) :=
  evs.reverse.filterMap SequentialEvent.ended?

theorem groupCalls_cons (e : SequentialEvent ι) (evs : List (SequentialEvent ι)) :
    groupCalls (e :: evs) = groupCalls evs ++ e.called?.toList := by
  rw [groupCalls, List.reverse_cons, List.filterMap_append, groupCalls]
  cases he : e.called? <;> simp [he]

theorem groupResults_cons (e : SequentialEvent ι) (evs : List (SequentialEvent ι)) :
    groupResults (e :: evs) = groupResults evs ++ e.ended?.toList := by
  rw [groupResults, List.reverse_cons, List.filterMap_append, groupResults]
  cases he : e.ended? <;> simp [he]

/-- So far `run_group` was called for the completed groups, and each call succeeded. -/
def OnlyCompleted (evs : List (SequentialEvent ι)) (s : SequentialState ι) : Prop :=
  groupCalls evs = s.completedGroups ∧ groupResults evs = s.completedGroups.map (·, true) ∧
    s.failedGroup = none

/-- Where an unstopped `start` over `groups` is with its calls of `run_group`. -/
def Progress (groups : List String) (evs : List (SequentialEvent ι)) (s : SequentialState ι) :
    Prop :=
  match s.startPc with
  | .notStarted | .entering => OnlyCompleted evs s ∧ s.completedGroups = []
  | .looping rest | .moving _ _ _ (.loop rest) =>
    OnlyCompleted evs s ∧ s.completedGroups ++ rest = groups
  | .moving _ _ _ (.claim group rest) | .moving _ _ _ (.call group rest)
  | .claiming group rest | .calling group rest =>
    OnlyCompleted evs s ∧ s.completedGroups ++ group :: rest = groups
  | .inGroup group rest =>
    (groupCalls evs = s.completedGroups ++ [group] ∧
        groupResults evs = s.completedGroups.map (·, true) ∧ s.failedGroup = none) ∧
      s.completedGroups ++ group :: rest = groups
  | .called group rest success =>
    (groupCalls evs = s.completedGroups ++ [group] ∧
        groupResults evs = s.completedGroups.map (·, true) ++ [(group, success)] ∧
          s.failedGroup = none) ∧
      s.completedGroups ++ group :: rest = groups
  | .leaving => OnlyCompleted evs s ∧ s.completedGroups = groups
  | .moving _ _ _ .clear | .clearing => s.failedGroup.isSome = true
  | .moving _ _ _ .finish | .comparing => False
  | .returned => s.failedGroup.isSome = true ∨ OnlyCompleted evs s ∧ s.completedGroups = groups
  | .raised => True

/-- A step without a call and without the end of one. -/
theorem OnlyCompleted.cons {evs : List (SequentialEvent ι)} {s s' : SequentialState ι}
    {e : SequentialEvent ι} (h : OnlyCompleted evs s) (hcall : e.called? = none)
    (hend : e.ended? = none) (hdone : s'.completedGroups = s.completedGroups)
    (hfailed : s'.failedGroup = s.failedGroup) : OnlyCompleted (e :: evs) s' := by
  obtain ⟨hcalls, hresults, hnone⟩ := h
  refine ⟨?_, ?_, ?_⟩
  · rw [groupCalls_cons, hcall, hdone, hcalls]
    simp
  · rw [groupResults_cons, hend, hdone, hresults]
    simp
  · rw [hfailed, hnone]

variable [DecidableEq ι] {groups : List String}

theorem Progress.step {evs : List (SequentialEvent ι)} {s s' : SequentialState ι}
    {e : SequentialEvent ι} (h : Progress groups evs s) (hflag : s.stopRequested = false)
    (hs : SequentialStep groups s e s') (he : e.isStop = false) :
    Progress groups (e :: evs) s' := by
  cases hs with
  | enterStopped hpc hf | breakAtTop hpc hf | breakAfter hpc hf | compare hpc hf =>
    exact absurd (hflag.symm.trans hf) nofun
  | alreadyAborted hpc hst | abort hpc hst =>
    rw [Progress, hpc] at h
    exact h.elim
  | setFlag | foundRunning | foundOther | stopValidate | stopInvalid | stopAppend | stopAssign =>
    exact absurd he nofun
  | begin hpc =>
    rw [Progress, hpc] at h
    exact ⟨h.1.cons rfl rfl rfl rfl, h.2⟩
  | enter hpc hf =>
    rw [Progress, hpc] at h
    exact ⟨h.1.cons rfl rfl rfl rfl, by simp [h.2]⟩
  | exhausted hpc =>
    rw [Progress, hpc] at h
    exact ⟨h.1.cons rfl rfl rfl rfl, by simpa using h.2⟩
  | takeGroup hpc hf | claim hpc =>
    rw [Progress, hpc] at h
    exact ⟨h.1.cons rfl rfl rfl rfl, h.2⟩
  | @callGroup group rest hpc =>
    rw [Progress, hpc] at h
    obtain ⟨⟨hcalls, hresults, hnone⟩, hgroups⟩ := h
    refine ⟨⟨?_, ?_, hnone⟩, hgroups⟩
    · rw [groupCalls_cons, hcalls]
      rfl
    · rw [groupResults_cons, hresults]
      exact List.append_nil _
  | @groupEnded group rest success hpc =>
    rw [Progress, hpc] at h
    obtain ⟨⟨hcalls, hresults, hnone⟩, hgroups⟩ := h
    refine ⟨⟨?_, ?_, hnone⟩, hgroups⟩
    · rw [groupCalls_cons, hcalls]
      exact List.append_nil _
    · rw [groupResults_cons, hresults]
      rfl
  | succeed hpc hf =>
    -- the group just called becomes the last completed one
    rw [Progress, hpc] at h
    obtain ⟨⟨hcalls, hresults, hnone⟩, hgroups⟩ := h
    refine ⟨⟨?_, ?_, hnone⟩, by simpa using hgroups⟩
    · rw [groupCalls_cons, hcalls]
      exact List.append_nil _
    · rw [groupResults_cons, hresults]
      simp [SequentialEvent.ended?]
  | fail hpc hf => exact rfl
  | clear hpc =>
    rw [Progress, hpc] at h
    exact Or.inl h
  | leave hpc hf =>
    rw [Progress, hpc] at h
    exact Or.inr ⟨h.1.cons rfl rfl rfl rfl, h.2⟩
  | @validate next later after hpc hv | @append next later after hpc =>
    rw [Progress, hpc] at h
    cases after with
    | claim | call | loop => exact ⟨h.1.cons rfl rfl rfl rfl, h.2⟩
    | clear => exact h
    | finish => exact h.elim
  | invalid hpc hv => exact trivial
  | @assign next later after hpc =>
    rw [Progress, hpc] at h
    cases after with
    | claim | call | loop => cases later <;> exact ⟨h.1.cons rfl rfl rfl rfl, h.2⟩
    | clear => cases later <;> exact h
    | finish => exact h.elim

/-- Without a step of a `stop` call the flag stays unset. -/
theorem SequentialStep.stopRequested {s s' : SequentialState ι} {e : SequentialEvent ι}
    (hs : SequentialStep groups s e s') (he : e.isStop = false) :
    s'.stopRequested = s.stopRequested := by
  cases hs with
  | setFlag => exact absurd he nofun
  | _ => rfl

theorem run_progress {plan : WorkerPlan} {evs : List (SequentialEvent ι)} {s : SequentialState ι}
    (hrun : Run (sequentialSystem ι plan) evs s) (hevs : ∀ e ∈ evs, e.isStop = false) :
    s.stopRequested = false ∧ Progress plan.groups evs s := by
  induction hrun with
  | init h =>
    obtain rfl := h
    exact ⟨rfl, ⟨rfl, rfl, rfl⟩, rfl⟩
  | step hrun hs ih =>
    obtain ⟨he, hevs⟩ := List.forall_mem_cons.mp hevs
    obtain ⟨hflag, hprogress⟩ := ih hevs
    exact ⟨(hs.stopRequested he).trans hflag, hprogress.step hflag hs he⟩

/-- **An unstopped plan that returns without a failed group has run every group once**, in order,
and each successfully. -/
theorem groupCalls_of_returned {plan : WorkerPlan} {evs : List (SequentialEvent ι)}
    {s : SequentialState ι} (hrun : Run (sequentialSystem ι plan) evs s)
    (hevs : ∀ e ∈ evs, e.isStop = false) (hpc : s.startPc = .returned)
    (hfailed : s.failedGroup = none) :
    groupCalls evs = plan.groups ∧ groupResults evs = plan.groups.map (·, true) := by
  obtain ⟨-, hprogress⟩ := run_progress hrun hevs
  rw [Progress, hpc, hfailed] at hprogress
  obtain ⟨⟨hcalls, hresults, -⟩, hdone⟩ := hprogress.resolve_left nofun
  rw [hcalls, hresults, hdone]
  exact ⟨rfl, rfl⟩

end Sequential

/-! ## All workers together -/

/-- The threads of a `ConcurrentSupervisor`, with the inside of each worker's
`SequentialSupervisor`. -/
structure StationState (n : ℕ) where
  supervisor : SupervisorState n
  sequential : Fin n → SequentialState Unit

/-- A step between the threads, or one inside a worker's `SequentialSupervisor`. -/
inductive StationEvent (n : ℕ) where
  | thread (e : SupervisorEvent n)
  | worker (i : Fin n) (e : SequentialEvent Unit)

/-- `self._supervisor.start()` has ended in this way. -/
def Ended (s : SequentialState Unit) : SuperviseOutcome → Prop
  | .returned failedGroup => s.startPc = .returned ∧ failedGroup = s.failedGroup
  | .raised _ => s.startPc = .raised

/-- The steps of all threads. A worker's `start` runs while its thread is supervising and ends
with the outcome its thread sees; its `stop` is called once its token is set. -/
inductive StationStep {n : ℕ} (plan : Fin n → WorkerPlan) :
    StationState n → StationEvent n → StationState n → Prop
  | thread {s e t} (hs : SupervisorStep (fun i ↦ (plan i).smuName) s.supervisor e t)
      (hend : ∀ i o, e = .supervise i o → Ended (s.sequential i) o) :
      StationStep plan s (.thread e) { s with supervisor := t }
  | worker {s e t} (i : Fin n) (hs : SequentialStep (plan i).groups (s.sequential i) e t)
      (hstart : e.isStop = false → (s.supervisor.workers i).pc = .supervising)
      (hstop : e.isStop = true → (s.supervisor.workers i).cancellation.isSome = true) :
      StationStep plan s (.worker i e)
        { s with sequential := Function.update s.sequential i t }

/-- `ConcurrentSupervisor` with the given workers, as constructed. -/
def stationSystem {n : ℕ} (plan : Fin n → WorkerPlan) :
    System (StationState n) (StationEvent n) :=
  ⟨fun s ↦ s = ⟨.initial n, fun _ ↦ .initial⟩, StationStep plan⟩

section Station

variable {n : ℕ} {plan : Fin n → WorkerPlan}

/-- A step between the threads. -/
def StationEvent.thread? : StationEvent n → Option (SupervisorEvent n)
  | .thread e => some e
  | .worker _ _ => none

/-- A step inside the supervisor of worker `i`. -/
def StationEvent.worker? (i : Fin n) : StationEvent n → Option (SequentialEvent Unit)
  | .thread _ => none
  | .worker j e => if j = i then some e else none

/-- The steps inside the supervisor of worker `i`. -/
def workerEvents (i : Fin n) (evs : List (StationEvent n)) : List (SequentialEvent Unit) :=
  evs.filterMap (StationEvent.worker? i)

theorem Run.threads {evs : List (StationEvent n)} {s : StationState n}
    (hrun : Run (stationSystem plan) evs s) :
    Run (supervisorSystem fun i ↦ (plan i).smuName) (evs.filterMap StationEvent.thread?)
      s.supervisor := by
  induction hrun with
  | init h =>
    obtain rfl := h
    exact .init rfl
  | step hrun hs ih =>
    cases hs with
    | thread hs hend => exact ih.step hs
    | worker i hs hstart hstop => exact ih

theorem Run.worker {evs : List (StationEvent n)} {s : StationState n}
    (hrun : Run (stationSystem plan) evs s) (i : Fin n) :
    Run (sequentialSystem Unit (plan i)) (workerEvents i evs) (s.sequential i) := by
  induction hrun with
  | init h =>
    obtain rfl := h
    exact .init rfl
  | @step evs s s' e hrun hs ih =>
    cases hs with
    | thread hs hend => exact ih
    | @worker e t j hs hstart hstop =>
      by_cases hji : j = i
      · subst hji
        have hevs : workerEvents j (.worker j e :: evs) = e :: workerEvents j evs :=
          List.filterMap_cons_some (by simp [StationEvent.worker?])
        rw [hevs]
        change Run _ _ (Function.update s.sequential j t j)
        rw [Function.update_self]
        exact ih.step hs
      · have hevs : workerEvents i (.worker j e :: evs) = workerEvents i evs :=
          List.filterMap_cons_none (by simp [StationEvent.worker?, hji])
        rw [hevs]
        change Run _ _ (Function.update s.sequential j t i)
        rw [Function.update_of_ne (Ne.symm hji)]
        exact ih

/-- Nobody was asked to stop. -/
def NotStopped (evs : List (StationEvent n)) : Prop := ∀ i, .thread (.requestStop i) ∉ evs

/-- Without a request no token is set, and no `stop` takes a step. -/
theorem NotStopped.quiet {evs : List (StationEvent n)} {s : StationState n}
    (hrun : Run (stationSystem plan) evs s) (h : NotStopped evs) :
    (∀ i, (s.supervisor.workers i).cancellation = none) ∧
      ∀ i e, .worker i e ∈ evs → e.isStop = false := by
  induction hrun with
  | init hinit =>
    obtain rfl := hinit
    exact ⟨fun _ ↦ rfl, fun _ _ hmem ↦ absurd hmem List.not_mem_nil⟩
  | @step evs s s' e hrun hs ih =>
    obtain ⟨hnone, hquiet⟩ := ih fun i hi ↦ h i (List.mem_cons_of_mem _ hi)
    cases hs with
    | thread hs hend =>
      refine ⟨fun i ↦ ?_, fun i e hmem ↦ ?_⟩
      swap
      · rcases List.mem_cons.mp hmem with heq | hmem
        · cases heq
        · exact hquiet i e hmem
      cases hs with
      | start j | connect j | supervise j | disconnect j | record j | signal j =>
        by_cases hij : i = j
        · subst hij
          simpa [SupervisorState.moveWorker] using hnone i
        · simpa [SupervisorState.moveWorker, hij] using hnone i
      | requestStop j => exact absurd List.mem_cons_self (h j)
      | _ => exact hnone i
    | worker j hs hstart hstop =>
      refine ⟨hnone, fun i e' hmem ↦ ?_⟩
      rcases List.mem_cons.mp hmem with heq | hmem
      · obtain ⟨rfl, rfl⟩ := StationEvent.worker.inj heq
        by_contra he
        have htoken := hstop (Bool.eq_true_of_not_eq_false he)
        rw [hnone i] at htoken
        cases htoken
      · exact hquiet i e' hmem

/-- A worker that is past supervising without a report has a plan that returned without a failed
group. -/
def CleanOrReported (s : StationState n) (i : Fin n) : Prop :=
  match (s.supervisor.workers i).pc with
  | .disconnecting | .finished =>
    ((s.sequential i).startPc = .returned ∧ (s.sequential i).failedGroup = none) ∨
      s.supervisor.bus.allReports ≠ []
  | .signalling _ => s.supervisor.bus.allReports ≠ []
  | _ => True

theorem CleanOrReported.of_reported {s : StationState n} {i : Fin n}
    (h : s.supervisor.bus.allReports ≠ []) : CleanOrReported s i := by
  unfold CleanOrReported
  split <;> first | exact Or.inr h | exact h | trivial

/-- A thread step that leaves worker `i` where it was and keeps the reports. -/
theorem CleanOrReported.frame {s : StationState n} {t : SupervisorState n} {i : Fin n}
    (h : CleanOrReported s i) (hpc : (t.workers i).pc = (s.supervisor.workers i).pc)
    (hbus : s.supervisor.bus.allReports ≠ [] → t.bus.allReports ≠ []) :
    CleanOrReported { s with supervisor := t } i := by
  unfold CleanOrReported at *
  dsimp only
  rw [hpc]
  split at h
  · exact h.imp_right hbus
  · exact h.imp_right hbus
  · exact hbus h
  · trivial

/-- A thread step that asks nobody to stop keeps a worker clean or reported. -/
theorem CleanOrReported.thread {s : StationState n} {e : SupervisorEvent n} {t : SupervisorState n}
    {i : Fin n} (h : CleanOrReported s i)
    (hs : SupervisorStep (fun i ↦ (plan i).smuName) s.supervisor e t)
    (hend : ∀ i o, e = .supervise i o → Ended (s.sequential i) o)
    (hnone : (s.supervisor.workers i).cancellation = none) (hstop : ∀ j, e ≠ .requestStop j) :
    CleanOrReported { s with supervisor := t } i := by
  have hother : ∀ {j pc} {u : SupervisorState n}, i ≠ j →
      (u.workers i).pc = ((s.supervisor.moveWorker j pc).workers i).pc →
      (s.supervisor.bus.allReports ≠ [] → u.bus.allReports ≠ []) →
      CleanOrReported { s with supervisor := u } i := by
    intro j pc u hij hpc hbus
    refine h.frame ?_ hbus
    rw [hpc, pc_moveWorker, if_neg hij]
  cases hs with
  | start j hpc hj hw =>
    by_cases hij : i = j
    · subst hij
      unfold CleanOrReported
      simp
    · exact hother hij rfl id
  | connect j o hw =>
    by_cases hij : i = j
    · subst hij
      unfold CleanOrReported
      cases o <;> simp [afterConnect]
    · exact hother hij rfl id
  | supervise j o hw =>
    by_cases hij : i = j
    · subst hij
      have hended := hend i o rfl
      unfold CleanOrReported
      cases o with
      | returned failedGroup =>
        obtain ⟨hpc, rfl⟩ := hended
        cases hfailed : (s.sequential i).failedGroup with
        | none => simp [afterSupervise, hpc]
        | some group => simp [afterSupervise, hnone]
      | raised text => simp [afterSupervise]
    · exact hother hij rfl id
  | disconnect j o hw =>
    by_cases hij : i = j
    · subst hij
      unfold CleanOrReported at *
      rw [hw] at h
      cases o with
      | disconnected => simpa [afterDisconnect] using h
      | raised text => simp [afterDisconnect]
    · exact hother hij rfl id
  | record j time hw =>
    by_cases hij : i = j
    · subst hij
      exact .of_reported (by simp)
    · exact hother hij rfl (by simp)
  | signal j hw =>
    by_cases hij : i = j
    · subst hij
      unfold CleanOrReported at h
      rw [hw] at h
      exact .of_reported h
    · exact hother hij rfl id
  | requestStop j => exact absurd rfl (hstop j)
  | _ => exact h.frame rfl id

/-- **A worker is past supervising only with a clean plan or a report**, as long as nobody is
asked to stop. -/
theorem CleanOrReported.of_run {evs : List (StationEvent n)} {s : StationState n}
    (hrun : Run (stationSystem plan) evs s) (hstop : NotStopped evs) (i : Fin n) :
    CleanOrReported s i := by
  induction hrun with
  | init h =>
    obtain rfl := h
    trivial
  | @step evs s s' e hrun hs ih =>
    have hold := fun j hj ↦ hstop j (List.mem_cons_of_mem _ hj)
    have hih := ih hold
    have hnone := (NotStopped.quiet hrun hold).1 i
    cases hs with
    | @worker e t j hs hstart hstop' =>
      have he : e.isStop = false :=
        (NotStopped.quiet (hrun.step (.worker j hs hstart hstop')) hstop).2 j e
          List.mem_cons_self
      have hpc := hstart he
      unfold CleanOrReported at *
      by_cases hij : i = j
      · subst hij
        dsimp only
        rw [hpc]
        trivial
      · dsimp only
        rw [Function.update_of_ne hij]
        exact hih
    | thread hs hend =>
      refine hih.thread hs hend hnone fun j hj ↦ hstop j ?_
      rw [hj]
      exact List.mem_cons_self

/-- **The dynamic coverage.** Where nothing is reported and nobody is asked to stop, every
worker that is finished has called `run_group` once for each of its groups, in order, and each
call succeeded. -/
theorem groupCalls_of_finished {evs : List (StationEvent n)} {s : StationState n}
    (hrun : Run (stationSystem plan) evs s) (hstop : NotStopped evs)
    (hbus : s.supervisor.bus.allReports = []) {i : Fin n}
    (hpc : (s.supervisor.workers i).pc = .finished) :
    groupCalls (workerEvents i evs) = (plan i).groups ∧
      groupResults (workerEvents i evs) = (plan i).groups.map (·, true) := by
  have hclean := CleanOrReported.of_run hrun hstop i
  unfold CleanOrReported at hclean
  rw [hpc] at hclean
  obtain ⟨hreturned, hfailed⟩ := hclean.resolve_right fun h ↦ h hbus
  refine groupCalls_of_returned (Run.worker hrun i) (fun e he ↦ ?_) hreturned hfailed
  obtain ⟨e', he', hwe⟩ := List.mem_filterMap.mp he
  cases e' with
  | thread => exact absurd hwe nofun
  | worker j e' =>
    obtain ⟨-, rfl⟩ : j = i ∧ e' = e := by simpa [StationEvent.worker?] using hwe
    exact (NotStopped.quiet hrun hstop).2 j e' he'

theorem finished_of_returned {evs : List (StationEvent n)} {s : StationState n}
    (hrun : Run (stationSystem plan) evs s) (hbus : s.supervisor.bus.allReports = [])
    {result : ConcurrentRunResult} (hpc : s.supervisor.supervisor = .returned result) (i : Fin n) :
    (s.supervisor.workers i).pc = .finished := by
  obtain ⟨hb, hc, -⟩ := run_invariants (Run.threads hrun)
  rw [Coherent, hpc] at hc
  dsimp only at hc
  split at hc
  · obtain ⟨-, first, horigin, -⟩ := hc
    have hfirst : s.supervisor.bus.origin = s.supervisor.bus.allReports.head? := hb.originFirst
    rw [hbus, horigin] at hfirst
    cases hfirst
  · exact hc i

end Station

/-- **Which requested groups are run.** Of the groups requested, those that are enabled and have
an SMU are each in exactly one constructed worker, once, and the others in none; and when a run in
which nothing was reported and nobody was asked to stop has returned, every worker has called
`run_group` once for each of its groups, in order, and each call succeeded. -/
theorem constructWorkers_coverage {routing : SenseRouting} {groupNames : List String}
    {groups : Dict String BatteryGroup} {plans : List WorkerPlan}
    (h : constructWorkers routing groupNames groups = .ok plans) :
    (∀ name ∈ groupNames, ∀ grp, groups.get? name = some grp →
      if grp.isCandidate then
        ∃ i : Fin plans.length, (plans.get i).groups.count name = 1 ∧
          ∀ j : Fin plans.length, name ∈ (plans.get j).groups → j = i
      else ∀ i : Fin plans.length, name ∉ (plans.get i).groups) ∧
    ∀ evs s, Run (stationSystem plans.get) evs s → NotStopped evs →
      s.supervisor.bus.allReports = [] →
        ∀ result, s.supervisor.supervisor = .returned result →
          ∀ i, groupCalls (workerEvents i evs) = (plans.get i).groups ∧
            groupResults (workerEvents i evs) = (plans.get i).groups.map (·, true) := by
  refine ⟨fun name hname grp hgrp ↦ constructWorkers_partition h hname hgrp, ?_⟩
  intro evs s hrun hstop hbus result hpc i
  exact groupCalls_of_finished hrun hstop hbus (finished_of_returned hrun hbus hpc i)

/-- Two requested groups, the second of them disabled. -/
def halfEnabledGroups : Dict String BatteryGroup :=
  ⟨[("AUX_1", ⟨some "MATRIX_A", some "AUX_SMU_1", none, none, none, true, none⟩),
    ("AUX_2", ⟨some "MATRIX_B", some "AUX_SMU_2", none, none, none, false, none⟩)], by decide⟩

theorem constructWorkers_halfEnabledGroups :
    constructWorkers SENSE_ROUTING ["AUX_1", "AUX_2"] halfEnabledGroups
      = .ok [⟨"AUX_SMU_1", ["AUX_1"], ∅⟩] := by
  rfl

/-- The two groups are requested: the one worker runs the first, and nobody runs the second. -/
theorem constructWorkers_coverage_halfEnabled :
    ∃ evs s, Run (stationSystem [oneGroupPlan].get) evs s ∧
      groupCalls (workerEvents 0 evs) = ["AUX_1"] ∧
      groupResults (workerEvents 0 evs) = [("AUX_1", true)] ∧
      ∀ i : Fin 1, "AUX_2" ∉ ([oneGroupPlan].get i).groups := by
  have hrun := Run.init (S := stationSystem [oneGroupPlan].get) rfl
    |>.step (.thread (.start 0 rfl rfl rfl) nofun)
    |>.step (.thread (.allStarted rfl) nofun)
    |>.step (.thread (.connect 0 .connected rfl) nofun)
    |>.step (.worker 0 (.begin rfl) (fun _ ↦ rfl) nofun)
    |>.step (.worker 0 (.enter rfl rfl) (fun _ ↦ rfl) nofun)
    |>.step (.worker 0 (.takeGroup rfl rfl) (fun _ ↦ rfl) nofun)
    |>.step (.worker 0 (.validate rfl rfl) (fun _ ↦ rfl) nofun)
    |>.step (.worker 0 (.append rfl) (fun _ ↦ rfl) nofun)
    |>.step (.worker 0 (.assign rfl) (fun _ ↦ rfl) nofun)
    |>.step (.worker 0 (.validate rfl rfl) (fun _ ↦ rfl) nofun)
    |>.step (.worker 0 (.append rfl) (fun _ ↦ rfl) nofun)
    |>.step (.worker 0 (.assign rfl) (fun _ ↦ rfl) nofun)
    |>.step (.worker 0 (.claim rfl) (fun _ ↦ rfl) nofun)
    |>.step (.worker 0 (.validate rfl rfl) (fun _ ↦ rfl) nofun)
    |>.step (.worker 0 (.append rfl) (fun _ ↦ rfl) nofun)
    |>.step (.worker 0 (.assign rfl) (fun _ ↦ rfl) nofun)
    |>.step (.worker 0 (.validate rfl rfl) (fun _ ↦ rfl) nofun)
    |>.step (.worker 0 (.append rfl) (fun _ ↦ rfl) nofun)
    |>.step (.worker 0 (.assign rfl) (fun _ ↦ rfl) nofun)
    |>.step (.worker 0 (.callGroup rfl) (fun _ ↦ rfl) nofun)
    |>.step (.worker 0 (.groupEnded true rfl) (fun _ ↦ rfl) nofun)
    |>.step (.worker 0 (.succeed rfl rfl) (fun _ ↦ rfl) nofun)
    |>.step (.worker 0 (.validate rfl rfl) (fun _ ↦ rfl) nofun)
    |>.step (.worker 0 (.append rfl) (fun _ ↦ rfl) nofun)
    |>.step (.worker 0 (.assign rfl) (fun _ ↦ rfl) nofun)
    |>.step (.worker 0 (.validate rfl rfl) (fun _ ↦ rfl) nofun)
    |>.step (.worker 0 (.append rfl) (fun _ ↦ rfl) nofun)
    |>.step (.worker 0 (.assign rfl) (fun _ ↦ rfl) nofun)
    |>.step (.worker 0 (.exhausted rfl) (fun _ ↦ rfl) nofun)
    |>.step (.worker 0 (.leave rfl rfl) (fun _ ↦ rfl) nofun)
    |>.step (.thread (.supervise 0 (.returned none) rfl) (by rintro i o ⟨⟩; exact ⟨rfl, rfl⟩))
    |>.step (.thread (.disconnect 0 .disconnected rfl) nofun)
    |>.step (.thread (.timedOut rfl rfl) nofun)
    |>.step (.thread (.foundDead 0 rfl rfl rfl) nofun)
    |>.step (.thread (.returnFinished rfl) nofun)
  have hcovers := constructWorkers_coverage constructWorkers_halfEnabledGroups
  have hdone := hcovers.2 _ _ hrun (by simp [NotStopped]) rfl _ rfl 0
  exact ⟨_, _, hrun, hdone.1, hdone.2, hcovers.1 "AUX_2" (by simp) _ rfl⟩

/-- The constructor returns although the second requested group has no worker. -/
theorem not_everyRequestedGroup_hasWorker :
    ¬∀ (routing : SenseRouting) (groupNames : List String) (groups : Dict String BatteryGroup)
      (plans : List WorkerPlan), constructWorkers routing groupNames groups = .ok plans →
        ∀ name ∈ groupNames, ∃ w ∈ plans, name ∈ w.groups := by
  intro h
  obtain ⟨w, hw, hmem⟩ := h SENSE_ROUTING ["AUX_1", "AUX_2"] halfEnabledGroups _
    constructWorkers_halfEnabledGroups "AUX_2" (by simp)
  obtain rfl := List.mem_singleton.mp hw
  exact absurd (List.mem_singleton.mp hmem) (by decide)

end Nipxi
