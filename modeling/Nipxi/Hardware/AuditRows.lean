import Nipxi.Effect.Calls
import Nipxi.Hardware.AuditProxy

/-!
# The rows of one call

How many rows an external call of an instrumented object hands over: its own, and those of the calls
it makes on the way. For a driver that calls only wrapped methods of its own, none of them a
measurement, the own row is the only one exactly if the code makes no call at all
(`rows_invoke_iff`), and that depends on nothing but the world the call is made in.
-/

open Effect

namespace Nipxi.Audit

variable {W P V : Type} (a : Auditor P V) (d : Driver W V)

/-- How many rows were handed over. -/
def rowCount (s : Bench W P V) : ℕ := s.trail.handed.length

/-- A call that is handed over whenever it ends. -/
structure Counted (call : MethodCall V) : Prop where
  isWrapped : (audited a d call.name).isSome = true
  isCommand : call.name ∉ MEASUREMENT_METHOD_NAMES

/-- The code of a driver calls only such methods, and is not interrupted. -/
def Wired : Prop :=
  ∀ name m, d.methods name = some m → ∀ arguments,
    (m.code arguments).Obeys (Counted a d) IsException

section

variable {a d}

theorem Counted.exists_method {call : MethodCall V} (h : Counted a d call) :
    ∃ m sig, d.methods call.name = some m ∧
      (instrumentHardwareInstance a.settings d.plain).attributes call.name
        = some (.wrapper sig m) := by
  obtain ⟨sig, hsig⟩ := Option.isSome_iff_exists.mp h.isWrapped
  cases hm : d.methods call.name with
  | none =>
    rw [audited, hm, Option.bind_none, ite_self] at hsig
    cases hsig
  | some m =>
    refine ⟨m, sig, rfl, ?_⟩
    rw [attributes_instrumented, hm, hsig]
    rfl

/-- **The own row.** A wrapper adds one to what the call it wraps hands over. -/
theorem post_wrapped {call : MethodCall V} (hname : call.name ∉ MEASUREMENT_METHOD_NAMES)
    (sig : Signature) {x : Prog Raised (Bench W P V) V} {Q : ℕ → Prop} {s : Bench W P V}
    (h : Post x (fun _ t ↦ Q (rowCount t)) (fun e t ↦ IsException e ∧ Q (rowCount t)) s) :
    Post (wrapped a sig call (recorded call x)) (fun _ t ↦ ∃ n, Q n ∧ rowCount t = n + 1)
      (fun e t ↦ IsException e ∧ ∃ n, Q n ∧ rowCount t = n + 1) s := by
  cases hx : x s with
  | ok v t =>
    obtain ⟨trail, p, hrun, -, hhanded⟩ := wrapped_of_ok a sig (recorded_of_ok call hx) hname
    refine (post_of_ok hrun).mpr ⟨_, (post_of_ok hx).mp h, ?_⟩
    change trail.handed.length = _
    rw [hhanded]
    rfl
  | error e t =>
    obtain ⟨⟨e, rfl⟩, hQ⟩ := (post_of_error hx).mp h
    obtain ⟨trail, p, hrun, -, hhanded⟩ := wrapped_of_exception a sig (recorded_of_error call hx)
    refine (post_of_error hrun).mpr ⟨⟨e, rfl⟩, _, hQ, ?_⟩
    change trail.handed.length = _
    rw [hhanded]
    rfl
  | diverged =>
    rw [Post, wrapped_of_diverged a sig (recorded_of_diverged call hx)]
    trivial

theorem rowCount_set (w : W) (s : Bench W P V) : rowCount (worldLens.set w s) = rowCount s := rfl

theorem post_invoke (h : Wired a d) (depth : ℕ) (call : MethodCall V) (hcall : Counted a d call)
    (s : Bench W P V) :
    Post ((instrumentHardwareInstance a.settings d.plain).invoke a depth call)
      (fun _ t ↦ rowCount s < rowCount t)
      (fun e t ↦ IsException e ∧ rowCount s < rowCount t) s := by
  induction depth generalizing call s with
  | zero => exact trivial
  | succ depth ih =>
    obtain ⟨m, sig, hm, hattribute⟩ := hcall.exists_method
    rw [invoke_of_wrapper depth a hattribute]
    have hbody := post_run rowCount_set ih _ (h _ _ hm call.arguments) s
    refine (post_wrapped (Q := fun n ↦ rowCount s ≤ n) hcall.isCommand sig
      (hbody.mono (fun _ t ht ↦ ?_) fun e t ht ↦ ⟨ht.1, ?_⟩)).mono ?_ ?_
    · exact Nat.le_trans (Nat.le_add_right _ _) ht
    · exact Nat.le_trans (Nat.le_add_right _ _) ht.2
    · rintro _ t ⟨n, hn, ht⟩
      exact Nat.lt_of_lt_of_eq (Nat.lt_succ_of_le hn) ht.symm
    · rintro e t ⟨he, n, hn, ht⟩
      exact ⟨he, Nat.lt_of_lt_of_eq (Nat.lt_succ_of_le hn) ht.symm⟩

/-- **One row**, exactly if the code makes no call. -/
theorem rows_invoke_iff (h : Wired a d) {call : MethodCall V} (hcall : Counted a d call)
    {m : Method W V} (hm : d.methods call.name = some m) {depth : ℕ} {s t : Bench W P V}
    (hends : ((instrumentHardwareInstance a.settings d.plain).invoke a depth call s).last
      = some t) :
    rowCount t = rowCount s + 1 ↔ (m.code call.arguments).calls s.world = false := by
  cases depth with
  | zero => cases hends
  | succ depth =>
    obtain ⟨m', sig, hm', hattribute⟩ := hcall.exists_method
    obtain rfl := Option.some.inj (hm.symm.trans hm')
    rw [invoke_of_wrapper depth a hattribute] at hends
    have hbody := post_run rowCount_set (post_invoke h depth) _ (h _ _ hm call.arguments) s
    constructor
    · intro hone
      by_contra hcalls
      rw [Bool.not_eq_false] at hcalls
      have hget : (m.code call.arguments).calls (worldLens.get s) = true := hcalls
      rw [hget] at hbody
      have hmore := post_wrapped (a := a) (Q := fun n ↦ rowCount s + 1 ≤ n) hcall.isCommand sig
        hbody
      obtain ⟨n, hn, ht⟩ := of_post_of_last (hmore.mono (fun _ _ h ↦ h) fun _ _ h ↦ h.2) hends
      omega
    · intro hcalls
      have hsame := post_run_of_not_calls worldLens
        ((instrumentHardwareInstance a.settings d.plain).invoke a depth) _ s hcalls
      have hexact := post_wrapped (a := a) (Q := fun n ↦ n = rowCount s) hcall.isCommand sig
        ((hbody.and hsame).mono ?_ ?_)
      · obtain ⟨n, rfl, ht⟩ :=
          of_post_of_last (hexact.mono (fun _ _ h ↦ h) fun _ _ h ↦ h.2) hends
        exact ht
      · rintro _ _ ⟨-, w, rfl⟩
        rfl
      · rintro e _ ⟨he, w, rfl⟩
        exact ⟨he.1, rfl⟩

end

/-! ## The code of a method -/

section

variable {α β : Type}

/-- What a method does by itself. -/
def own (x : Prog Exc W α) : Code Raised W (MethodCall V) V α := .embed .exception x

/-- `raise`. -/
def fail (e : Exc) : Code Raised W (MethodCall V) V α := .raise (.exception e)

/-- `try`, with what `except Exception` does, and what follows the `try`. -/
def catching (x : Code Raised W (MethodCall V) V α) (h : Exc → Code Raised W (MethodCall V) V β)
    (k : α → Code Raised W (MethodCall V) V β) : Code Raised W (MethodCall V) V β := do
  match ← x.attempt with
  | .ok a => k a
  | .error (.exception e) => h e
  | .error (.interrupt name) => .raise (.interrupt name)

variable {M : MethodCall V → Prop}

theorem obeys_own (x : Prog Exc W α) :
    (own x : Code Raised W (MethodCall V) V α).Obeys M IsException := .embed (fun e ↦ ⟨e, rfl⟩) x

theorem obeys_fail (e : Exc) : (fail e : Code Raised W (MethodCall V) V α).Obeys M IsException :=
  .raise ⟨e, rfl⟩

theorem obeys_catching {x : Code Raised W (MethodCall V) V α}
    {h : Exc → Code Raised W (MethodCall V) V β} {k : α → Code Raised W (MethodCall V) V β}
    (hx : x.Obeys M IsException) (hh : ∀ e, (h e).Obeys M IsException)
    (hk : ∀ a, (k a).Obeys M IsException) : (catching x h k).Obeys M IsException := by
  refine .attempt_bind hx fun r hr ↦ ?_
  cases r with
  | ok a => exact hk a
  | error e =>
    obtain ⟨e, rfl⟩ := hr e rfl
    exact hh e

/-- Whether a call is made before or after a `try` around what the method does by itself ends. -/
theorem calls_catching_own {x : Prog Exc W α} {h : Exc → Code Raised W (MethodCall V) V β}
    {k : α → Code Raised W (MethodCall V) V β} {s : W} :
    (catching (own x) h k).calls s =
      match x s with
      | .ok a t => (k a).calls t
      | .error e t => (h e).calls t
      | .diverged => false := by
  change (Code.bind (Code.ofOutcome Raised.exception (x s)).attempt _).calls ((x s).stateOr s) = _
  cases x s <;> rfl

theorem runsAs_catching {σ : Type} {l : Lens σ W} {answer : MethodCall V → Prog Raised σ V}
    {x : Code Raised W (MethodCall V) V α} {h : Exc → Code Raised W (MethodCall V) V β}
    {k : α → Code Raised W (MethodCall V) V β} {y : Prog Exc W α} {h' : Exc → Prog Exc W β}
    {k' : α → Prog Exc W β} (hx : Code.RunsAs l answer .exception x y)
    (hh : ∀ e, Code.RunsAs l answer .exception (h e) (h' e))
    (hk : ∀ a, Code.RunsAs l answer .exception (k a) (k' a)) :
    Code.RunsAs l answer .exception (catching x h k) (y.catching h' k') := by
  refine .attempt_bind hx fun r ↦ ?_
  cases r with
  | ok a => exact hk a
  | error e => exact hh e

/-- A `try` around a call whose result is not looked at. -/
theorem runsAs_catching_discard {σ δ : Type} {l : Lens σ W}
    {answer : MethodCall V → Prog Raised σ V} {x : Code Raised W (MethodCall V) V α}
    {h : Exc → Code Raised W (MethodCall V) V β} {k : Code Raised W (MethodCall V) V β}
    {y : Prog Exc W δ} {a : α} {h' : Exc → Prog Exc W β} {k' : Prog Exc W β}
    (hx : Code.RunsAs l answer .exception x (y >>= fun _ ↦ pure a))
    (hh : ∀ e, Code.RunsAs l answer .exception (h e) (h' e))
    (hk : Code.RunsAs l answer .exception k k') :
    Code.RunsAs l answer .exception (catching x h fun _ ↦ k) (y.catching h' fun _ ↦ k') := by
  have hcatching := runsAs_catching hx hh fun _ ↦ hk
  rwa [Prog.catching_bind_pure] at hcatching

end

/-! ## Drivers by their requests -/

/-- The arguments in the order of the parameters, those that are left out by their defaults; nothing
if they do not fit. -/
def Arguments.byPosition {V : Type} (params : List (String × Option V)) (a : Arguments V) :
    Option (List V) :=
  let rest := params.drop a.args.length
  if a.args.length ≤ params.length ∧
      (a.kwargs.all fun (name, _) ↦ rest.any fun (param, _) ↦ param == name) = true then
    (rest.mapM fun (param, default) ↦ (a.kwargs.lookup param).or default).map (a.args ++ ·)
  else none

/-- A method that is declared: its parameters with their defaults, and what arguments in their order
ask for. -/
structure Declaration (R V : Type) where
  params : List (String × Option V)
  ask : List V → Option R

/-- A method without parameters. -/
def nullary {R V : Type} (r : R) : Declaration R V where
  params := []
  ask _ := some r

/-- The public methods of a driver, where `R` are the calls they are declared for. -/
structure Interface (R W V : Type) where
  className : String
  table : List (String × Declaration R V)
  name : R → String
  args : R → List V
  code : R → Code Raised W (MethodCall V) V V
  exists_declaration : ∀ r, ∃ d, table.lookup (name r) = some d ∧ d.ask (args r) = some r
  isPublic_name : ∀ r, isPublic (name r) = true
  name_notMem : ∀ r, name r ∉ MEASUREMENT_METHOD_NAMES
  /-- The code calls only methods of the interface. -/
  obeys_code : ∀ r, (code r).Obeys (fun c ↦ ∃ q, c.name = name q) IsException

namespace Interface

variable {R W V P : Type} (I : Interface R W V)

/-- A method of the table. Arguments it is not declared for are refused. -/
def method (name : String) (d : Declaration R V) : Method W V where
  signature := some ⟨d.params.map Prod.fst, [], false, false⟩
  code arguments :=
    match (arguments.byPosition d.params).bind d.ask with
    | some r => I.code r
    | none => .raise (.exception ⟨.other "TypeError",
        s!"{I.className}.{name}() got unexpected arguments"⟩)

/-- The class. -/
def driver : Driver W V where
  className := I.className
  methods name := (I.table.lookup name).map (I.method name)

/-- The call is one that is declared. -/
def Asks (c : MethodCall V) (r : R) : Prop :=
  c.name = I.name r ∧
    ∃ d, I.table.lookup c.name = some d ∧ c.arguments.byPosition d.params = some (I.args r)

variable {I} {a : Auditor P V}

theorem exists_method (r : R) :
    ∃ d, I.driver.methods (I.name r) = some (I.method (I.name r) d) ∧
      I.table.lookup (I.name r) = some d ∧ d.ask (I.args r) = some r := by
  obtain ⟨d, hd, hr⟩ := I.exists_declaration r
  refine ⟨d, ?_, hd, hr⟩
  change (I.table.lookup _).map _ = _
  rw [hd]
  rfl

theorem counted (henabled : a.settings.enableRawHardwareLogging = true) {c : MethodCall V}
    (h : ∃ q, c.name = I.name q) : Counted a I.driver c := by
  obtain ⟨q, hq⟩ := h
  obtain ⟨d, hd, -⟩ := exists_method (I := I) q
  refine ⟨?_, ?_⟩
  · rw [hq, audited, if_pos ⟨henabled, I.isPublic_name q⟩, hd]
    rfl
  · rw [hq]
    exact I.name_notMem q

theorem wired (henabled : a.settings.enableRawHardwareLogging = true) : Wired a I.driver := by
  intro name m hm arguments
  obtain ⟨d, -, rfl⟩ := Option.map_eq_some_iff.mp hm
  rw [method]
  dsimp only
  split
  · next r hr => exact (I.obeys_code r).mono fun _ ↦ counted henabled
  · exact ⟨_, rfl⟩

/-- **One row**, exactly if the code of the request makes no call. -/
theorem rows_iff (henabled : a.settings.enableRawHardwareLogging = true) {c : MethodCall V} {r : R}
    (hc : I.Asks c r) {depth : ℕ} {s t : Bench W P V}
    (hends : ((instrumentHardwareInstance a.settings I.driver.plain).invoke a depth c s).last
      = some t) :
    rowCount t = rowCount s + 1 ↔ (I.code r).calls s.world = false := by
  obtain ⟨hname, d, hd, hargs⟩ := hc
  obtain ⟨d', hm, hd', hask⟩ := exists_method (I := I) r
  rw [← hname] at hm hd'
  obtain rfl := Option.some.inj (hd.symm.trans hd')
  rw [rows_invoke_iff (wired henabled) (counted henabled ⟨r, hname⟩) hm hends, method]
  dsimp only
  rw [hargs, Option.bind_some, hask]

end Interface

end Nipxi.Audit
