import Mathlib.Data.List.Infix
import Nipxi.Hardware.Relay.Driver

/-!
# Which marker the login goes by

`_read_until_any` looks for its candidates after each chunk, in the order of its tuple. The
candidate it returns is the one completed earliest in the stream, whatever the chunks, exactly if
no candidate is empty and one of those completed earliest comes first in the tuple among all that
its chunk completes (`readsEarliest_iff`). In one chunk, a prompt that a failure marker follows
counts as a rejection; with the chunk cut after the prompt it counts as a login.
-/

open Effect

namespace Nipxi

variable {W : Type}

/-! ## Where a candidate is completed -/

/-- `candidate.lower() in text.lower()`. -/
def Occurs (candidate text : Bytes) : Prop := contains (lower candidate) (lower text) = true

instance (candidate text : Bytes) : Decidable (Occurs candidate text) :=
  inferInstanceAs (Decidable (_ = _))

/-- Where the first occurrence of a candidate ends. -/
def firstEnd (candidate text : Bytes) : Option ℕ :=
  (List.range (text.length + 1)).find? fun n ↦ decide (Occurs candidate (text.take n))

/-- `c` is completed at `n`, and no candidate is completed before. -/
def CompletedFirst (candidates : List Bytes) (text c : Bytes) (n : ℕ) : Prop :=
  firstEnd c text = some n ∧ ∀ d ∈ candidates, ∀ m, firstEnd d text = some m → n ≤ m

theorem Occurs.mono {candidate text text' : Bytes} (h : Occurs candidate text)
    (hpre : text <+: text') : Occurs candidate text' := by
  rw [Occurs, contains, decide_eq_true_iff] at h ⊢
  exact h.trans (hpre.map _).isInfix

theorem occurs_nil (text : Bytes) : Occurs [] text :=
  decide_eq_true (List.nil_infix)

theorem eq_nil_of_occurs_nil {candidate : Bytes} (h : Occurs candidate []) : candidate = [] := by
  rw [Occurs, contains, decide_eq_true_iff] at h
  exact List.map_eq_nil_iff.mp (List.infix_nil.mp h)

theorem firstEnd_eq_some_iff {candidate text : Bytes} {n : ℕ} :
    firstEnd candidate text = some n ↔ n ≤ text.length ∧ Occurs candidate (text.take n) ∧
      ∀ m < n, ¬Occurs candidate (text.take m) := by
  rw [firstEnd, List.find?_range_eq_some]
  simp only [decide_eq_true_iff, List.mem_range, Bool.not_eq_true', decide_eq_false_iff_not,
    Nat.lt_succ_iff]
  tauto

theorem exists_firstEnd {candidate text : Bytes} (h : Occurs candidate text) :
    ∃ n, firstEnd candidate text = some n := by
  rw [← Option.isSome_iff_exists, firstEnd, List.find?_isSome]
  exact ⟨text.length, List.mem_range.mpr (Nat.lt_succ_self _), by simpa using h⟩

/-- What occurs in a prefix is completed in it. -/
theorem firstEnd_le_of_occurs {candidate text pre : Bytes} {n : ℕ} (hpre : pre <+: text)
    (hn : firstEnd candidate text = some n) (h : Occurs candidate pre) : n ≤ pre.length := by
  by_contra hlt
  refine (firstEnd_eq_some_iff.mp hn).2.2 pre.length (by omega) ?_
  rwa [← List.prefix_iff_eq_take.mp hpre]

/-- What is completed within a prefix occurs in it. -/
theorem occurs_of_firstEnd_le {candidate text pre : Bytes} {n : ℕ} (hpre : pre <+: text)
    (hn : firstEnd candidate text = some n) (h : n ≤ pre.length) : Occurs candidate pre := by
  refine (firstEnd_eq_some_iff.mp hn).2.1.mono ?_
  rw [List.prefix_iff_eq_take.mp hpre]
  exact List.take_prefix_take_left h

/-! ## The text by the end of a chunk -/

/-- What has been received when the chunk with the `n`-th byte is in. -/
def receivedBy : ℕ → List Bytes → Bytes
  | _, [] => []
  | n, chunk :: chunks =>
    if n ≤ chunk.length then chunk else chunk ++ receivedBy (n - chunk.length) chunks

theorem receivedBy_append {n : ℕ} {seen : List Bytes} {chunk : Bytes} (later : List Bytes)
    (hlow : seen.flatten.length < n) (hhigh : n ≤ (seen.flatten ++ chunk).length) :
    receivedBy n (seen ++ chunk :: later) = seen.flatten ++ chunk := by
  induction seen generalizing n with
  | nil => exact if_pos hhigh
  | cons first seen ih =>
    simp only [List.flatten_cons, List.length_append] at hlow hhigh
    rw [List.cons_append, receivedBy, if_neg (by omega), ih (by omega)
      (by rw [List.length_append]; omega), List.flatten_cons, List.append_assoc]

/-- The call goes by a candidate that is completed first: none is empty, and among those the
chunk completes one of these comes first in the tuple. -/
def Decisive (candidates : List Bytes) (chunks : List Bytes) : Prop :=
  [] ∉ candidates ∧ ∃ before c after n, candidates = before ++ c :: after ∧
    CompletedFirst candidates chunks.flatten c n ∧
      ∀ d ∈ before, ¬Occurs d (receivedBy n chunks)

/-! ## The receive loop -/

/-- In so many calls from `w` on, `recv` brings the chunks, with timeouts in between. -/
inductive Feeds (net : Net W) : ℕ → W → List Bytes → Prop
  | done (rounds : ℕ) (w : W) : Feeds net rounds w []
  | timeout {rounds : ℕ} {w w' : W} {chunks : List Bytes} (brought : net.recv w = (.timeout, w'))
    (later : Feeds net rounds w' chunks) : Feeds net (rounds + 1) w chunks
  | chunk {rounds : ℕ} {w w' : W} {b : UInt8} {data : Bytes} {chunks : List Bytes}
    (brought : net.recv w = (.chunk (b :: data), w')) (later : Feeds net rounds w' chunks) :
    Feeds net (rounds + 1) w ((b :: data) :: chunks)

section

variable {cfg : RelayConfig} {net : Net W} {matchFn : Bytes → Option Bytes} {rounds : ℕ}
  {buf : Bytes} {s : Matrix W} {w : W}

theorem recvLoop_timeout (h : net.recv s.world = (.timeout, w)) :
    recvLoop cfg net matchFn (rounds + 1) buf s
      = recvLoop cfg net matchFn rounds buf { s with world := w } := by
  rw [recvLoop]
  change Prog.bind _ _ _ = _
  simp only [Prog.bind, netCall, Prog.query, h]

theorem recvLoop_found {b c : UInt8} {data found : Bytes}
    (h : net.recv s.world = (.chunk (b :: data), w)) (hplain : 255 ∉ b :: data)
    (hmatch : matchFn (buf ++ b :: data) = some (c :: found)) :
    recvLoop cfg net matchFn (rounds + 1) buf s
      = .ok (c :: found, buf ++ b :: data) { s with world := w } := by
  have hiac : handleIac (b :: data) = (b :: data, []) := if_neg hplain
  rw [recvLoop]
  change Prog.bind _ _ _ = _
  simp only [Prog.bind, netCall, Prog.query, h]
  rw [hiac, sendReplies, if_pos rfl]
  change Prog.bind _ _ _ = _
  simp only [Prog.bind, pure, Prog.pure, hmatch]

theorem recvLoop_none {b : UInt8} {data : Bytes}
    (h : net.recv s.world = (.chunk (b :: data), w)) (hplain : 255 ∉ b :: data)
    (hmatch : matchFn (buf ++ b :: data) = none) :
    recvLoop cfg net matchFn (rounds + 1) buf s
      = recvLoop cfg net matchFn rounds (buf ++ b :: data) { s with world := w } := by
  have hiac : handleIac (b :: data) = (b :: data, []) := if_neg hplain
  rw [recvLoop]
  change Prog.bind _ _ _ = _
  simp only [Prog.bind, netCall, Prog.query, h]
  rw [hiac, sendReplies, if_pos rfl]
  change Prog.bind _ _ _ = _
  simp only [Prog.bind, pure, Prog.pure, hmatch]

theorem post_sendReplies {Q : PUnit → Matrix W → Prop} {E : Exc → Matrix W → Prop}
    (replies : Bytes) (h : ∀ t, Q ⟨⟩ t) : Post (sendReplies net replies) Q E s := by
  rw [sendReplies, post_ite]
  split
  · exact h s
  · exact h _

theorem post_recvLoop_match :
    Post (recvLoop cfg net matchFn rounds buf)
      (fun r _ ↦ r.1 ≠ [] ∧ matchFn r.2 = some r.1) (fun _ _ ↦ True) s := by
  induction rounds generalizing buf s with
  | zero => trivial
  | succ rounds ih =>
    refine (post_bind _).mpr ((post_query _).mpr ?_)
    dsimp only
    cases (net.recv s.world).1 with
    | timeout => exact ih
    | osError e => trivial
    | chunk data =>
      cases data with
      | nil => trivial
      | cons b data =>
        refine (post_bind _).mpr (post_sendReplies _ fun t ↦ ?_)
        split
        · rename_i hmatch
          exact ⟨List.cons_ne_nil _ _, hmatch⟩
        · exact ih

theorem matchAny_eq_some_iff {candidates : List Bytes} {text c : Bytes} :
    matchAny candidates text = some c ↔
      Occurs c text ∧ ∃ before after, candidates = before ++ c :: after ∧
        ∀ d ∈ before, ¬Occurs d text := by
  rw [matchAny, List.find?_eq_some_iff_append]
  simp only [Bool.not_eq_true', Bool.not_eq_true, Occurs]

theorem matchAny_eq_none_iff {candidates : List Bytes} {text : Bytes} :
    matchAny candidates text = none ↔ ∀ d ∈ candidates, ¬Occurs d text :=
  List.find?_eq_none

/-- **A run of the loop** ends with the first chunk that completes a candidate. By induction on
what `recv` brings. -/
theorem recvLoop_feeds (cfg : RelayConfig) {candidates chunks : List Bytes}
    (hfeeds : Feeds net rounds s.world chunks) (hplain : 255 ∉ chunks.flatten)
    (hempty : [] ∉ candidates) (hbuf : ∀ d ∈ candidates, ¬Occurs d buf)
    (hoccurs : ∃ d ∈ candidates, Occurs d (buf ++ chunks.flatten)) :
    ∃ seen chunk later c t, chunks = seen ++ chunk :: later ∧
      (∀ d ∈ candidates, ¬Occurs d (buf ++ seen.flatten)) ∧
      matchAny candidates (buf ++ (seen.flatten ++ chunk)) = some c ∧
      recvLoop cfg net (matchAny candidates) rounds buf s
        = .ok (c, buf ++ (seen.flatten ++ chunk)) t := by
  generalize hw : s.world = w at hfeeds
  induction hfeeds generalizing buf s with
  | done =>
    obtain ⟨d, hd, hocc⟩ := hoccurs
    rw [List.flatten_nil, List.append_nil] at hocc
    exact absurd hocc (hbuf d hd)
  | timeout brought _ ih =>
    subst hw
    rw [recvLoop_timeout brought]
    exact ih hplain hbuf hoccurs rfl
  | @chunk rounds w w' b data chunks brought _ ih =>
    subst hw
    rw [List.flatten_cons, List.mem_append, not_or] at hplain
    cases hmatch : matchAny candidates (buf ++ b :: data) with
    | some c =>
      obtain ⟨hocc, before, after, hsplit, -⟩ := matchAny_eq_some_iff.mp hmatch
      have hne : c ≠ [] := by
        rintro rfl
        exact hempty (by rw [hsplit]; simp)
      obtain ⟨a, found, rfl⟩ := List.exists_cons_of_ne_nil hne
      refine ⟨[], b :: data, chunks, a :: found, { s with world := w' }, rfl, ?_, hmatch, ?_⟩
      · rwa [List.flatten_nil, List.append_nil]
      · rw [recvLoop_found brought hplain.1 hmatch]
        rfl
    | none =>
      rw [recvLoop_none brought hplain.1 hmatch]
      rw [List.flatten_cons, ← List.append_assoc] at hoccurs
      obtain ⟨seen, chunk, later, c, t, rfl, hseen, hc, hrun⟩ :=
        ih (s := { s with world := w' }) hplain.2 (matchAny_eq_none_iff.mp hmatch) hoccurs rfl
      refine ⟨(b :: data) :: seen, chunk, later, c, t, rfl, ?_, ?_, ?_⟩
      · rwa [List.flatten_cons, ← List.append_assoc]
      · rwa [List.flatten_cons, List.append_assoc, ← List.append_assoc]
      · rw [hrun]
        simp

/-! ## The candidate that is returned -/

/-- The call returns the candidate that is completed earliest in the text. -/
def ReadsEarliest (cfg : RelayConfig) (net : Net W) (candidates : List Bytes) (label : String)
    (text : Bytes) (s : Matrix W) : Prop :=
  ∃ c buf t n, readUntilAny cfg net candidates label s = .ok (c, buf) t ∧ c ∈ candidates ∧
    CompletedFirst candidates text c n

theorem receivedBy_of_completedFirst {candidates seen : List Bytes} {chunk text c : Bytes}
    {later : List Bytes} {n : ℕ} (htext : text = (seen ++ chunk :: later).flatten)
    (hc : c ∈ candidates) (hfirst : CompletedFirst candidates text c n)
    (hseen : ∀ d ∈ candidates, ¬Occurs d seen.flatten)
    (hchunk : ∃ d ∈ candidates, Occurs d (seen.flatten ++ chunk)) :
    n ≤ (seen.flatten ++ chunk).length ∧
      receivedBy n (seen ++ chunk :: later) = seen.flatten ++ chunk := by
  have hpre : seen.flatten ++ chunk <+: text := ⟨later.flatten, by rw [htext]; simp⟩
  obtain ⟨d, hd, hocc⟩ := hchunk
  obtain ⟨m, hm⟩ := exists_firstEnd (hocc.mono hpre)
  have hhigh := (hfirst.2 d hd m hm).trans (firstEnd_le_of_occurs hpre hm hocc)
  have hlow : seen.flatten.length < n := by
    by_contra hle
    exact hseen c hc (occurs_of_firstEnd_le ((List.prefix_append _ _).trans hpre) hfirst.1
      (by omega))
  exact ⟨hhigh, receivedBy_append later hlow hhigh⟩

/-- The call is the loop, once the deadline is set. -/
theorem readUntilAny_of_ok {candidates : List Bytes} (label : String) {r : Bytes × Bytes}
    {t : Matrix W} (h : recvLoop cfg net (matchAny candidates) (net.polls s.world).1 []
      { s with world := (net.polls s.world).2 } = .ok r t) :
    readUntilAny cfg net candidates label s = .ok r t := by
  rw [readUntilAny, recvUntil]
  change Prog.handle (Prog.bind _ _) _ _ = _
  simp only [Prog.handle, Prog.bind, netCall, Prog.query, h]

theorem ne_nil_of_readUntilAny {candidates : List Bytes} {label : String} {r : Bytes × Bytes}
    {t : Matrix W} (h : readUntilAny cfg net candidates label s = .ok r t) : r.1 ≠ [] := by
  have hpost : Post (readUntilAny cfg net candidates label) (fun r _ ↦ r.1 ≠ [])
      (fun _ _ ↦ True) s := by
    refine (post_handle _).mpr ((post_bind _).mpr ((post_query _).mpr ?_))
    exact post_recvLoop_match.mono (fun _ _ hr ↦ hr.1) fun _ _ _ ↦ post_ite.mpr
      (by split <;> trivial)
  exact (post_of_ok h).mp hpost

/-- With an empty candidate in the tuple nothing is completed earlier, and it is not returned. -/
theorem not_readsEarliest_of_nil {candidates : List Bytes} {label : String} {text : Bytes}
    (h : [] ∈ candidates) : ¬ReadsEarliest cfg net candidates label text s := by
  rintro ⟨c, buf, t, n, hrun, -, hc, hfirst⟩
  have hzero : firstEnd [] text = some 0 :=
    firstEnd_eq_some_iff.mpr ⟨Nat.zero_le _, occurs_nil _, fun _ hm ↦ absurd hm (Nat.not_lt_zero _)⟩
  obtain rfl : n = 0 := Nat.le_zero.mp (hfirst [] h 0 hzero)
  exact ne_nil_of_readUntilAny hrun (eq_nil_of_occurs_nil (firstEnd_eq_some_iff.mp hc).2.1)

/-- **The marker the login goes by.** On received text without `IAC` that holds a candidate, the
call returns the one completed earliest exactly if the tuple is decisive about the chunks. -/
theorem readsEarliest_iff (cfg : RelayConfig) (net : Net W) (candidates : List Bytes)
    (label : String) (s : Matrix W) {chunks : List Bytes}
    (hfeeds : Feeds net (net.polls s.world).1 (net.polls s.world).2 chunks)
    (hplain : 255 ∉ chunks.flatten) (hoccurs : ∃ d ∈ candidates, Occurs d chunks.flatten) :
    ReadsEarliest cfg net candidates label chunks.flatten s ↔ Decisive candidates chunks := by
  by_cases hempty : [] ∈ candidates
  · exact iff_of_false (not_readsEarliest_of_nil hempty) fun h ↦ h.1 hempty
  have hbuf : ∀ d ∈ candidates, ¬Occurs d [] := by
    intro d hd hocc
    rw [eq_nil_of_occurs_nil hocc] at hd
    exact hempty hd
  obtain ⟨seen, chunk, later, c, t, hchunks, hseen, hc, hrun⟩ :=
    recvLoop_feeds cfg (s := { s with world := (net.polls s.world).2 })
      hfeeds hplain hempty hbuf hoccurs
  simp only [List.nil_append] at hseen hc hrun
  have hread := readUntilAny_of_ok label hrun
  obtain ⟨hocc, before, after, hsplit, hbefore⟩ := matchAny_eq_some_iff.mp hc
  have hmem : c ∈ candidates := by rw [hsplit]; simp
  have hend : ∀ {d n}, d ∈ candidates → CompletedFirst candidates chunks.flatten d n →
      n ≤ (seen.flatten ++ chunk).length ∧ receivedBy n chunks = seen.flatten ++ chunk := by
    intro d n hd hfirst
    rw [hchunks]
    exact receivedBy_of_completedFirst (by rw [hchunks]) hd hfirst hseen ⟨c, hmem, hocc⟩
  constructor
  · rintro ⟨c', buf, t', n, hrun', hmem', hfirst⟩
    rw [hread] at hrun'
    cases hrun'
    exact ⟨hempty, before, c, after, n, hsplit, hfirst, by rwa [(hend hmem hfirst).2]⟩
  · rintro ⟨-, before', c', after', n, hsplit', hfirst, hbefore'⟩
    have hmem' : c' ∈ candidates := by rw [hsplit']; simp
    obtain ⟨hle, hreceived⟩ := hend hmem' hfirst
    rw [hreceived] at hbefore'
    -- both are the first of the tuple to occur in what has been received
    have hocc' : Occurs c' (seen.flatten ++ chunk) :=
      occurs_of_firstEnd_le ⟨later.flatten, by rw [hchunks]; simp⟩ hfirst.1 hle
    have hc' := matchAny_eq_some_iff.mpr ⟨hocc', before', after', hsplit', hbefore'⟩
    obtain rfl : c = c' := Option.some.inj (hc.symm.trans hc')
    exact ⟨c, _, t, n, hread, hmem, hfirst⟩

end

/-- A network that plays back what each `recv` brings, all before the deadline. -/
def feedingNet : Net (List RecvResult) where
  connect w := (.connected, w)
  close w := w
  sendall _ w := (none, w)
  polls w := (w.length, w)
  recv w := match w with
    | [] => (.timeout, [])
    | r :: rest => (r, rest)

/-- A matrix that is past the password. -/
def awaitingPrompt (world : List RecvResult) : Matrix (List RecvResult) :=
  ⟨true, false, none, world, []⟩

/-- Cut after the prompt, the text is a login. -/
theorem readsEarliest_prompt_cut :
    ReadsEarliest numatoConfig feedingNet (FAILURE_MARKERS ++ [PROMPT])
      "command prompt or failure banner" (encode "> denied")
      (awaitingPrompt [.chunk (encode ">"), .chunk (encode " denied")]) := by
  have hfeeds : Feeds feedingNet 2 [.chunk (encode ">"), .chunk (encode " denied")]
      [encode ">", encode " denied"] := .chunk rfl (.chunk rfl (.done _ _))
  have hread := readsEarliest_iff numatoConfig feedingNet (FAILURE_MARKERS ++ [PROMPT])
    "command prompt or failure banner"
    (awaitingPrompt [.chunk (encode ">"), .chunk (encode " denied")]) hfeeds (by decide)
    ⟨PROMPT, by decide, by decide⟩
  refine hread.mpr ⟨by decide, FAILURE_MARKERS, PROMPT, [], 1, rfl, ⟨by decide, ?_⟩, by decide⟩
  intro d hd m hm
  rcases Nat.eq_zero_or_pos m with rfl | hpos
  · have hnil := eq_nil_of_occurs_nil (firstEnd_eq_some_iff.mp hm).2.1
    rw [hnil] at hd
    exact absurd hd (by decide)
  · exact hpos

/-- In one piece, the text is a rejection, though the prompt stands before the failure marker. -/
theorem not_readsEarliest_prompt_whole :
    ¬ReadsEarliest numatoConfig feedingNet (FAILURE_MARKERS ++ [PROMPT])
      "command prompt or failure banner" (encode "> denied")
      (awaitingPrompt [.chunk (encode "> denied")]) := by
  have hdenied : readUntilAny numatoConfig feedingNet (FAILURE_MARKERS ++ [PROMPT])
      "command prompt or failure banner" (awaitingPrompt [.chunk (encode "> denied")])
        = .ok (encode "denied", encode "> denied") (awaitingPrompt []) := rfl
  rintro ⟨c, buf, t, n, hrun, -, hfirst, hmin⟩
  rw [hdenied] at hrun
  cases hrun
  have hend : firstEnd (encode "denied") (encode "> denied") = some 8 := by decide
  have hprompt : firstEnd PROMPT (encode "> denied") = some 1 := by decide
  obtain rfl : 8 = n := Option.some.inj (hend.symm.trans hfirst)
  exact absurd (hmin PROMPT (by decide) 1 hprompt) (by decide)

end Nipxi
