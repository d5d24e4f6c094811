import Mathlib.Data.List.Induction
import Mathlib.Data.List.Nodup
import Mathlib.Data.List.Perm.Basic

/-!
# First-fit batches

Elements are placed one after the other, each in the earliest batch without an element it conflicts
with, or in a new batch. The number of its batch is a colour: the least one that no earlier
element it conflicts with has (`IsFirstFit`). No two conflicting elements share a colour, each
smaller colour is taken by an earlier conflict, and there is only one such colouring.
-/

namespace Collections

universe u

variable {α : Type u} (conflicts : α → α → Bool)

/-- Places an element in the earliest batch without a conflict. -/
def place (a : α) : List (List α) → List (List α)
  | [] => [[a]]
  | batch :: rest =>
    if batch.any (conflicts a) then batch :: place a rest else (batch ++ [a]) :: rest

/-- Places one element after the other. -/
def firstFit (l : List α) : List (List α) := l.foldl (fun batches a ↦ place conflicts a batches) []

/-- An element is in the batch of a number. -/
def InBatch (batches : List (List α)) (k : ℕ) (a : α) : Prop :=
  ∃ batch, batches[k]? = some batch ∧ a ∈ batch

/-- Each element of the list has the least colour that no earlier element has it conflicts with. -/
def IsFirstFit (colour : α → ℕ) (l : List α) : Prop :=
  ∀ earlier a later, l = earlier ++ a :: later →
    (∀ b ∈ earlier, colour b = colour a → conflicts a b = false) ∧
      ∀ k < colour a, ∃ b ∈ earlier, colour b = k ∧ conflicts a b = true

variable {conflicts} {a : α} {l : List α} {batches : List (List α)}

theorem firstFit_concat : firstFit conflicts (l ++ [a]) =
    place conflicts a (firstFit conflicts l) := by
  rw [firstFit, List.foldl_append, List.foldl_cons, List.foldl_nil, firstFit]

/-! ## One element -/

theorem flatten_place : (place conflicts a batches).flatten.Perm (a :: batches.flatten) := by
  induction batches with
  | nil => exact List.Perm.refl _
  | cons batch rest ih =>
    rw [place]
    split
    · rw [List.flatten_cons, List.flatten_cons]
      exact (ih.append_left batch).trans List.perm_middle
    · rw [List.flatten_cons, List.flatten_cons, List.append_assoc]
      exact List.perm_middle

theorem ne_nil_of_mem_place (h : ∀ batch ∈ batches, batch ≠ []) :
    ∀ batch ∈ place conflicts a batches, batch ≠ [] := by
  induction batches with
  | nil => simp [place]
  | cons batch rest ih =>
    obtain ⟨hbatch, hrest⟩ := List.forall_mem_cons.mp h
    rw [place]
    split
    · exact List.forall_mem_cons.mpr ⟨hbatch, ih hrest⟩
    · exact List.forall_mem_cons.mpr ⟨List.append_ne_nil_of_left_ne_nil hbatch _, hrest⟩

theorem inBatch_zero {batch : List α} {rest : List (List α)} {b : α} :
    InBatch (batch :: rest) 0 b ↔ b ∈ batch := by
  simp [InBatch]

theorem inBatch_succ {batch : List α} {rest : List (List α)} {k : ℕ} {b : α} :
    InBatch (batch :: rest) (k + 1) b ↔ InBatch rest k b := by
  simp [InBatch]

/-- **Where an element is placed.** Every earlier batch has a conflict with it, its own has none,
and nothing else moves. -/
theorem place_spec (conflicts : α → α → Bool) (a : α) (batches : List (List α)) :
    ∃ k, (∀ j < k, ∃ b, InBatch batches j b ∧ conflicts a b = true) ∧
      (∀ b, InBatch batches k b → conflicts a b = false) ∧
        ∀ j b, InBatch (place conflicts a batches) j b ↔ InBatch batches j b ∨ j = k ∧ b = a := by
  induction batches with
  | nil =>
    refine ⟨0, nofun, fun b hb ↦ ?_, fun j b ↦ ?_⟩
    · obtain ⟨batch, hbatch, -⟩ := hb
      simp at hbatch
    · cases j with
      | zero => simp [place, InBatch]
      | succ j => simp [place, InBatch]
  | cons batch rest ih =>
    rw [place]
    split
    · next hany =>
      obtain ⟨b, hb, hconflict⟩ := List.any_eq_true.mp hany
      obtain ⟨k, hbefore, hfree, hplaced⟩ := ih
      refine ⟨k + 1, fun j hj ↦ ?_, fun c hc ↦ hfree c (inBatch_succ.mp hc), fun j c ↦ ?_⟩
      · cases j with
        | zero => exact ⟨b, inBatch_zero.mpr hb, hconflict⟩
        | succ j =>
          obtain ⟨c, hc, hconflict'⟩ := hbefore j (Nat.lt_of_succ_lt_succ hj)
          exact ⟨c, inBatch_succ.mpr hc, hconflict'⟩
      · cases j with
        | zero => simp [inBatch_zero]
        | succ j => rw [inBatch_succ, inBatch_succ, hplaced, Nat.succ_inj]
    · next hnone =>
      refine ⟨0, nofun, fun b hb ↦ ?_, fun j c ↦ ?_⟩
      · rw [inBatch_zero] at hb
        have hall := List.any_eq_false.mp ((Bool.not_eq_true _).mp hnone)
        simpa using hall b hb
      · cases j with
        | zero => simp [inBatch_zero]
        | succ j => simp [inBatch_succ]

/-! ## All elements -/

/-- **A partition.** Every element is in one batch, as often as it is in the list. -/
theorem flatten_firstFit (conflicts : α → α → Bool) (l : List α) :
    (firstFit conflicts l).flatten.Perm l := by
  induction l using List.reverseRecOn with
  | nil => exact List.Perm.refl _
  | append_singleton l a ih =>
    rw [firstFit_concat]
    exact flatten_place.trans ((ih.cons a).trans (List.perm_append_singleton a l).symm)

theorem ne_nil_of_mem_firstFit {batch : List α} (h : batch ∈ firstFit conflicts l) :
    batch ≠ [] := by
  induction l using List.reverseRecOn generalizing batch with
  | nil => exact absurd h List.not_mem_nil
  | append_singleton l a ih =>
    rw [firstFit_concat] at h
    exact ne_nil_of_mem_place (fun _ hb ↦ ih hb) batch h

theorem exists_inBatch_iff : (∃ k, InBatch batches k a) ↔ a ∈ batches.flatten := by
  rw [List.mem_flatten]
  constructor
  · rintro ⟨k, batch, hbatch, ha⟩
    exact ⟨batch, List.mem_of_getElem? hbatch, ha⟩
  · rintro ⟨batch, hbatch, ha⟩
    obtain ⟨k, hk⟩ := List.mem_iff_getElem?.mp hbatch
    exact ⟨k, batch, hk, ha⟩

/-- The elements of the first batches. -/
theorem mem_flatten_take {k : ℕ} :
    a ∈ (batches.take k).flatten ↔ ∃ j < k, InBatch batches j a := by
  rw [← exists_inBatch_iff]
  constructor
  · rintro ⟨j, batch, hbatch, ha⟩
    rw [List.getElem?_take] at hbatch
    split at hbatch
    · next hj => exact ⟨j, hj, batch, hbatch, ha⟩
    · cases hbatch
  · rintro ⟨j, hj, batch, hbatch, ha⟩
    exact ⟨j, batch, by rw [List.getElem?_take, if_pos hj, hbatch], ha⟩

theorem IsFirstFit.init {colour : α → ℕ} (h : IsFirstFit conflicts colour (l ++ [a])) :
    IsFirstFit conflicts colour l := by
  intro earlier b later hl
  exact h earlier b (later ++ [a]) (by rw [hl, List.append_assoc, List.cons_append])

/-- **The colours are the batches.** A first-fit colouring gives every element the number of its
batch. -/
theorem IsFirstFit.eq_of_inBatch {colour : α → ℕ} (h : IsFirstFit conflicts colour l) {k : ℕ}
    (hk : InBatch (firstFit conflicts l) k a) : colour a = k := by
  induction l using List.reverseRecOn generalizing a k with
  | nil =>
    obtain ⟨batch, hbatch, -⟩ := hk
    simp [firstFit] at hbatch
  | append_singleton l b ih =>
    rw [firstFit_concat] at hk
    obtain ⟨i, hbefore, hfree, hplaced⟩ := place_spec conflicts b (firstFit conflicts l)
    obtain ⟨hlast, htaken⟩ := h l b [] rfl
    rcases (hplaced k a).mp hk with hk | ⟨rfl, rfl⟩
    · exact ih h.init hk
    · apply Nat.le_antisymm
      · by_contra hlt
        obtain ⟨c, hc, hcolour, hconflict⟩ := htaken k (Nat.lt_of_not_le hlt)
        obtain ⟨j, hj⟩ := exists_inBatch_iff.mpr ((flatten_firstFit conflicts l).mem_iff.mpr hc)
        obtain rfl : j = k := (ih h.init hj).symm.trans hcolour
        exact absurd (hfree c hj) (by simp [hconflict])
      · by_contra hlt
        obtain ⟨c, hc, hconflict⟩ := hbefore (colour a) (Nat.lt_of_not_le hlt)
        have hmem : c ∈ l :=
          (flatten_firstFit conflicts l).mem_iff.mp (exists_inBatch_iff.mp ⟨_, hc⟩)
        exact absurd (hlast c hmem (ih h.init hc)) (by simp [hconflict])

/-- The batches of a list without repetitions are those of a first-fit colouring. -/
theorem exists_isFirstFit (conflicts : α → α → Bool) (hl : l.Nodup) :
    ∃ colour, IsFirstFit conflicts colour l := by
  classical
  induction l using List.reverseRecOn with
  | nil => exact ⟨fun _ ↦ 0, fun _ _ _ h ↦ by simp at h⟩
  | append_singleton l a ih =>
    obtain ⟨hnodup, -, hdisjoint⟩ := List.nodup_append'.mp hl
    have ha : a ∉ l := fun h ↦ hdisjoint h List.mem_cons_self
    obtain ⟨colour, hcolour⟩ := ih hnodup
    obtain ⟨k, hbefore, hfree, -⟩ := place_spec conflicts a (firstFit conflicts l)
    have hmem {j : ℕ} {b : α} (hb : InBatch (firstFit conflicts l) j b) : b ∈ l :=
      (flatten_firstFit conflicts l).mem_iff.mp (exists_inBatch_iff.mp ⟨j, hb⟩)
    have hkeep {b : α} (hb : b ∈ l) : Function.update colour a k b = colour b :=
      Function.update_of_ne (ne_of_mem_of_not_mem hb ha) ..
    refine ⟨Function.update colour a k, fun earlier b later heq ↦ ?_⟩
    rcases List.eq_nil_or_concat later with rfl | ⟨later, c, rfl⟩
    · -- the last element
      obtain ⟨rfl, hab⟩ := List.append_inj' heq rfl
      obtain rfl : a = b := by simpa using hab
      rw [Function.update_self]
      refine ⟨fun b hb hsame ↦ hfree b ?_, fun j hj ↦ ?_⟩
      · rw [hkeep hb] at hsame
        obtain ⟨j, hj⟩ := exists_inBatch_iff.mpr ((flatten_firstFit conflicts l).mem_iff.mpr hb)
        rwa [← hsame, hcolour.eq_of_inBatch hj]
      · obtain ⟨b, hb, hconflict⟩ := hbefore j hj
        exact ⟨b, hmem hb, by rw [hkeep (hmem hb), hcolour.eq_of_inBatch hb], hconflict⟩
    · -- an earlier one keeps its colour, and so do those before it
      rw [List.concat_eq_append, ← List.cons_append, ← List.append_assoc] at heq
      obtain ⟨hinit, -⟩ := List.append_inj' heq rfl
      obtain ⟨hdiff, htaken⟩ := hcolour earlier b later hinit
      have hbl : b ∈ l := hinit ▸ List.mem_append_right _ List.mem_cons_self
      have hel {d : α} (hd : d ∈ earlier) : d ∈ l := hinit ▸ List.mem_append_left _ hd
      rw [hkeep hbl]
      refine ⟨fun d hd hsame ↦ hdiff d hd (by rwa [hkeep (hel hd)] at hsame), fun j hj ↦ ?_⟩
      obtain ⟨d, hd, hcd, hconflict⟩ := htaken j hj
      exact ⟨d, hd, by rw [hkeep (hel hd), hcd], hconflict⟩

/-- Two elements of a batch are free of conflicts, in the order in which they were placed. -/
theorem IsFirstFit.eq_false {colour : α → ℕ} (h : IsFirstFit conflicts colour l) {b : α}
    (hsymm : ∀ a b, conflicts a b = conflicts b a) (ha : a ∈ l) (hb : b ∈ l) (hne : a ≠ b)
    (hcolour : colour a = colour b) : conflicts a b = false := by
  obtain ⟨front, back, rfl⟩ := List.append_of_mem ha
  rcases List.mem_append.mp hb with hb | hb
  · exact (h front a back rfl).1 b hb hcolour.symm
  · obtain ⟨middle, last, rfl⟩ := List.append_of_mem ((List.mem_cons.mp hb).resolve_left hne.symm)
    rw [hsymm]
    refine (h (front ++ a :: middle) b last ?_).1 a ?_ hcolour
    · rw [List.append_assoc, List.cons_append]
    · exact List.mem_append_right _ List.mem_cons_self

theorem IsFirstFit.exists_conflict {colour : α → ℕ} (h : IsFirstFit conflicts colour l)
    (ha : a ∈ l) {k : ℕ} (hk : k < colour a) :
    ∃ b ∈ l, colour b = k ∧ conflicts a b = true := by
  obtain ⟨front, back, rfl⟩ := List.append_of_mem ha
  obtain ⟨b, hb, hcolour, hconflict⟩ := (h front a back rfl).2 k hk
  exact ⟨b, List.mem_append_left _ hb, hcolour, hconflict⟩

theorem IsFirstFit.inBatch_iff {colour : α → ℕ} (h : IsFirstFit conflicts colour l) {k : ℕ} :
    InBatch (firstFit conflicts l) k a ↔ a ∈ l ∧ colour a = k := by
  constructor
  · intro hk
    exact ⟨(flatten_firstFit conflicts l).mem_iff.mp (exists_inBatch_iff.mp ⟨k, hk⟩),
      h.eq_of_inBatch hk⟩
  · rintro ⟨ha, rfl⟩
    obtain ⟨j, hj⟩ := exists_inBatch_iff.mpr ((flatten_firstFit conflicts l).mem_iff.mpr ha)
    rwa [h.eq_of_inBatch hj]

end Collections
