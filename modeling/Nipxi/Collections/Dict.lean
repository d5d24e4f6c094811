import Mathlib.Data.Finset.Basic
import Mathlib.Data.List.Nodup

/-!
# Insertion-ordered dictionaries

A dictionary is a list of key–value pairs without repeated keys, read in insertion order:
assigning to a fresh key appends, assigning to a known key replaces its value in place. The
absence of repeated keys is a field, so looking a key up and finding its pair among the items
are the same thing (`mem_items_iff`), and iteration order is part of the value.

`upsert` is the one writing operation; plain assignment and the grouping idiom "fetch the
collection stored here, or a fresh one, and put this in it" are instances. `collect` is that
idiom as a whole loop, and `get?_collect` says what it computes.
-/

namespace Collections

universe u v w

/-- A finite map that remembers the order in which its keys were first assigned. -/
structure Dict (κ : Type u) (α : Type v) where
  /-- The pairs, oldest key first. -/
  items : List (κ × α)
  /-- No key is listed twice. -/
  nodup_keys : (items.map Prod.fst).Nodup

namespace Dict

variable {κ : Type u} {α : Type v}

/-! ## Reading -/

/-- The keys in insertion order. -/
def keys (d : Dict κ α) : List κ := d.items.map Prod.fst

/-- The dictionary without keys. -/
def empty : Dict κ α := ⟨[], List.nodup_nil⟩

@[simp] theorem items_empty : (empty : Dict κ α).items = [] := rfl

@[simp] theorem keys_empty : (empty : Dict κ α).keys = [] := rfl

theorem items_eq_nil_iff {d : Dict κ α} : d.items = [] ↔ ∀ k, k ∉ d.keys := by
  rw [keys, ← List.eq_nil_iff_forall_not_mem, List.map_eq_nil_iff]

variable [DecidableEq κ]

/-- The value stored first under `k` in a list of pairs. -/
def lookup (k : κ) : List (κ × α) → Option α
  | [] => none
  | (k', v) :: t => if k' = k then some v else lookup k t

/-- The value stored under `k`, if there is one. -/
def get? (d : Dict κ α) (k : κ) : Option α := lookup k d.items

private theorem mem_of_lookup {k : κ} {v : α} {l : List (κ × α)} (h : lookup k l = some v) :
    (k, v) ∈ l := by
  induction l with
  | nil => simp [lookup] at h
  | cons p t ih =>
    obtain ⟨k', v'⟩ := p
    rw [lookup] at h
    by_cases hk : k' = k
    · rw [if_pos hk, Option.some.injEq] at h
      rw [← hk, ← h]
      exact List.mem_cons_self
    · rw [if_neg hk] at h
      exact List.mem_cons_of_mem _ (ih h)

private theorem lookup_of_mem {k : κ} {v : α} {l : List (κ × α)}
    (hl : (l.map Prod.fst).Nodup) (h : (k, v) ∈ l) : lookup k l = some v := by
  induction l with
  | nil => simp at h
  | cons p t ih =>
    obtain ⟨k', v'⟩ := p
    rw [List.map_cons, List.nodup_cons] at hl
    rcases List.mem_cons.mp h with heq | htail
    · obtain ⟨rfl, rfl⟩ := Prod.mk.injEq .. ▸ heq
      rw [lookup, if_pos rfl]
    · have hne : k' ≠ k := by
        rintro rfl
        exact hl.1 (List.mem_map.mpr ⟨(k', v), htail, rfl⟩)
      rw [lookup, if_neg hne, ih hl.2 htail]

/-- **Lookup is membership.** A dictionary stores `v` under `k` exactly when it lists the
pair. -/
theorem mem_items_iff {d : Dict κ α} {k : κ} {v : α} : (k, v) ∈ d.items ↔ d.get? k = some v :=
  ⟨lookup_of_mem d.nodup_keys, mem_of_lookup⟩

@[simp] theorem get?_empty (k : κ) : (empty : Dict κ α).get? k = none := rfl

theorem mem_keys_iff {d : Dict κ α} {k : κ} : k ∈ d.keys ↔ ∃ v, d.get? k = some v := by
  constructor
  · intro h
    obtain ⟨⟨k', v⟩, hp, rfl⟩ := List.mem_map.mp h
    exact ⟨v, mem_items_iff.mp hp⟩
  · rintro ⟨v, hv⟩
    exact List.mem_map.mpr ⟨(k, v), mem_items_iff.mpr hv, rfl⟩

/-! ## Writing -/

/-- Replaces what is listed under `k` by `f` of it, appending the pair if `k` is fresh. -/
def upsertList (k : κ) (f : Option α → α) : List (κ × α) → List (κ × α)
  | [] => [(k, f none)]
  | (k', v) :: t => if k' = k then (k', f (some v)) :: t else (k', v) :: upsertList k f t

private theorem fst_mem_upsertList {k k' : κ} {f : Option α → α} {l : List (κ × α)}
    (h : k' ∈ (upsertList k f l).map Prod.fst) : k' = k ∨ k' ∈ l.map Prod.fst := by
  induction l with
  | nil => simpa [upsertList] using h
  | cons p t ih =>
    rw [upsertList] at h
    split at h
    · exact Or.inr (by simpa using h)
    · rcases List.mem_cons.mp h with rfl | h
      · exact Or.inr (by simp)
      · exact (ih h).imp_right fun h' ↦ List.mem_cons_of_mem _ h'

private theorem nodup_upsertList (k : κ) (f : Option α → α) {l : List (κ × α)}
    (hl : (l.map Prod.fst).Nodup) : ((upsertList k f l).map Prod.fst).Nodup := by
  induction l with
  | nil => simp [upsertList]
  | cons p t ih =>
    obtain ⟨k', v⟩ := p
    rw [List.map_cons, List.nodup_cons] at hl
    rw [upsertList]
    split
    · simpa using hl
    · rename_i hne
      rw [List.map_cons, List.nodup_cons]
      refine ⟨fun hmem ↦ ?_, ih hl.2⟩
      rcases fst_mem_upsertList hmem with rfl | hmem
      · exact hne rfl
      · exact hl.1 hmem

private theorem lookup_upsertList_self (k : κ) (f : Option α → α) (l : List (κ × α)) :
    lookup k (upsertList k f l) = some (f (lookup k l)) := by
  induction l with
  | nil => simp [upsertList, lookup]
  | cons p t ih =>
    by_cases hk : p.1 = k
    · simp [upsertList, lookup, hk]
    · simp [upsertList, lookup, hk, ih]

private theorem lookup_upsertList_of_ne {k k' : κ} (h : k' ≠ k) (f : Option α → α)
    (l : List (κ × α)) : lookup k' (upsertList k f l) = lookup k' l := by
  induction l with
  | nil => simp [upsertList, lookup, h.symm]
  | cons p t ih =>
    by_cases hk : p.1 = k
    · have hne : p.1 ≠ k' := fun h' ↦ h (h'.symm.trans hk)
      simp [upsertList, lookup, hk, hk ▸ hne]
    · simp [upsertList, lookup, hk, ih]

/-- Stores `f` of what was stored under `k`. A fresh key goes last, a known key keeps its
place. -/
def upsert (d : Dict κ α) (k : κ) (f : Option α → α) : Dict κ α :=
  ⟨upsertList k f d.items, nodup_upsertList k f d.nodup_keys⟩

/-- Plain assignment. -/
def insert (d : Dict κ α) (k : κ) (v : α) : Dict κ α := d.upsert k fun _ ↦ v

theorem get?_upsert (d : Dict κ α) (k k' : κ) (f : Option α → α) :
    (d.upsert k f).get? k' = if k' = k then some (f (d.get? k)) else d.get? k' := by
  by_cases h : k' = k
  · rw [if_pos h, h]
    exact lookup_upsertList_self k f d.items
  · rw [if_neg h]
    exact lookup_upsertList_of_ne h f d.items

theorem get?_insert (d : Dict κ α) (k k' : κ) (v : α) :
    (d.insert k v).get? k' = if k' = k then some v else d.get? k' :=
  get?_upsert d k k' _

/-- Assigning a list of pairs in order; the last value of a key is the one that stays. -/
def assign (l : List (κ × α)) (d : Dict κ α) : Dict κ α :=
  l.foldl (fun d p ↦ d.insert p.1 p.2) d

theorem mem_keys_assign {l : List (κ × α)} {d : Dict κ α} {k : κ} :
    k ∈ (assign l d).keys ↔ k ∈ l.map Prod.fst ∨ k ∈ d.keys := by
  induction l generalizing d with
  | nil => simp [assign]
  | cons p t ih =>
    have hstep : assign (p :: t) d = assign t (d.insert p.1 p.2) := rfl
    have hkeys : k ∈ (d.insert p.1 p.2).keys ↔ k = p.1 ∨ k ∈ d.keys := by
      rw [mem_keys_iff, get?_insert, mem_keys_iff]
      by_cases hk : k = p.1 <;> simp [hk]
    rw [hstep, ih, hkeys, List.map_cons, List.mem_cons, or_left_comm, or_assoc]

theorem mem_of_mem_assign {l : List (κ × α)} {d : Dict κ α} {p : κ × α}
    (h : p ∈ (assign l d).items) : p ∈ l ∨ p ∈ d.items := by
  induction l generalizing d with
  | nil => exact Or.inr h
  | cons q t ih =>
    rcases ih h with h | h
    · exact Or.inl (List.mem_cons_of_mem _ h)
    · have hget : (d.insert q.1 q.2).get? p.1 = some p.2 := mem_items_iff.mp h
      rw [get?_insert] at hget
      split at hget
      · rename_i hk
        have hpq : p = q := Prod.ext hk (Option.some.inj hget).symm
        exact Or.inl (hpq ▸ List.mem_cons_self)
      · exact Or.inr (mem_items_iff.mpr hget)

/-- A key assigned one value only has that value. -/
theorem get?_assign {l : List (κ × α)} {k : κ} {v : α} (hmem : (k, v) ∈ l)
    (hunique : ∀ v', (k, v') ∈ l → v' = v) : (assign l empty).get? k = some v := by
  have hkey : k ∈ (assign l empty).keys :=
    mem_keys_assign.mpr (Or.inl (List.mem_map_of_mem hmem))
  obtain ⟨v', hv'⟩ := mem_keys_iff.mp hkey
  rcases mem_of_mem_assign (mem_items_iff.mpr hv') with h | h
  · rw [hv', hunique v' h]
  · exact absurd h List.not_mem_nil

/-- Assigned values are read back, where no key is assigned two. -/
theorem get?_assign_iff {l : List (κ × α)} {k : κ} {v : α}
    (h : ∀ k a b, (k, a) ∈ l → (k, b) ∈ l → a = b) :
    (assign l empty).get? k = some v ↔ (k, v) ∈ l := by
  constructor
  · intro hget
    exact (mem_of_mem_assign (mem_items_iff.mpr hget)).resolve_right List.not_mem_nil
  · intro hmem
    exact get?_assign hmem fun v' hv' ↦ h k v' v hv' hmem

/-- A fresh key is appended. -/
theorem upsertList_of_notMem {k : κ} {f : Option α → α} {l : List (κ × α)}
    (h : k ∉ l.map Prod.fst) : upsertList k f l = l ++ [(k, f none)] := by
  induction l with
  | nil => rfl
  | cons p t ih =>
    rw [List.map_cons, List.mem_cons, not_or] at h
    rw [upsertList, if_neg fun hk ↦ h.1 hk.symm, ih h.2, List.cons_append]

/-- Different keys are listed in the order they were assigned in. -/
theorem items_assign_append {l : List (κ × α)} {d : Dict κ α}
    (h : ((d.items ++ l).map Prod.fst).Nodup) : (assign l d).items = d.items ++ l := by
  induction l generalizing d with
  | nil => exact (List.append_nil _).symm
  | cons p t ih =>
    have hfresh : p.1 ∉ d.items.map Prod.fst := by
      intro hmem
      rw [List.map_append, List.nodup_append'] at h
      exact h.2.2 hmem List.mem_cons_self
    have hinsert : (d.insert p.1 p.2).items = d.items ++ [p] := upsertList_of_notMem hfresh
    have hsplit : (d.insert p.1 p.2).items ++ t = d.items ++ p :: t := by
      rw [hinsert, List.append_assoc]
      rfl
    have hstep : assign (p :: t) d = assign t (d.insert p.1 p.2) := rfl
    rw [hstep, ih (by rwa [hsplit]), hsplit]

/-- **Different keys are kept as they are.** -/
theorem items_assign {l : List (κ × α)} (h : (l.map Prod.fst).Nodup) :
    (assign l empty).items = l :=
  items_assign_append h

/-! ## Grouping -/

/-- The grouping loop: every pair's second component is added to the collection kept under its
first, a fresh collection where there is none yet. -/
def collect {β : Type w} (fresh : α) (add : α → β → α) (l : List (κ × β)) (d : Dict κ α) :
    Dict κ α :=
  l.foldl (fun d p ↦ d.upsert p.1 fun o ↦ add (o.getD fresh) p.2) d

variable {β : Type w} {fresh : α} {add : α → β → α}

@[simp] theorem collect_nil (d : Dict κ α) : collect fresh add [] d = d := rfl

/-- What a grouping loop leaves under one key: the pairs of that key, folded in order onto the
collection that was there, and nothing else. -/
theorem get?_collect (l : List (κ × β)) (d : Dict κ α) (k : κ) :
    (collect fresh add l d).get? k
      = if k ∈ l.map Prod.fst
        then some (((l.filter (·.1 = k)).map Prod.snd).foldl add ((d.get? k).getD fresh))
        else d.get? k := by
  induction l generalizing d with
  | nil => simp
  | cons p t ih =>
    have hstep : collect fresh add (p :: t) d
        = collect fresh add t (d.upsert p.1 fun o ↦ add (o.getD fresh) p.2) := rfl
    rw [hstep, ih, get?_upsert, List.map_cons]
    by_cases hk : k = p.1
    · rw [if_pos hk, if_pos (List.mem_cons.mpr (Or.inl hk)),
        List.filter_cons_of_pos (by simp [hk]), ← hk]
      by_cases ht : k ∈ t.map Prod.fst
      · rw [if_pos ht]
        rfl
      · have hnil : t.filter (·.1 = k) = [] := by
          rw [List.filter_eq_nil_iff]
          intro q hq hqk
          exact ht (of_decide_eq_true hqk ▸ List.mem_map_of_mem hq)
        rw [if_neg ht, hnil]
        rfl
    · have hfil : (p :: t).filter (·.1 = k) = t.filter (·.1 = k) :=
        List.filter_cons_of_neg (by simpa using fun h ↦ hk h.symm)
      rw [if_neg hk, hfil]
      simp only [List.mem_cons, hk, false_or]

/-- The keys after grouping are the old ones and those of the pairs. -/
theorem mem_keys_collect {l : List (κ × β)} {d : Dict κ α} {k : κ} :
    k ∈ (collect fresh add l d).keys ↔ k ∈ l.map Prod.fst ∨ k ∈ d.keys := by
  rw [mem_keys_iff, get?_collect, mem_keys_iff]
  by_cases hk : k ∈ l.map Prod.fst
  · rw [if_pos hk]
    exact ⟨fun _ ↦ Or.inl hk, fun _ ↦ ⟨_, rfl⟩⟩
  · rw [if_neg hk]
    exact ⟨Or.inr, fun h ↦ h.resolve_left hk⟩

/-- Grouping into finite sets: an element is kept under a key when a pair said so, or when it
was kept there before. -/
theorem mem_collect_insert [DecidableEq β] (l : List (κ × β)) (d : Dict κ (Finset β)) (k : κ)
    (b : β) :
    b ∈ ((collect ∅ (fun s b ↦ Insert.insert b s) l d).get? k).getD ∅
      ↔ (k, b) ∈ l ∨ b ∈ (d.get? k).getD ∅ := by
  have hfold : ∀ (m : List β) (s : Finset β),
      b ∈ m.foldl (fun s b ↦ Insert.insert b s) s ↔ b ∈ m ∨ b ∈ s := by
    intro m
    induction m with
    | nil => simp
    | cons a t ih => intro s; simp [ih, or_left_comm, or_assoc]
  rw [get?_collect]
  by_cases hk : k ∈ l.map Prod.fst
  · rw [if_pos hk, Option.getD_some, hfold]
    simp
  · have hno : (k, b) ∉ l := fun h ↦ hk (List.mem_map.mpr ⟨(k, b), h, rfl⟩)
    rw [if_neg hk]
    simp [hno]

/-- Grouping by union: an element is kept under a key when one of the key's sets had it, or when
it was kept there before. -/
theorem mem_collect_union [DecidableEq β] (l : List (κ × Finset β)) (d : Dict κ (Finset β))
    (k : κ) (b : β) :
    b ∈ ((collect ∅ (fun s t ↦ s ∪ t) l d).get? k).getD ∅
      ↔ (∃ t, (k, t) ∈ l ∧ b ∈ t) ∨ b ∈ (d.get? k).getD ∅ := by
  have hfold : ∀ (m : List (Finset β)) (s : Finset β),
      b ∈ m.foldl (fun s t ↦ s ∪ t) s ↔ (∃ t ∈ m, b ∈ t) ∨ b ∈ s := by
    intro m
    induction m with
    | nil => simp
    | cons a t ih =>
      intro s
      rw [List.foldl_cons, ih, Finset.mem_union, List.exists_mem_cons_iff]
      simp only [or_comm, or_left_comm, or_assoc]
  rw [get?_collect]
  by_cases hk : k ∈ l.map Prod.fst
  · rw [if_pos hk, Option.getD_some, hfold]
    simp
  · have hno : ∀ t, (k, t) ∉ l := fun t h ↦ hk (List.mem_map.mpr ⟨(k, t), h, rfl⟩)
    rw [if_neg hk]
    simp [hno]

/-- Grouping into lists: what is kept under a key is the elements of its pairs, in order. -/
theorem get?_collect_append (l : List (κ × β)) (k : κ) :
    (collect [] (fun s b ↦ s ++ [b]) l (empty : Dict κ (List β))).get? k
      = if k ∈ l.map Prod.fst then some ((l.filter (·.1 = k)).map Prod.snd) else none := by
  have hfold : ∀ (m s : List β), m.foldl (fun s b ↦ s ++ [b]) s = s ++ m := by
    intro m
    induction m with
    | nil => simp
    | cons a t ih => intro s; simp [ih]
  rw [get?_collect, hfold]
  rfl

end Dict

end Collections
