import Mathlib.Data.List.AList
import Mathlib.Data.List.Sort

/-!
# Nearest keys of a finite map

A finite map with linearly ordered keys, and the entries whose key is nearest to a given one from
above or from below. Both are found the way a sorted walk finds them; `next_eq_some` and
`prev_eq_some` say which key the walk stops at, and `prev_eq_none` when it stops at none.

For a list, `head?_insertionSort` says which element a stable sort puts first.
-/

namespace List

variable {α : Type} {r : α → α → Prop} {l : List α} {p : α → Bool} {a : α}

/-- The first match in an ordered list comes before every other match. -/
theorem find?_eq_some_of_pairwise (hr : ∀ a, r a a) (h : l.Pairwise r) (ha : l.find? p = some a) :
    a ∈ l ∧ p a = true ∧ ∀ x ∈ l, p x = true → r a x := by
  induction l with
  | nil => simp at ha
  | cons x l ih =>
      obtain ⟨hx, hl⟩ := List.pairwise_cons.mp h
      rw [List.find?_cons] at ha
      split at ha
      · rename_i hp
        cases ha
        refine ⟨List.mem_cons_self, hp, fun y hy _ => ?_⟩
        rcases List.mem_cons.mp hy with rfl | hy
        · exact hr _
        · exact hx y hy
      · rename_i hp
        obtain ⟨ha, hpa, hmin⟩ := ih hl ha
        refine ⟨List.mem_cons_of_mem _ ha, hpa, fun y hy hpy => ?_⟩
        rcases List.mem_cons.mp hy with rfl | hy
        · simp [hp] at hpy
        · exact hmin y hy hpy

/-- A stable sort puts first what comes first among the least. -/
theorem head?_insertionSort {β : Type} [LinearOrder β] {f : α → β}
    (h : (l.insertionSort fun x y => f x ≤ f y).head? = some a) :
    (∀ x ∈ l, f a ≤ f x) ∧ l.find? (fun x => decide (f x = f a)) = some a := by
  induction l generalizing a with
  | nil => simp at h
  | cons x l ih =>
      rw [insertionSort_cons] at h
      cases hs : l.insertionSort fun x y => f x ≤ f y with
      | nil =>
        have hl : l = [] := by
          have hlen := length_insertionSort (fun x y => f x ≤ f y) l
          rw [hs] at hlen
          exact length_eq_zero_iff.mp hlen.symm
        simp only [hs, orderedInsert_nil, head?_cons, Option.some.injEq] at h
        simp [hl, h]
      | cons y rest =>
        obtain ⟨hleast, hfirst⟩ := ih (by rw [hs, head?_cons])
        rw [hs, orderedInsert_cons] at h
        split_ifs at h with hxy
        · -- The new element is the least, and it is the first.
          cases h
          refine ⟨fun z hz => ?_, by simp⟩
          rcases mem_cons.mp hz with rfl | hz
          · exact le_refl _
          · exact hxy.trans (hleast z hz)
        · cases h
          have hlt : f a < f x := not_le.mp hxy
          refine ⟨fun z hz => ?_, ?_⟩
          · rcases mem_cons.mp hz with rfl | hz
            · exact hlt.le
            · exact hleast z hz
          · rw [find?_cons_of_neg (by simp [hlt.ne'])]
            exact hfirst

end List

namespace AList

variable {α β : Type} [LinearOrder α] {m : AList fun _ : α => β} {k : α} {b : β}

/-- The keys in ascending order. -/
def sortedKeys (m : AList fun _ : α => β) : List α := m.keys.insertionSort (· ≤ ·)

/-- The entry with the least key above `k`. -/
def next (m : AList fun _ : α => β) (k : α) : Option β :=
  (m.sortedKeys.find? fun k' => decide (k < k')).bind m.lookup

/-- The entry with the greatest key below `k`. -/
def prev (m : AList fun _ : α => β) (k : α) : Option β :=
  (m.sortedKeys.reverse.find? fun k' => decide (k' < k)).bind m.lookup

theorem mem_sortedKeys : k ∈ m.sortedKeys ↔ ∃ b, m.lookup k = some b := by
  rw [sortedKeys, List.mem_insertionSort, ← AList.mem_keys, ← AList.lookup_isSome,
    Option.isSome_iff_exists]

theorem pairwise_sortedKeys : m.sortedKeys.Pairwise (· ≤ ·) := List.pairwise_insertionSort _ _

theorem next_eq_some (h : m.next k = some b) :
    ∃ k', k < k' ∧ m.lookup k' = some b ∧
      ∀ k'' b', k < k'' → m.lookup k'' = some b' → k' ≤ k'' := by
  obtain ⟨k', hf, hb⟩ := Option.bind_eq_some_iff.mp h
  obtain ⟨_, hlt, hmin⟩ := List.find?_eq_some_of_pairwise le_refl pairwise_sortedKeys hf
  refine ⟨k', of_decide_eq_true hlt, hb, fun k'' b' hk hb' => ?_⟩
  exact hmin k'' (mem_sortedKeys.mpr ⟨b', hb'⟩) (decide_eq_true hk)

theorem prev_eq_some (h : m.prev k = some b) :
    ∃ k', k' < k ∧ m.lookup k' = some b ∧
      ∀ k'' b', k'' < k → m.lookup k'' = some b' → k'' ≤ k' := by
  obtain ⟨k', hf, hb⟩ := Option.bind_eq_some_iff.mp h
  have hs : m.sortedKeys.reverse.Pairwise (fun a b => b ≤ a) :=
    List.pairwise_reverse.mpr pairwise_sortedKeys
  obtain ⟨_, hlt, hmax⟩ := List.find?_eq_some_of_pairwise (r := fun a b => b ≤ a) le_refl hs hf
  refine ⟨k', of_decide_eq_true hlt, hb, fun k'' b' hk hb' => ?_⟩
  exact hmax k'' (List.mem_reverse.mpr (mem_sortedKeys.mpr ⟨b', hb'⟩)) (decide_eq_true hk)

theorem prev_eq_none (h : m.prev k = none) {k' : α} (hb : m.lookup k' = some b) : k ≤ k' := by
  by_contra hk
  rcases hf : m.sortedKeys.reverse.find? (fun k' => decide (k' < k)) with _ | k''
  · have := List.find?_eq_none.mp hf k' (List.mem_reverse.mpr (mem_sortedKeys.mpr ⟨b, hb⟩))
    exact this (decide_eq_true (not_le.mp hk))
  · obtain ⟨b'', hb''⟩ := mem_sortedKeys.mp (List.mem_reverse.mp (List.mem_of_find?_eq_some hf))
    simp [prev, hf, hb''] at h

end AList
