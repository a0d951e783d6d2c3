import Mathlib.Data.List.Basic

/-!
# Histories

A history is a list of entries, the newest last. `Justified J l` says that each entry of `l` is
justified, in the sense of `J`, by the entries before it. It is built up entry by entry.
-/

namespace List

variable {α β : Type*}

/-- Every entry is justified by what precedes it. -/
def Justified (J : List α → α → Prop) (l : List α) : Prop :=
  ∀ pre a post, l = pre ++ a :: post → J pre a

theorem justified_nil (J : List α → α → Prop) : Justified J [] := by
  intro pre a post h
  simp at h

/-- A new entry has to be justified by the whole history before it. -/
theorem justified_concat {J : List α → α → Prop} {l : List α} {a : α} :
    Justified J (l ++ [a]) ↔ Justified J l ∧ J l a := by
  refine ⟨fun h => ⟨fun pre b post hl => ?_, h l a [] rfl⟩, fun ⟨hl, ha⟩ pre b post h => ?_⟩
  · exact h pre b (post ++ [a]) (by simp [hl])
  · rcases post.eq_nil_or_concat with rfl | ⟨post', c, rfl⟩
    · obtain ⟨rfl, hb⟩ := List.append_inj' h rfl
      rw [← List.head_eq_of_cons_eq hb]
      exact ha
    · have h' : l ++ [a] = (pre ++ b :: post') ++ [c] := by simpa using h
      exact hl pre b post' (List.append_inj' h' rfl).1

/-- An entry is justified by a part of the history that ends before it. -/
theorem Justified.of_mem {J : List α → α → Prop} {l : List α} {a : α} (h : Justified J l)
    (ha : a ∈ l) : ∃ pre post, l = pre ++ a :: post ∧ J pre a := by
  obtain ⟨pre, post, rfl⟩ := List.append_of_mem ha
  exact ⟨pre, post, rfl, h pre a post rfl⟩

end List
