import Mathlib.Data.List.Basic

/-!
# Texts in parts

Splitting a text at a separator, and joining parts with it. Parts without the separator are found
again in the text that joins them (`split_join`), and the parts of a text join to it again
(`join_split`). Lists that are joined with several elements in between are determined by the whole
when no part has the first of them (`List.intercalate_inj`).
-/

/-- No piece of a list that is split has the element it is split at. -/
theorem List.notMem_of_mem_splitOn {α : Type*} [BEq α] [LawfulBEq α] {a : α} {l piece : List α}
    (h : piece ∈ l.splitOn a) : a ∉ piece := by
  induction l generalizing piece with
  | nil =>
    rw [List.splitOn_nil, List.mem_singleton] at h
    simp [h]
  | cons x l ih =>
    rw [List.splitOn_cons_eq_if_modifyHead] at h
    split_ifs at h with hx
    · rcases List.mem_cons.mp h with rfl | h
      · simp
      · exact ih h
    · -- The element goes to the front of the first piece.
      have hne : a ≠ x := fun heq => hx (by simp [heq])
      cases hl : l.splitOn a with
      | nil => exact absurd hl (List.splitOn_ne_nil a l)
      | cons first rest =>
        rw [hl, List.modifyHead_cons] at h
        rcases List.mem_cons.mp h with rfl | h
        · have hfirst : a ∉ first := ih (hl ▸ List.mem_cons_self)
          simp [hne, hfirst]
        · exact ih (hl ▸ List.mem_cons_of_mem first h)

theorem List.pair_inj {α : Type*} {a b c d : α} (h : [a, b] = [c, d]) : a = c ∧ b = d := by
  simpa using h

/-- The first occurrence of an element cuts a list in one way. -/
theorem List.append_cons_inj_of_notMem_left {α : Type*} {a : α} {x x' rest rest' : List α}
    (hx : a ∉ x) (hx' : a ∉ x') (h : x ++ a :: rest = x' ++ a :: rest') :
    x = x' ∧ rest = rest' := by
  induction x generalizing x' with
  | nil =>
    cases x' with
    | nil => exact ⟨rfl, (List.cons.inj h).2⟩
    | cons b x' => exact absurd ((List.cons.inj h).1 ▸ List.mem_cons_self) hx'
  | cons b x ih =>
    cases x' with
    | nil => exact absurd ((List.cons.inj h).1 ▸ List.mem_cons_self) hx
    | cons b' x' =>
      obtain ⟨rfl, htail⟩ := List.cons.inj h
      obtain ⟨rfl, rfl⟩ := ih (fun hmem => hx (List.mem_cons_of_mem b hmem))
        (fun hmem => hx' (List.mem_cons_of_mem b hmem)) htail
      exact ⟨rfl, rfl⟩

/-- Parts are found again when none of them has the first element of the separator. -/
theorem List.intercalate_inj {α : Type*} {a : α} {sep : List α} {l l' : List (List α)}
    (hl : ∀ x ∈ l, a ∉ x) (hl' : ∀ x ∈ l', a ∉ x) (hne : l ≠ []) (hne' : l' ≠ [])
    (h : (a :: sep).intercalate l = (a :: sep).intercalate l') : l = l' := by
  induction l generalizing l' with
  | nil => exact absurd rfl hne
  | cons x l ih =>
    obtain ⟨x', m', rfl⟩ := List.exists_cons_of_ne_nil hne'
    obtain ⟨hx, hrest⟩ := List.forall_mem_cons.mp hl
    obtain ⟨hx', hrest'⟩ := List.forall_mem_cons.mp hl'
    -- A single part has no separator, and two parts have one between them.
    have hone {x x' y : List α} {m : List (List α)} (hx : a ∉ x)
        (h : x = (a :: sep).intercalate (x' :: y :: m)) : False := by
      rw [List.intercalate_cons_cons] at h
      exact hx (by simp [h])
    cases l with
    | nil =>
      cases m' with
      | nil => simpa using h
      | cons y' m' => exact (hone hx (by rw [← h, List.intercalate_singleton])).elim
    | cons y l =>
      cases m' with
      | nil => exact (hone hx' (by rw [h, List.intercalate_singleton])).elim
      | cons y' m' =>
        simp only [List.intercalate_cons_cons, List.append_assoc, List.cons_append] at h
        obtain ⟨rfl, htail⟩ := List.append_cons_inj_of_notMem_left hx hx' h
        have htail := ih hrest hrest' (List.cons_ne_nil y l) (List.cons_ne_nil y' m')
          (List.append_cancel_left htail)
        rw [htail]

namespace Text

variable {sep : Char} {parts : List String} {s : String}

/-- The parts of a text between the separators. -/
def split (sep : Char) (s : String) : List String := (s.toList.splitOn sep).map String.ofList

/-- The parts with a separator between each two. -/
def join (sep : Char) (parts : List String) : String :=
  String.ofList ([sep].intercalate (parts.map String.toList))

theorem toList_join : (join sep parts).toList = [sep].intercalate (parts.map String.toList) :=
  String.toList_ofList

theorem split_join (hsep : ∀ s ∈ parts, sep ∉ s.toList) (hne : parts ≠ []) :
    split sep (join sep parts) = parts := by
  have hchars : ∀ l ∈ parts.map String.toList, sep ∉ l := by
    intro l hl
    obtain ⟨s, hs, rfl⟩ := List.mem_map.mp hl
    exact hsep s hs
  have hparts : parts.map String.toList ≠ [] := by simpa using hne
  rw [split, toList_join, List.splitOn_intercalate sep hchars hparts, List.map_map]
  have hid : String.ofList ∘ String.toList = id := funext fun _ => String.ofList_toList
  rw [hid, List.map_id]

theorem join_split (sep : Char) (s : String) : join sep (split sep s) = s := by
  have hid : String.toList ∘ String.ofList = id := funext fun _ => String.toList_ofList
  rw [join, split, List.map_map, hid, List.map_id, List.intercalate_splitOn, String.ofList_toList]

theorem split_ne_nil (sep : Char) (s : String) : split sep s ≠ [] := by
  rw [split, Ne, List.map_eq_nil_iff]
  exact List.splitOn_ne_nil sep s.toList

theorem sep_notMem_of_mem_split {part : String} (h : part ∈ split sep s) : sep ∉ part.toList := by
  obtain ⟨piece, hpiece, rfl⟩ := List.mem_map.mp h
  rw [String.toList_ofList]
  exact List.notMem_of_mem_splitOn hpiece

/-- A text without the separator is its only part. -/
theorem split_eq_singleton (h : sep ∉ s.toList) : split sep s = [s] := by
  rw [split, List.splitOn_eq_singleton h, List.map_singleton, String.ofList_toList]

@[simp] theorem join_singleton (sep : Char) (s : String) : join sep [s] = s := by
  rw [join, List.map_singleton, List.intercalate_singleton, String.ofList_toList]

theorem join_cons (sep : Char) (s : String) (hne : parts ≠ []) :
    join sep (s :: parts) = s ++ String.singleton sep ++ join sep parts := by
  have hparts : parts.map String.toList ≠ [] := by simpa using hne
  apply String.toList_injective
  rw [toList_join, List.map_cons, List.intercalate_cons_of_ne_nil hparts, String.toList_append,
    String.toList_append, toList_join, String.toList_singleton]

theorem join_append {parts' : List String} (sep : Char) (hne : parts ≠ []) (hne' : parts' ≠ []) :
    join sep (parts ++ parts') = join sep parts ++ String.singleton sep ++ join sep parts' := by
  induction parts with
  | nil => exact absurd rfl hne
  | cons s parts ih =>
    cases parts with
    | nil => rw [List.singleton_append, join_cons sep s hne', join_singleton]
    | cons s' parts =>
      have hcons : s' :: parts ≠ [] := List.cons_ne_nil s' parts
      rw [List.cons_append, join_cons sep s (by simp), ih hcons, join_cons sep s hcons]
      simp only [String.append_assoc]

/-- Parts that are joined themselves join to the same text as all of their parts. -/
theorem join_map_join {groups : List (List String)} (h : ∀ group ∈ groups, group ≠ []) :
    join sep (groups.map (join sep)) = join sep groups.flatten := by
  induction groups with
  | nil => rfl
  | cons group groups ih =>
    have hgroup : group ≠ [] := h group List.mem_cons_self
    have hrest : ∀ g ∈ groups, g ≠ [] := fun g hg => h g (List.mem_cons_of_mem group hg)
    cases groups with
    | nil => simp
    | cons next groups =>
      have hflat : (next :: groups).flatten ≠ [] := by
        simp [hrest next List.mem_cons_self]
      have hsplit : (group :: next :: groups).flatten = group ++ (next :: groups).flatten :=
        List.flatten_cons
      rw [List.map_cons, join_cons sep _ (by simp), ih hrest, hsplit,
        join_append sep hgroup hflat]

end Text
